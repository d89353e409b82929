import RegistryRelay.Pool.Interleaving
import RegistryRelay.Proofs.Pool.Visits

namespace RegistryRelay.Pool

def Call.visit? : Call → Option Visit
  | .acquire key progress => some (.acquire key progress)
  | .teardown progress => some (.teardown progress)
  | _ => none

theorem Call.visit?_eq_none (call : Call) (settled : call.inFlight = false) :
    call.visit? = none := by
  cases call with
  | acquire | teardown => cases settled
  | _ => rfl

namespace Crowd

-- Everything a move of a crowd can do, one rule for each kind of step.
inductive Advance (crowd : Crowd) : Move → Crowd → Prop where
  | ask : Advance crowd (.acquire key) { crowd with calls := crowd.calls ++ [.acquire key .asking] }
  | clear : Advance crowd .clear { crowd with calls := crowd.calls ++ [.teardown .starting] }
  | look (here : crowd.calls[index]? = some (.acquire key .asking)) :
      Advance crowd (.advance index attempt) (crowd.settle (crowd.pool.slotFor key).1 index
        (.acquire key (.waiting (crowd.pool.slotFor key).2)))
  | join (here : crowd.calls[index]? = some (.acquire key (.waiting slot)))
      (held : crowd.pool.content slot = .holds publisher) :
      Advance crowd (.advance index attempt)
        (crowd.settle crowd.pool index (.acquire key (.checking slot publisher false)))
  | start (here : crowd.calls[index]? = some (.acquire key (.waiting slot)))
      (free : crowd.pool.content slot = .empty) :
      Advance crowd (.advance index attempt)
        (crowd.settle (crowd.pool.fill slot .opening) index (.acquire key (.opening slot)))
  | fill (here : crowd.calls[index]? = some (.acquire key (.opening slot)))
      (fresh : publisher ∉ crowd.opened) :
      Advance crowd (.advance index (some publisher))
        { crowd.settle (crowd.pool.fill slot (.holds publisher)) index
            (.acquire key (.checking slot publisher true)) with
          opened := publisher :: crowd.opened }
  | fail (here : crowd.calls[index]? = some (.acquire key (.opening slot))) :
      Advance crowd (.advance index none)
        (crowd.settle (crowd.pool.fill slot .empty) index (.failed key))
  | deliver (here : crowd.calls[index]? = some (.acquire key (.checking slot publisher created)))
      (cached : crowd.pool.caches key slot = true) :
      Advance crowd (.advance index attempt)
        (crowd.settle crowd.pool index (.acquired key publisher created))
  | stale (here : crowd.calls[index]? = some (.acquire key (.checking slot publisher created)))
      (absent : crowd.pool.caches key slot = false) :
      Advance crowd (.advance index attempt)
        { crowd.settle crowd.pool index (.stale key publisher) with
          closed := publisher :: crowd.closed }
  | drain (here : crowd.calls[index]? = some (.teardown .starting)) :
      Advance crowd (.advance index attempt) (crowd.settle { crowd.pool with cached := [] } index
        (.teardown (.closing (crowd.order.arrange crowd.pool.cached) 0)))
  | shut (here : crowd.calls[index]? = some (.teardown (.closing ((key,slot) :: left) n)))
      (held : crowd.pool.held? slot = some publisher) :
      Advance crowd (.advance index attempt)
        { crowd.settle crowd.pool index (.teardown (.closing left (n + 1))) with
          closed := publisher :: crowd.closed }
  | pass (here : crowd.calls[index]? = some (.teardown (.closing ((key,slot) :: left) n)))
      (empty : crowd.pool.held? slot = none) :
      Advance crowd (.advance index attempt)
        (crowd.settle crowd.pool index (.teardown (.closing left n)))
  | leave (here : crowd.calls[index]? = some (.teardown (.closing [] n))) :
      Advance crowd (.advance index attempt) (crowd.settle crowd.pool index (.emptied n))

variable {crowd next : Crowd} {index : Nat}

def scene (crowd : Crowd) : Scene where
  pool := crowd.pool
  visits := visitsOf Call.visit? crowd.calls
  opened := {publisher | publisher ∈ crowd.opened}
  closed := {publisher | publisher ∈ crowd.closed}

section
variable {old : Call} (here : crowd.calls[index]? = some old) (pool : Pool) (call : Call)
include here

theorem scene_settle : (crowd.settle pool index call).scene =
    (crowd.scene.on pool).put index call.visit? := by
  simp only [scene,settle,Scene.put,Scene.on,visitsOf_set Call.visit? here]

theorem scene_settle_opened (publisher : PublisherId) :
    scene { crowd.settle pool index call with opened := publisher :: crowd.opened } =
      ((crowd.scene.on pool).withOpened publisher).put index call.visit? := by
  have opened : {other | other ∈ publisher :: crowd.opened} =
      insert publisher {other | other ∈ crowd.opened} := by ext other; simp
  simp only [scene,settle,Scene.put,Scene.on,Scene.withOpened,visitsOf_set Call.visit? here,opened]

theorem scene_settle_closed (publisher : PublisherId) :
    scene { crowd.settle pool index call with closed := publisher :: crowd.closed } =
      ((crowd.scene.on pool).withClosed publisher).put index call.visit? := by
  have closed : {other | other ∈ publisher :: crowd.closed} =
      insert publisher {other | other ∈ crowd.closed} := by ext other; simp
  simp only [scene,settle,Scene.put,Scene.on,Scene.withClosed,visitsOf_set Call.visit? here,closed]

end

theorem acquire_sound {key : PublisherKey} {progress : Acquisition} {attempt : Option PublisherId}
    (here : crowd.calls[index]? = some (.acquire key progress))
    (advanced : crowd.advanceAcquire index key progress attempt = some next) :
    Advance crowd (.advance index attempt) next := by
  cases progress with
  | asking => cases advanced; exact .look here
  | waiting slot =>
      simp only [advanceAcquire,Acquisition.step] at advanced
      cases content : crowd.pool.content slot with
      | holds publisher => rw [content] at advanced; cases advanced; exact .join here content
      | empty => rw [content] at advanced; cases advanced; exact .start here content
      | opening => rw [content] at advanced; cases advanced
  | opening slot =>
      cases attempt with
      | none => cases advanced; exact .fail here
      | some publisher =>
          simp only [advanceAcquire,Acquisition.step] at advanced
          split at advanced
          · cases advanced
          · rename_i fresh
            cases advanced
            exact .fill here fresh
  | checking slot publisher created =>
      simp only [advanceAcquire,Acquisition.step] at advanced
      cases cached : crowd.pool.caches key slot with
      | true => rw [cached] at advanced; cases advanced; exact .deliver here cached
      | false => rw [cached] at advanced; cases advanced; exact .stale here cached

theorem teardown_sound {progress : Teardown} (attempt : Option PublisherId)
    (here : crowd.calls[index]? = some (.teardown progress)) :
    Advance crowd (.advance index attempt) (crowd.advanceTeardown index progress) := by
  cases progress with
  | starting => exact .drain here
  | closing left n =>
      cases left with
      | nil => exact .leave here
      | cons entry left =>
          obtain ⟨key,slot⟩ := entry
          cases held : crowd.pool.held? slot with
          | some publisher =>
              simp only [advanceTeardown,Teardown.step,held]
              exact .shut here held
          | none =>
              simp only [advanceTeardown,Teardown.step,held]
              exact .pass here held

theorem advance_sound {move : Move} (advanced : crowd.advance move = some next) :
    Advance crowd move next := by
  cases move with
  | acquire key => cases advanced; exact .ask
  | clear => cases advanced; exact .clear
  | advance index attempt =>
      simp only [advance] at advanced
      split at advanced
      · rename_i here; exact acquire_sound here advanced
      · rename_i here; cases advanced; exact teardown_sound attempt here
      · cases advanced

theorem advance_step {move : Move} (advanced : crowd.advance move = some next) :
    Scene.Step crowd.scene next.scene := by
  have at_pool : ∀ {index : Nat} {call : Call}, crowd.calls[index]? = some call →
      crowd.scene.visits index = call.visit? := fun here => visitsOf_here _ here
  cases advance_sound advanced with
  | ask =>
      simp only [scene,visitsOf_append]
      exact .ask (visitsOf_new _)
  | clear =>
      simp only [scene,visitsOf_append]
      exact .clear (visitsOf_new _)
  | look here => rw [scene_settle here]; exact .look (at_pool here)
  | join here held => rw [scene_settle here]; exact .join (at_pool here) held
  | start here free => rw [scene_settle here]; exact .start (at_pool here) free
  | fill here fresh => rw [scene_settle_opened here]; exact .fill (at_pool here) fresh
  | fail here => rw [scene_settle here]; exact .fail (at_pool here)
  | deliver here cached => rw [scene_settle here]; exact .deliver (at_pool here) cached
  | stale here absent => rw [scene_settle_closed here]; exact .stale (at_pool here) absent
  | drain here => rw [scene_settle here]; exact .drain (at_pool here) (crowd.order.perm _)
  | shut here held => rw [scene_settle_closed here]; exact .shut (at_pool here) held
  | pass here empty => rw [scene_settle here]; exact .pass (at_pool here) empty
  | leave here => rw [scene_settle here]; exact .leave (at_pool here)

theorem advance_opened_nodup {move : Move} (advanced : crowd.advance move = some next)
    (nodup : crowd.opened.Nodup) : next.opened.Nodup := by
  cases advance_sound advanced with
  | fill here fresh => exact List.nodup_cons.mpr ⟨fresh,nodup⟩
  | _ => exact nodup

theorem advance_checked {attempt : Option PublisherId} {key : PublisherKey}
    {publisher : PublisherId} (advanced : crowd.advance (.advance index attempt) = some next) :
    (∀ created, next.calls[index]? = some (.acquired key publisher created) →
      ∃ slot, crowd.calls[index]? = some (.acquire key (.checking slot publisher created)) ∧
        crowd.pool.caches key slot = true ∧ next.pool = crowd.pool ∧
        next.closed = crowd.closed) ∧
    (next.calls[index]? = some (.stale key publisher) →
      ∃ slot created, crowd.calls[index]? = some (.acquire key (.checking slot publisher created)) ∧
        crowd.pool.caches key slot = false ∧ next.pool = crowd.pool ∧
        next.closed = publisher :: crowd.closed) := by
  have settled : ∀ {old : Call}, crowd.calls[index]? = some old → ∀ call,
      (crowd.calls.set index call)[index]? = some call := fun here call =>
    List.getElem?_set_self (List.getElem?_eq_some_iff.mp here).1
  cases advance_sound advanced with
  | deliver here cached =>
      refine ⟨fun other came => ?_,fun came => ?_⟩ <;> cases (settled here _).symm.trans came
      exact ⟨_,here,cached,rfl,rfl⟩
  | stale here absent =>
      refine ⟨fun other came => ?_,fun came => ?_⟩ <;> cases (settled here _).symm.trans came
      exact ⟨_,_,here,absent,rfl,rfl⟩
  | look here | join here | start here | fill here | fail here | drain here | shut here
  | pass here | leave here =>
      refine ⟨fun other came => ?_,fun came => ?_⟩ <;> cases (settled here _).symm.trans came

end Crowd

theorem reached_sound {crowd : Crowd} (reached : Reached crowd) : crowd.scene.Sound := by
  induction reached with
  | @initial order =>
      have start : Crowd.scene { order } = ⟨{},fun _ => none,∅,∅⟩ := by
        simp [Crowd.scene,visitsOf_nil]
      rw [start]
      exact Scene.initial_sound
  | step _ advanced ih => exact Scene.preserves_sound ih (Crowd.advance_step advanced)

theorem reached_opened_nodup {crowd : Crowd} (reached : Reached crowd) :
    crowd.opened.Nodup := by
  induction reached with
  | initial => exact List.nodup_nil
  | step _ advanced ih => exact Crowd.advance_opened_nodup advanced ih

theorem run_grows {crowd later : Crowd} {moves : List Move} (reached : Reached crowd)
    (ran : crowd.run moves = some later) : Grows crowd.pool later.pool := by
  induction moves generalizing crowd with
  | nil => cases ran; exact .refl _
  | cons move rest ih =>
      obtain ⟨middle,first,others⟩ := Option.bind_eq_some_iff.mp ran
      exact ((Crowd.advance_step first).grows (reached_sound reached)).trans
        (ih (.step reached first) others)

end RegistryRelay.Pool
