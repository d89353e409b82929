import RegistryRelay.Proofs.Pool.Visits
import RegistryRelay.Proofs.Relay.Advance

namespace RegistryRelay

-- Where a call is at the pool, if it is there. A caller that has the turn is at its slot while it
-- waits for the directory and for the publisher.
def Call.visit? (relay : Relay) : Call → Option Pool.Visit
  | .acquiring message progress => some (.acquire (relay.publisherKey message.device) progress)
  | .fetching message slot => some (.acquire (relay.publisherKey message.device) (.opening slot))
  | .connecting message slot _ =>
      some (.acquire (relay.publisherKey message.device) (.opening slot))
  | .terminate progress _ => some (.teardown progress)
  | _ => none

namespace Relay.System

variable {relay : Relay} {s next : System} {index : Nat} {reply : Option Reply} {call after : Call}
  {state : State} {acts : List Act}

def scene (relay : Relay) (s : System) : Pool.Scene where
  pool := s.state.pool
  visits := Pool.visitsOf (Call.visit? relay) s.calls
  opened := {publisher | ∃ bound, .opened publisher bound ∈ s.acts}
  closed := {publisher | .close publisher ∈ s.acts}

section
variable {record : Record} (here : s.calls[record.call]? = some call)
include here

theorem scene_log : (s.log state record).scene relay =
    Pool.Scene.put ⟨state.pool,(s.scene relay).visits,
      {publisher | ∃ bound, .opened publisher bound ∈ s.acts ++ record.acts},
      {publisher | .close publisher ∈ s.acts ++ record.acts}⟩
      record.call (record.after.visit? relay) := by
  simp only [scene,acts_log,Pool.Scene.put]
  simp only [log,Pool.visitsOf_set _ here]

theorem scene_plain (opens : ∀ publisher bound, .opened publisher bound ∉ record.acts)
    (closes : ∀ publisher, .close publisher ∉ record.acts) :
    (s.log state record).scene relay =
      ((s.scene relay).on state.pool).put record.call (record.after.visit? relay) := by
  rw [scene_log here]
  simp [scene,Pool.Scene.on,opens,closes]

theorem scene_close (publisher : PublisherId)
    (opens : ∀ publisher bound, .opened publisher bound ∉ record.acts)
    (closes : ∀ other, .close other ∈ record.acts ↔ other = publisher) :
    (s.log state record).scene relay = (((s.scene relay).on state.pool).withClosed publisher).put
      record.call (record.after.visit? relay) := by
  have closed : {other | .close other ∈ s.acts ++ record.acts} =
      insert publisher {other | Act.close other ∈ s.acts} := by
    ext other
    simp [closes,or_comm]
  rw [scene_log here,closed]
  simp [scene,Pool.Scene.on,Pool.Scene.withClosed,opens]

theorem scene_open {publisher : PublisherId} {bound : PublisherBinding}
    (opens : record.acts = [.opened publisher bound]) :
    (s.log state record).scene relay = (((s.scene relay).on state.pool).withOpened publisher).put
      record.call (record.after.visit? relay) := by
  have opened : {other | ∃ bound, .opened other bound ∈ s.acts ++ record.acts} =
      insert publisher {other | ∃ bound, Act.opened other bound ∈ s.acts} := by
    ext other
    simp [opens,exists_or,or_comm]
  rw [scene_log here,opened]
  simp [scene,Pool.Scene.on,Pool.Scene.withOpened,opens]

theorem scene_stay (opens : ∀ publisher bound, .opened publisher bound ∉ record.acts)
    (closes : ∀ publisher, .close publisher ∉ record.acts) (pool : state.pool = s.state.pool)
    (same : record.after.visit? relay = call.visit? relay) :
    (s.log state record).scene relay = s.scene relay := by
  have visit : (s.scene relay).visits record.call = record.after.visit? relay := by
    rw [same]
    exact Pool.visitsOf_here _ here
  rw [scene_plain here opens closes,pool]
  simp only [Pool.Scene.put,Pool.Scene.on,scene] at visit ⊢
  rw [← visit,Function.update_eq_self]

end

-- Every step of a relay is a step of one visit to the pool, or none.
theorem take_scene (here : s.calls[index]? = some call) (fresh : s.fresh reply = true)
    (taken : Transition relay s.state reply call state after acts) :
    (s.log state ⟨index,reply,call,after,acts⟩).scene relay = s.scene relay ∨
      Pool.Scene.Step (s.scene relay)
        ((s.log state ⟨index,reply,call,after,acts⟩).scene relay) := by
  have visit : (s.scene relay).visits index = call.visit? relay := Pool.visitsOf_here _ here
  cases taken with
  | unrouted | ignoreAgain | ignore | fetched | sent | mirror | notConfig | invalid | push
  | updated | notUpdated =>
      exact .inl (scene_stay here (by simp) (by simp) rfl rfl)
  | attempt =>
      rw [scene_plain here (by simp) (by simp)]
      exact .inr (.ask visit)
  | look =>
      rw [scene_plain here (by simp) (by simp)]
      exact .inr (.look visit)
  | join held =>
      rw [scene_plain here (by simp) (by simp)]
      exact .inr (.join visit held)
  | start free =>
      rw [scene_plain here (by simp) (by simp)]
      exact .inr (.start visit free)
  | deliver cached =>
      rw [scene_plain here (by simp) (by simp)]
      exact .inr (.deliver visit cached)
  | stale drained =>
      rename_i message slot publisher created
      rw [scene_close here publisher (by simp) (by simp)]
      exact .inr (.stale visit drained)
  | notFetched | noKey | notConnected =>
      rw [scene_plain here (by simp) (by simp)]
      exact .inr (.fail visit)
  | connected =>
      rw [scene_open here rfl]
      exact .inr (.fill visit fun ⟨bound,member⟩ => fresh_unopened fresh member)
  | notSent | fault =>
      rw [scene_plain here (by simp) (by simp)]
      exact .inr (.clear visit)
  | drain =>
      rw [scene_plain here (by simp) (by simp)]
      exact .inr (.drain visit (relay.order.perm _))
  | shut held =>
      rename_i publisher key slot left n after
      rw [scene_close here publisher (by simp) (by simp)]
      exact .inr (.shut visit held)
  | pass empty =>
      rw [scene_plain here (by simp) (by simp)]
      exact .inr (.pass visit empty)
  | terminated | recovered =>
      rw [scene_plain here (by simp) (by simp)]
      exact .inr (.leave visit)

theorem begin_scene (entry : call.isEntry = true) :
    scene relay { s with calls := s.calls ++ [call] } = s.scene relay ∨
      Pool.Scene.Step (s.scene relay) (scene relay { s with calls := s.calls ++ [call] }) := by
  have away : (s.scene relay).visits s.calls.length = none := Pool.visitsOf_new _
  have put : scene relay { s with calls := s.calls ++ [call] } =
      (s.scene relay).put s.calls.length (call.visit? relay) := by
    simp only [scene,Pool.visitsOf_append,Pool.Scene.put]
    rfl
  rw [put]
  cases visit : call.visit? relay with
  | none =>
      refine .inl ?_
      simp only [Pool.Scene.put]
      rw [← away,Function.update_eq_self]
  | some found =>
      cases call with
      | terminate progress after =>
          cases progress with
          | starting => cases visit; exact .inr (.clear away)
          | closing left n => cases entry
      | acquiring | fetching | connecting => cases entry
      | _ => cases visit

theorem advance_scene {move : Move} (advanced : s.advance relay move = some next) :
    next.scene relay = s.scene relay ∨
      Pool.Scene.Step (s.scene relay) (next.scene relay) := by
  cases advance_sound advanced with
  | begin entry => exact begin_scene entry
  | take here fresh taken => exact take_scene here fresh taken

end Relay.System

theorem Relay.reached_sound {relay : Relay} {s : Relay.System} (reached : Relay.Reached relay s) :
    (s.scene relay).Sound := by
  induction reached with
  | initial =>
      have start : Relay.System.scene relay {} = ⟨{},fun _ => none,∅,∅⟩ := by
        simp [Relay.System.scene,Pool.visitsOf_nil,Relay.System.acts]
      rw [start]
      exact Pool.Scene.initial_sound
  | step _ advanced ih =>
      rcases Relay.System.advance_scene advanced with same | step
      · rw [same]; exact ih
      · exact Pool.Scene.preserves_sound ih step

theorem Relay.advance_grows {relay : Relay} {s next : Relay.System} {move : Relay.Move}
    (reached : Relay.Reached relay s) (advanced : s.advance relay move = some next) :
    Pool.Grows s.state.pool next.state.pool := by
  rcases Relay.System.advance_scene advanced with same | step
  · have pool : next.state.pool = s.state.pool := congrArg Pool.Scene.pool same
    rw [pool]
    exact .refl _
  · exact step.grows (Relay.reached_sound reached)

end RegistryRelay
