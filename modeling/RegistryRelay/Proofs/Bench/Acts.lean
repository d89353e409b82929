import RegistryRelay.Proofs.Bench.Solo

namespace RegistryRelay

def Entry.acted : Entry → Bool
  | .note _ | .opened _ _ | .closed _ | .mirrored _ => true
  | _ => false

namespace Line.World

def acts (w : World) (call : Call) : List Act :=
  match w.respond call with
  | (_,.later _) => []
  | (w,.now reply) =>
      match _stepped : w.line.relay.step w.line.state reply call with
      | some step => step.2.2 ++ acts (w.after step) step.2.1
      | none => []
termination_by (call.rank,call.pending)
decreasing_by
  rcases Relay.step_descends _stepped with less | ⟨same,less⟩
  · exact Prod.Lex.left _ _ less
  · rw [same]; exact Prod.Lex.right _ less

def resumeActs (w : World) : Pace → List Act
  | .ended => []
  | .waits call => w.acts call
  | .sleeps call publisher =>
      match call with
      | .connecting _ _ binding =>
          let (result,rig) := w.rig.openPublisher publisher binding
          let w : World := ⟨w.line,rig⟩
          match w.line.relay.step w.line.state (some (.connected result)) call with
          | some step => step.2.2 ++ acts (w.after step) step.2.1
          | none => []
      | _ => []

def completeActs (w : World) (call : Call) : List Act :=
  w.acts call ++ (w.run call).1.resumeActs (w.run call).2

variable {w middle : World} {call : Call} {reply : Option Reply} {step : Relay.Step}
  {publisher : PublisherId}

theorem run_later (responds : w.respond call = (middle,.later publisher)) :
    w.run call = (middle,.sleeps call publisher) ∧ w.acts call = [] := by
  rw [run,acts,responds]
  exact ⟨rfl,rfl⟩

theorem run_stepped (responds : w.respond call = (middle,.now reply))
    (stepped : middle.line.relay.step middle.line.state reply call = some step) :
    w.run call = (middle.after step).run step.2.1 ∧
    w.acts call = step.2.2 ++ (middle.after step).acts step.2.1 := by
  rw [run,acts,responds]
  simp only
  constructor
  · split
    · rename_i found
      cases found.symm.trans stepped
      rfl
    · rename_i found
      cases found.symm.trans stepped
  · split
    · rename_i found
      cases found.symm.trans stepped
      rfl
    · rename_i found
      cases found.symm.trans stepped

theorem acts_finished (w : World) : w.acts .finished = [] := by
  rw [acts]
  rfl

theorem run_stuck (unfinished : call ≠ .finished) (responds : w.respond call = (middle,.now reply))
    (stuck : middle.line.relay.step middle.line.state reply call = none) :
    w.run call = (middle,.waits call) ∧ w.acts call = [] := by
  rw [run,acts,responds]
  simp only
  constructor
  · split
    · rename_i found
      cases found.symm.trans stuck
    · split
      · exact (unfinished rfl).elim
      · rfl
  · split
    · rename_i found
      cases found.symm.trans stuck
    · rfl

theorem acts_silent {state : Relay.State} {next : Call} {acts : List Act}
    (responds : w.respond call = (w,.now none))
    (taken : Relay.Transition w.line.relay w.line.state none call state next acts) :
    w.acts call = acts ++ (w.after (state,next,acts)).acts next :=
  (run_stepped responds (Relay.step_complete taken)).2

def afterActs (relay : Relay) : Option Message → List Act
  | none => []
  | some message =>
      [.note (.mirrored relay.registry message.device message.subFolder),
        .mirror (message.bundle relay.registry)]

theorem acts_afterwards (w : World) (after : Option Message) :
    w.acts (afterwards after) = afterActs w.line.relay after := by
  cases after with
  | none => exact acts_finished w
  | some message =>
      rw [afterwards,acts_silent rfl .mirror,acts_finished]
      rfl

theorem acts_closing (w : World) (left : List (PublisherKey × SlotId)) (n : Nat)
    (after : Option Message) : w.acts (.terminate (.closing left n) after) =
      closings w.line.state.pool left ++ .note (.terminated w.line.relay.registry
        (n + (left.filterMap fun entry => w.line.state.pool.held? entry.2).length)) ::
          afterActs w.line.relay after := by
  induction left generalizing w n with
  | nil =>
      cases after with
      | none => exact (acts_silent rfl .terminated).trans (congrArg (_ :: ·) (acts_finished _))
      | some message =>
          exact (acts_silent rfl .recovered).trans
            (congrArg (_ :: ·) (acts_afterwards _ (some message)))
  | cons entry left ih =>
      obtain ⟨key,slot⟩ := entry
      cases held : w.line.state.pool.held? slot with
      | none =>
          rw [acts_silent rfl (.pass held),ih]
          simp [closings,held,World.after]
      | some publisher =>
          rw [acts_silent rfl (.shut held),ih]
          simp [closings,held,World.after,Nat.add_assoc,Nat.add_comm 1]

theorem acts_emptied (w : World) (after : Option Message) :
    w.acts (.terminate .starting after) = closings w.line.state.pool w.drained ++
      .note (.terminated w.line.relay.registry w.line.state.pool.size) ::
        afterActs w.line.relay after := by
  rw [acts_silent rfl .drain,acts_closing,Nat.zero_add,← drained_size]
  rfl

theorem run_torn (w : World) (after : Option Message) :
    w.run (.terminate .starting after) =
      ((w.withPool { w.line.state.pool with cached := [] }).does
        (w.acts (.terminate .starting after)),.ended) := by
  have ended : w.emptied.run (afterwards after) =
      (w.emptied.does (afterActs w.line.relay after),.ended) := by
    cases after with
    | none => exact run_finished _
    | some message => exact run_mirroring _ message
  rw [run_emptied,ended,acts_emptied,emptied,does_does,List.append_assoc]
  rfl

theorem run_cases {motive : World → Call → Prop}
    (later : ∀ w call middle publisher, w.respond call = (middle,.later publisher) → motive w call)
    (stepped : ∀ w call middle reply step, w.respond call = (middle,.now reply) →
      middle.line.relay.step middle.line.state reply call = some step →
      motive (middle.after step) step.2.1 → motive w call)
    (finished : ∀ w, motive w .finished)
    (stuck : ∀ w call middle reply, call ≠ .finished → w.respond call = (middle,.now reply) →
      middle.line.relay.step middle.line.state reply call = none → motive w call)
    (w : World) (call : Call) : motive w call := by
  induction w,call using World.run.induct with
  | case1 w call middle publisher responds => exact later _ _ _ _ responds
  | case2 w call middle reply responds step taken ih => exact stepped _ _ _ _ _ responds taken ih
  | case3 w => exact finished w
  | case4 w call middle reply responds waits _ goes =>
      refine stuck _ _ _ _ ?_ responds waits
      rintro rfl
      exact goes waits rfl HEq.rfl

end Line.World
namespace Rig

-- These acts, and no others, lead from here to there. Nothing is going to happen of its own accord
-- either here or there.
structure Acts (rig later : Rig) (acts : List Act) : Prop where
  connects : later.connectHooks = []
  sends : later.sendHooks = []
  traces : later.traces = rig.traces
  journal : ∃ added, later.journal = rig.journal ++ added ∧
    added.filter Entry.acted = acts.flatMap rig.traces

variable {rig middle later : Rig} {acts more : List Act}

theorem Acts.trans (one : Acts rig middle acts) (two : Acts middle later more) :
    Acts rig later (acts ++ more) := by
  obtain ⟨added,here,done⟩ := one.journal
  obtain ⟨added',there,done'⟩ := two.journal
  refine ⟨two.connects,two.sends,two.traces.trans one.traces,added ++ added',?_,?_⟩
  · rw [there,here,List.append_assoc]
  · rw [List.filter_append,List.flatMap_append,done,done',one.traces]

theorem acts_nothing {entries : List Entry} (connects : later.connectHooks = [])
    (sends : later.sendHooks = []) (traces : later.traces = rig.traces)
    (journal : later.journal = rig.journal ++ entries)
    (other : ∀ entry ∈ entries, entry.acted = false) : Acts rig later [] :=
  ⟨connects,sends,traces,entries,journal,List.filter_eq_nil_iff.mpr fun entry member => by
    simp [other entry member]⟩

theorem acts_refl (connects : rig.connectHooks = []) (sends : rig.sendHooks = []) :
    Acts rig rig [] :=
  acts_nothing connects sends rfl (List.append_nil _).symm nofun

theorem acts_performAll (connects : rig.connectHooks = []) (sends : rig.sendHooks = [])
    (acts : List Act) : Acts rig (rig.performAll acts) acts := by
  rw [performAll_extends]
  refine ⟨connects,sends,rfl,acts.flatMap rig.traces,rfl,List.filter_eq_self.mpr ?_⟩
  intro entry member
  obtain ⟨act,_,left⟩ := List.mem_flatMap.mp member
  cases act with
  | mirror bundle =>
      rw [traces,List.mem_singleton,receipt] at left
      split at left <;> (subst left; rfl)
  | ask request => cases left
  | _ => cases List.mem_singleton.mp left; rfl

theorem acts_openPublisher (connects : rig.connectHooks = []) (sends : rig.sendHooks = [])
    (publisher : PublisherId) (bound : PublisherBinding) :
    Acts rig (rig.openPublisher publisher bound).2 [] := by
  unfold openPublisher
  split <;> exact acts_nothing connects sends rfl (List.append_nil _).symm nofun

end Rig
namespace Line.World

variable {w middle : World} {call : Call} {pace : Pace}

theorem respond_acts (connects : w.rig.connectHooks = []) (sends : w.rig.sendHooks = [])
    (call : Call) : Rig.Acts w.rig (w.respond call).1.rig [] := by
  cases call with
  | fetching message slot =>
      obtain ⟨scripted,grown⟩ := w.rig.fetchDevice_extends w.line.handle message.device
      change Rig.Acts w.rig (w.rig.fetchDevice w.line.handle message.device).2 []
      rw [grown]
      exact Rig.acts_nothing connects sends rfl rfl (by simp [Entry.acted])
  | connecting message slot bound =>
      have idle : (w.attempt message.device).rig.connectHooks = [] := congrArg List.tail connects
      have attempted : Rig.Acts w.rig (w.attempt message.device).rig [] :=
        Rig.acts_nothing idle sends rfl rfl (by simp [Entry.acted])
      rw [respond_connecting connects]
      split
      · exact attempted
      · exact attempted.trans (Rig.acts_openPublisher idle sends _ _)
  | sending message publisher =>
      simp only [respond,Rig.beginSend_idle sends,interrupt]
      exact Rig.acts_nothing connects sends rfl rfl (by simp [Entry.acted])
  | updating device payload =>
      obtain ⟨backend,scripted,grown⟩ := w.rig.updateDevice_extends w.line.handle device payload
      change Rig.Acts w.rig (w.rig.updateDevice w.line.handle device payload).2 []
      rw [grown]
      exact Rig.acts_nothing connects sends rfl rfl (by simp [Entry.acted])
  | _ => exact Rig.acts_refl connects sends

theorem run_acts (connects : w.rig.connectHooks = []) (sends : w.rig.sendHooks = [])
    (call : Call) : Rig.Acts w.rig (w.run call).1.rig (w.acts call) := by
  induction w,call using run_cases with
  | later w call middle publisher responds =>
      have answered := respond_acts connects sends call
      rw [responds] at answered
      obtain ⟨ran,acts⟩ := run_later responds
      rw [ran,acts]
      exact answered
  | stepped w call middle reply step responds stepped ih =>
      have answered := respond_acts connects sends call
      rw [responds] at answered
      have taken := Rig.acts_performAll answered.connects answered.sends step.2.2
      obtain ⟨ran,acts⟩ := run_stepped responds stepped
      rw [ran,acts]
      exact (answered.trans taken).trans (ih taken.connects taken.sends)
  | finished w =>
      rw [run_finished,acts_finished]
      exact Rig.acts_refl connects sends
  | stuck w call middle reply unfinished responds stuck =>
      have answered := respond_acts connects sends call
      rw [responds] at answered
      obtain ⟨ran,acts⟩ := run_stuck unfinished responds stuck
      rw [ran,acts]
      exact answered

theorem resume_acts (connects : w.rig.connectHooks = []) (sends : w.rig.sendHooks = [])
    (pace : Pace) : Rig.Acts w.rig (w.resume pace).1.rig (w.resumeActs pace) := by
  cases pace with
  | ended => exact Rig.acts_refl connects sends
  | waits call => exact run_acts connects sends call
  | sleeps call publisher =>
      cases call with
      | connecting message slot bound =>
          have opened := Rig.acts_openPublisher connects sends publisher bound
          simp only [resume,resumeActs]
          cases w.line.relay.step w.line.state
              (some (.connected (w.rig.openPublisher publisher bound).1))
              (.connecting message slot bound) with
          | none => exact opened
          | some step =>
              have taken := Rig.acts_performAll opened.connects opened.sends step.2.2
              let later : World :=
                World.after ⟨w.line,(w.rig.openPublisher publisher bound).2⟩ step
              have rest : Rig.Acts later.rig (later.run step.2.1).1.rig (later.acts step.2.1) :=
                run_acts taken.connects taken.sends _
              exact (opened.trans taken).trans rest
      | _ => exact Rig.acts_refl connects sends

-- What is left in the journal of a call, but for the answers that it was given, is left of what it
-- did, in that order.
theorem complete_acts (connects : w.rig.connectHooks = []) (sends : w.rig.sendHooks = [])
    (call : Call) : Rig.Acts w.rig (w.complete call).rig (w.completeActs call) :=
  have ran := run_acts connects sends call
  ran.trans (resume_acts ran.connects ran.sends _)

end Line.World
end RegistryRelay
