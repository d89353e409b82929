import RegistryRelay.Proofs.Bench.Acts
import RegistryRelay.Proofs.Bench.Sequence
import RegistryRelay.Proofs.Relay.Inbound

namespace RegistryRelay
open Line (World)
open Topic

-- What a publisher may call while it is being opened or used, and what that leads to.
def Call.isSignal : Call → Bool
  | .publish .. | .acquiring .. | .fetching .. | .connecting .. | .sending .. => false
  | _ => true

theorem Relay.Transition.signal {relay : Relay} {s t : State} {reply : Option Reply}
    {call next : Call} {acts : List Act} (taken : Transition relay s reply call t next acts)
    (signal : call.isSignal = true) : next.isSignal = true := by
  cases taken <;> first | rfl | cases signal

namespace Line.World

def told (w : World) (backend : Backend) (entries : List Entry) : World :=
  { w with rig := { w.rig.extend entries with backend } }

inductive Hears (w : World) (topic payload : String) : Backend → List Entry → Prop where
  | ignored (other : ¬EndsInConfig topic) : Hears w topic payload w.rig.backend
      [.note (.received w.line.relay.registry topic),.note (.ignored w.line.relay.registry topic)]
  | invalid (ends : EndsInConfig topic) (nobody : ∀ device, ¬Configures device topic) :
      Hears w topic payload w.rig.backend
        [.note (.received w.line.relay.registry topic),
          .note (.invalidTopic w.line.relay.registry topic)]
  | accepted (configures : Configures device topic)
      (answered : (w.rig.updateDevice w.line.handle device payload).1 = none) :
      Hears w topic payload (w.rig.updateDevice w.line.handle device payload).2.backend
        [.note (.received w.line.relay.registry topic),
          .note (.configUpdate w.line.relay.registry device),.updated device payload scripted,
          .note (.mirrored w.line.relay.registry device configFolder),
          w.rig.receipt (.routed w.line.relay.registry device configFolder payload)]
  | refused (configures : Configures device topic)
      (answered : (w.rig.updateDevice w.line.handle device payload).1 = some fault) :
      Hears w topic payload (w.rig.updateDevice w.line.handle device payload).2.backend
        [.note (.received w.line.relay.registry topic),
          .note (.configUpdate w.line.relay.registry device),.updated device payload scripted,
          .note (.configUpdateFailed w.line.relay.registry device fault)]

variable {w middle : World} {call : Call} {reply : Option Reply}

theorem does_told (w : World) (backend : Backend) (entries : List Entry) (acts : List Act) :
    (w.told backend entries).does acts =
      w.told backend (entries ++ acts.flatMap w.rig.traces) := by
  rw [does,Rig.performAll_extends]
  simp only [told,Rig.extend,List.append_assoc]
  rfl

theorem told_nil (w : World) : w.told w.rig.backend [] = w := by
  simp only [told,Rig.extend_nil]

theorem does_eq_told (acts : List Act) :
    w.does acts = w.told w.rig.backend (acts.flatMap w.rig.traces) := by
  conv_lhs => rw [← told_nil w]
  exact does_told _ _ _ _

theorem update_told (w : World) (device payload : String) : ∃ scripted, ∀ entries,
    (w.told w.rig.backend entries).update device payload =
      w.told (w.rig.updateDevice w.line.handle device payload).2.backend
        (entries ++ .updated device payload scripted ::
          match (w.rig.updateDevice w.line.handle device payload).1 with
          | none => [.note (.mirrored w.line.relay.registry device configFolder),
              w.rig.receipt (.routed w.line.relay.registry device configFolder payload)]
          | some fault => [.note (.configUpdateFailed w.line.relay.registry device fault)]) := by
  obtain ⟨scripted,seen⟩ := w.rig.updateDevice_seen w.line.handle device payload
  refine ⟨scripted,fun entries => ?_⟩
  have asked : (w.told w.rig.backend entries).rig.updateDevice
      (w.told w.rig.backend entries).line.handle device payload = _ := seen (w.rig.journal ++ entries)
  rw [update,asked,List.append_assoc]
  conv_rhs => rw [List.append_cons]
  cases (w.rig.updateDevice w.line.handle device payload).1 with
  | none => exact does_told w _ _ [_,.mirror (.routed _ _ _ _)]
  | some fault => exact does_told w _ _ [_]

theorem receive_hears (w : World) (topic payload : String) : ∃ backend entries,
    w.Hears topic payload backend entries ∧
      w.receive topic payload = w.told backend entries := by
  unfold receive
  cases config : isConfig topic with
  | false =>
      refine ⟨_,_,.ignored (isConfig_eq_false_iff.mp config),?_⟩
      simp only [Bool.false_eq_true,↓reduceIte,does_does]
      exact does_eq_told _
  | true =>
      cases device? : configDevice? topic with
      | none =>
          refine ⟨_,_,.invalid (isConfig_iff.mp config) (configDevice?_eq_none_iff.mp device?),?_⟩
          simp only [↓reduceIte,does_does]
          exact does_eq_told _
      | some device =>
          have configures := configDevice?_eq_some_iff.mp device?
          obtain ⟨scripted,updates⟩ := w.update_told device payload
          simp only [↓reduceIte,does_does]
          rw [does_eq_told,updates]
          cases answered : (w.rig.updateDevice w.line.handle device payload).1 with
          | none => exact ⟨_,_,.accepted configures answered,rfl⟩
          | some fault => exact ⟨_,_,.refused configures answered,rfl⟩

theorem signal_answered (w : World) (signal : call.isSignal = true) :
    ∃ middle reply, w.respond call = (middle,.now reply) := by
  cases call with
  | publish | acquiring | fetching | connecting | sending => cases signal
  | _ => exact ⟨_,_,rfl⟩

theorem settle_answered (signal : call.isSignal = true)
    (responds : w.respond call = (middle,.now reply)) :
    w.settle call = (middle.line.relay.step middle.line.state reply call).elim middle
      fun step => (middle.after step).settle step.2.1 := by
  cases call with
  | publish | acquiring | fetching | connecting | sending => cases signal
  | updating device payload =>
      rw [settle]
      simp only [respond] at responds
      generalize w.rig.updateDevice w.line.handle device payload = answer at responds ⊢
      obtain ⟨fault,rig⟩ := answer
      cases responds
      simp only
      split <;> (rename_i found; rw [found]; rfl)
  | _ =>
      cases responds
      rw [settle]
      · split <;> (rename_i found; rw [found]; rfl)
      · intro _ _ same
        cases same

-- A publisher that is being opened or used has its signals heard all the same.
theorem run_settle (w : World) (call : Call) (signal : call.isSignal = true) :
    (w.run call).1 = w.settle call := by
  revert signal
  induction w,call using run_cases with
  | later w call middle publisher responds =>
      intro signal
      obtain ⟨_,_,answered⟩ := signal_answered w signal
      cases responds.symm.trans answered
  | stepped w call middle reply step responds stepped ih =>
      intro signal
      have onward := (Relay.step_sound stepped).signal signal
      rw [(run_stepped responds stepped).1,ih onward,settle_answered signal responds,stepped,
        Option.elim_some]
  | finished w =>
      intro signal
      rw [run_finished,settle_answered signal rfl]
      rfl
  | stuck w call middle reply unfinished responds stuck =>
      intro signal
      rw [(run_stuck unfinished responds stuck).1,settle_answered signal responds,stuck,
        Option.elim_none]

end Line.World

def Operation.through? : Operation → Option ListenerName
  | .message name _ _ => some name
  | .error name _ => some name
  | _ => none

namespace Bench

variable {b : Bench} {line : Line} {name : ListenerName} {listener : Listener} {target : Nat}
  {signal : Operation} {signals : List Operation}

theorem settled_place (placed : b.place target = .occupied line) :
    b.places.set target (.occupied line) = b.places := by
  unfold place at placed
  cases found : b.places[target]? with
  | none =>
      rw [found] at placed
      cases placed
  | some place =>
      rw [found] at placed
      cases placed
      obtain ⟨inside,same⟩ := List.getElem?_eq_some_iff.mp found
      rw [← same,List.set_getElem_self]

theorem operate_message (listens : b.listener? name = some listener)
    (placed : b.place listener.relay = .occupied line) (topic payload : String) :
    ∃ backend entries, World.Hears ⟨line,b.rig⟩ topic payload backend entries ∧
      b.operate (.message name topic payload) =
        ({ b with rig := { b.rig.extend entries with backend } },.done) := by
  obtain ⟨backend,entries,hears,received⟩ := World.receive_hears ⟨line,b.rig⟩ topic payload
  refine ⟨backend,entries,hears,?_⟩
  have completes := World.complete_ended (World.run_inbound ⟨line,b.rig⟩ topic payload)
  simp only [operate,begin,listens,placed,completes,received,writeBack]
  exact congrArg (fun places => (Bench.mk b.settings _ places b.orders,Answer.done))
    (settled_place placed)

def Late (b : Bench) (signal : Operation) : Prop :=
  ∃ name, signal.through? = some name ∧
    ∀ listener, b.listener? name = some listener → ∀ line, b.place listener.relay ≠ .occupied line

def late? (b : Bench) : Operation → Option Event
  | .message name topic _ => (b.listener? name).map fun listener =>
      .messageAfterDrop listener.device topic
  | .error name fault => (b.listener? name).map fun listener =>
      .errorAfterDrop listener.device fault
  | _ => none

inductive Starts (b : Bench) (operation : Operation) : Bench × Start → Prop where
  | answered (answer : Answer) : Starts b operation
      ({ b with rig := b.rig.extend ((b.late? operation).toList.map .note) },.answered answer)
  | begun {target : Nat} {line : Line} {call : Call} (placed : b.place target = .occupied line) :
      Starts b operation (b,.begun target call)

theorem starts_silent {operation : Operation} (silent : b.late? operation = none)
    (answer : Answer) : b.Starts operation (b,.answered answer) := by
  have answered : b.Starts operation (_,.answered answer) := .answered answer
  rwa [silent,Option.toList_none,List.map_nil,Rig.extend_nil] at answered

theorem starts_noted {operation : Operation} {event : Event}
    (noted : b.late? operation = some event) (answer : Answer) :
    b.Starts operation ({ b with rig := b.rig.record (.note event) },.answered answer) := by
  have answered : b.Starts operation (_,.answered answer) := .answered answer
  rwa [noted] at answered

theorem begin_starts (b : Bench) (operation : Operation) :
    b.Starts operation (b.begin operation) := by
  cases operation with
  | publish target | terminate target =>
      simp only [begin]
      split
      · exact starts_silent rfl _
      · exact starts_silent rfl _
      · rename_i placed
        exact .begun placed
  | message name | error name =>
      simp only [begin]
      split
      · rename_i nobody
        exact starts_silent (by simp only [late?,nobody,Option.map_none]) _
      · rename_i listener listens
        split
        · rename_i placed
          exact .begun placed
        · exact starts_noted (by simp only [late?,listens,Option.map_some]) _

theorem operate_late (late : b.Late signal) : (b.operate signal).1 =
    { b with rig := b.rig.extend ((b.late? signal).toList.map .note) } := by
  obtain ⟨name,through,gone⟩ := late
  cases listens : b.listener? name with
  | none =>
      cases signal with
      | publish | terminate => cases through
      | _ =>
          cases through
          simp [operate,begin,late?,listens,Rig.extend_nil]
  | some listener =>
      cases placed : b.place listener.relay with
      | occupied line => exact absurd placed (gone listener listens line)
      | _ =>
          cases signal with
          | publish | terminate => cases through
          | _ =>
              cases through
              simp only [operate,begin,late?,listens,placed]
              rfl

theorem performs_late (late : ∀ signal ∈ signals, b.Late signal) :
    b.performs (signals.map .operate) =
      { b with rig := b.rig.extend ((signals.filterMap b.late?).map .note) } := by
  induction signals generalizing b with
  | nil => simp [performs,Rig.extend_nil]
  | cons signal rest ih =>
      obtain ⟨first,others⟩ := List.forall_mem_cons.mp late
      have noted := operate_late first
      have onward := ih (b := (b.operate signal).1)
      rw [noted] at onward
      have performed : b.performs ((signal :: rest).map .operate) =
          (b.operate signal).1.performs (rest.map .operate) := rfl
      rw [performed,noted]
      refine (onward others).trans ?_
      rw [List.filterMap_cons]
      simp only [Rig.extend_extend,← List.map_append]
      cases b.late? signal <;> rfl

theorem dropped_late {name : ListenerName} (through : signal.through? = some name)
    (own : ∀ listener, b.listener? name = some listener → listener.relay = target) :
    (b.perform (.drop target)).1.Late signal := by
  refine ⟨name,through,fun listener listens line placed => ?_⟩
  have gone : (b.perform (.drop target)).1.place target = .vacant := by
    simp only [perform,place,List.getElem?_set_self']
    cases b.places[target]? <;> rfl
  have same := own listener listens
  rw [same,gone] at placed
  cases placed

-- An incoming message has to do with the directory and the mirror alone, whatever else is under
-- way and whoever hands it over. Signals to a relay that is gone are noted, and that is all.
theorem inbound_handled :
    (∀ (relay : Relay) (moves : List Relay.Move) (s : Relay.System) (index : Nat)
      (topic payload : String), Relay.System.run relay {} moves = some s →
      (Relay.made moves)[index]? = some (.inbound topic payload) →
      Relay.System.Attended relay moves s index topic payload) ∧
    (∀ (w : World) (device topic payload : String) (rest : List Action), ∃ backend entries,
      w.Hears topic payload backend entries ∧
      w.run (.inbound topic payload) = (w.told backend entries,.ended) ∧
      w.interrupt device (.message topic payload :: rest) =
        (w.told backend entries).interrupt device rest) ∧
    (∀ (b : Bench) (name : ListenerName) (listener : Listener) (line : Line)
      (topic payload : String), b.listener? name = some listener →
      b.place listener.relay = .occupied line → ∃ backend entries,
      World.Hears ⟨line,b.rig⟩ topic payload backend entries ∧
      b.operate (.message name topic payload) =
        ({ b with rig := { b.rig.extend entries with backend } },.done)) ∧
    ∀ (b : Bench) (target : Nat) (signals : List Operation),
      (∀ signal ∈ signals, ∃ name, signal.through? = some name ∧
        ∀ listener, b.listener? name = some listener → listener.relay = target) →
      (b.perform (.drop target)).1.performs (signals.map .operate) =
        { (b.perform (.drop target)).1 with
          rig := b.rig.extend ((signals.filterMap b.late?).map .note) } := by
  refine ⟨?_,?_,?_,?_⟩
  · intro relay moves s index topic payload ran begun
    exact Relay.System.run_attended ran begun
  · intro w device topic payload rest
    obtain ⟨backend,entries,hears,received⟩ := World.receive_hears w topic payload
    have runs := w.run_inbound topic payload
    have settles := w.run_settle (.inbound topic payload) rfl
    rw [runs,received] at settles
    refine ⟨backend,entries,hears,runs.trans (by rw [received]),?_⟩
    rw [World.interrupt,← settles]
  · intro b name listener line topic payload listens placed
    exact operate_message listens placed topic payload
  · intro b target signals through
    refine performs_late fun signal member => ?_
    obtain ⟨name,names,own⟩ := through signal member
    exact dropped_late names own

def configRejected : List Relay.Move :=
  [.begin (.publish "a" (some "f") "x"),.advance 0 none,.advance 0 none,
    .begin (.inbound "/devices/a/config" "y"),.advance 1 none,.advance 0 none,
    .advance 1 (some (.updated (some (.transport "lost"))))]

def attempted : Bench :=
  { desk false with rig := { (desk false).rig with attempts := [⟨0,"device"⟩] } }

theorem inbound_handled_rejected :
    (∃ s, Relay.System.run .sample {} configRejected = some s ∧
      s.calls[1]? = some .finished ∧
      Relay.Heeded .sample "/devices/a/config" "y" [some (.transport "lost")]
        ((s.trace 1).flatMap Record.acts)) ∧
    (∃ backend entries,
      World.Hears ⟨deskLine,attempted.rig⟩ "/devices/a/b/config" "y" backend entries ∧
      attempted.operate (.message (.attempt 0) "/devices/a/b/config" "y") =
        ({ attempted with rig := { attempted.rig.extend entries with backend } },.done)) ∧
    (attempted.perform (.drop 0)).1.performs
      [.operate (.message (.attempt 0) "/devices/a/config" "y"),
        .operate (.error (.attempt 0) (.transport "lost"))] =
      { (attempted.perform (.drop 0)).1 with
        rig := attempted.rig.extend [.note (.messageAfterDrop "device" "/devices/a/config"),
          .note (.errorAfterDrop "device" (.transport "lost"))] } := by
  obtain ⟨attended,_,heard,gone⟩ := inbound_handled
  refine ⟨?_,?_,?_⟩
  · obtain ⟨s,ran,finished,answers⟩ : ∃ s, Relay.System.run .sample {} configRejected = some s ∧
        s.calls[1]? = some .finished ∧
        (s.trace 1).filterMap Record.answer? = [some (.transport "lost")] := ⟨_,rfl,rfl,rfl⟩
    refine ⟨s,ran,finished,?_⟩
    rw [← answers]
    exact (attended .sample configRejected s 1 _ _ ran rfl).heeded finished
  · exact heard attempted (.attempt 0) ⟨0,"device"⟩ deskLine _ _ rfl rfl
  · refine gone attempted 0 [.message (.attempt 0) "/devices/a/config" "y",
      .error (.attempt 0) (.transport "lost")] ?_
    intro signal member
    refine ⟨.attempt 0,?_,?_⟩
    · rcases List.mem_pair.mp member with rfl | rfl <;> rfl
    · intro listener handed
      cases handed
      rfl

end Bench
end RegistryRelay
