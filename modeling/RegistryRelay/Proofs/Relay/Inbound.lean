import RegistryRelay.Proofs.Relay.Turns
import RegistryRelay.Proofs.Topic.Shape

namespace RegistryRelay
open Topic

def Record.answer? (record : Record) : Option (Option Fault) :=
  match record.before,record.reply with
  | .updating _ _,some (.updated fault) => some fault
  | _,_ => none

def Act.update? : Act → Option (String × String)
  | .ask (.update device payload) => some (device,payload)
  | _ => none

def Act.Inward : Act → Prop
  | .note _ => True
  | .ask (.update _ _) => True
  | .mirror _ => True
  | _ => False

namespace Relay

inductive Heeds (relay : Relay) (topic payload : String) :
    Call → List (Option Fault) → List Act → Prop where
  | comes : Heeds relay topic payload (.inbound topic payload) [] []
  | ignored (other : ¬EndsInConfig topic) : Heeds relay topic payload .finished []
      [.note (.received relay.registry topic),.note (.ignored relay.registry topic)]
  | invalid (ends : EndsInConfig topic) (nobody : ∀ device, ¬Configures device topic) :
      Heeds relay topic payload .finished []
        [.note (.received relay.registry topic),.note (.invalidTopic relay.registry topic)]
  | asks (configures : Configures device topic) :
      Heeds relay topic payload (.updating device payload) []
        [.note (.received relay.registry topic),.note (.configUpdate relay.registry device),
          .ask (.update device payload)]
  | refused (configures : Configures device topic) : Heeds relay topic payload .finished [some fault]
      [.note (.received relay.registry topic),.note (.configUpdate relay.registry device),
        .ask (.update device payload),.note (.configUpdateFailed relay.registry device fault)]
  | accepted (configures : Configures device topic) :
      Heeds relay topic payload (.mirroring ⟨device,configFolder,payload⟩) [none]
        [.note (.received relay.registry topic),.note (.configUpdate relay.registry device),
          .ask (.update device payload)]
  | mirrored (configures : Configures device topic) : Heeds relay topic payload .finished [none]
      [.note (.received relay.registry topic),.note (.configUpdate relay.registry device),
        .ask (.update device payload),.note (.mirrored relay.registry device configFolder),
        .mirror (.routed relay.registry device configFolder payload)]

-- What comes of an incoming message. A config goes to the directory, and if it is taken there, to
-- the mirror; any other message goes nowhere.
structure Heeded (relay : Relay) (topic payload : String) (answers : List (Option Fault))
    (acts : List Act) : Prop where
  pushed : ∀ device, Configures device topic → acts.filterMap Act.update? = [(device,payload)] ∧
    ∃ fault, answers = [fault] ∧ acts.filterMap Act.mirror? = match fault with
      | none => [.routed relay.registry device configFolder payload]
      | some _ => []
  unpushed : (∀ device, ¬Configures device topic) →
    acts.filterMap Act.update? = [] ∧ acts.filterMap Act.mirror? = []
  ignored : (∃ event, .note event ∈ acts ∧ event.name = .inboundIgnored) ↔ ¬EndsInConfig topic
  invalid : (∃ event, .note event ∈ acts ∧ event.name = .inboundInvalidTopic) ↔
    EndsInConfig topic ∧ ∀ device, ¬Configures device topic

variable {relay : Relay} {s t : State} {reply : Option Reply} {call after : Call}
  {acts done : List Act} {answers : List (Option Fault)} {topic payload : String}
  {records : List Record} {now : Call}

theorem Heeds.step (index : Nat) (heeds : Heeds relay topic payload call answers done)
    (taken : Transition relay s reply call t after acts) :
    Heeds relay topic payload after
      (answers ++ (Record.answer? ⟨index,reply,call,after,acts⟩).toList) (done ++ acts) := by
  cases heeds with
  | comes =>
      cases taken with
      | notConfig other => exact .ignored (isConfig_eq_false_iff.mp other)
      | invalid config nobody =>
          exact .invalid (isConfig_iff.mp config) (configDevice?_eq_none_iff.mp nobody)
      | push config device? => exact .asks (configDevice?_eq_some_iff.mp device?)
  | asks configures =>
      cases taken with
      | updated => exact .accepted configures
      | notUpdated => exact .refused configures
  | accepted configures =>
      cases taken
      exact .mirrored configures
  | _ => cases taken

theorem Course.heeds (course : Course relay (.inbound topic payload) records now) :
    Heeds relay topic payload now (records.filterMap Record.answer?)
      (records.flatMap Record.acts) := by
  generalize entered : Call.inbound topic payload = entry at course
  induction course with
  | start =>
      subst entered
      exact .comes
  | step course taken ih =>
      rw [filterMap_concat,List.flatMap_append,List.flatMap_singleton]
      exact ih.step _ taken

theorem Heeds.inward (heeds : Heeds relay topic payload call answers done)
    (taken : Transition relay s reply call t after acts) : t = s ∧ ∀ act ∈ acts, act.Inward := by
  cases heeds with
  | comes | asks | accepted => cases taken <;> simp [Act.Inward]
  | _ => cases taken

theorem Heeds.proceeds (heeds : Heeds relay topic payload call answers done) (s : State)
    (unfinished : call ≠ .finished) (fault : Option Fault) : ∃ after acts,
    Transition relay s (some (.updated fault)) call s after acts := by
  cases heeds with
  | comes =>
      cases config : isConfig topic with
      | false => exact ⟨_,_,.notConfig config⟩
      | true =>
          cases device? : configDevice? topic with
          | none => exact ⟨_,_,.invalid config device?⟩
          | some device => exact ⟨_,_,.push config device?⟩
  | asks =>
      cases fault with
      | none => exact ⟨_,_,.updated⟩
      | some fault => exact ⟨_,_,.notUpdated⟩
  | accepted => exact ⟨_,_,.mirror⟩
  | _ => exact absurd rfl unfinished

theorem heeded_config {device : String} {fault : Option Fault} (configures : Configures device topic)
    (updates : acts.filterMap Act.update? = [(device,payload)])
    (mirrors : acts.filterMap Act.mirror? = match fault with
      | none => [.routed relay.registry device configFolder payload]
      | some _ => [])
    (silent : ∀ event, .note event ∈ acts → event.name ≠ .inboundIgnored ∧
      event.name ≠ .inboundInvalidTopic) : Heeded relay topic payload [fault] acts := by
  constructor
  case pushed =>
    intro other mine
    cases mine.unique configures
    exact ⟨updates,fault,rfl,mirrors⟩
  case unpushed => exact fun nobody => absurd configures (nobody device)
  case ignored =>
    refine iff_of_false ?_ (not_not.mpr configures.ends)
    rintro ⟨event,member,same⟩
    exact (silent event member).1 same
  case invalid =>
    refine iff_of_false ?_ (fun shapeless => shapeless.2 device configures)
    rintro ⟨event,member,same⟩
    exact (silent event member).2 same

theorem Heeds.heeded (heeds : Heeds relay topic payload .finished answers done) :
    Heeded relay topic payload answers done := by
  generalize ended : Call.finished = call at heeds
  cases heeds with
  | ignored other =>
      have nobody : ∀ device, ¬Configures device topic := fun _ configures => other configures.ends
      exact ⟨fun device configures => absurd configures (nobody device),fun _ => ⟨rfl,rfl⟩,
        by simp [Event.name,other],by simp [Event.name,other]⟩
  | invalid ends nobody =>
      exact ⟨fun device configures => absurd configures (nobody device),fun _ => ⟨rfl,rfl⟩,
        by simp [Event.name,ends],by simp [Event.name,ends,nobody]⟩
  | refused configures => exact heeded_config configures rfl rfl (by simp [Event.name])
  | mirrored configures => exact heeded_config configures rfl rfl (by simp [Event.name])
  | _ => cases ended

namespace System

variable {s before t : System} {index : Nat} {moves : List Move}

theorem run_heeds (ran : System.run relay {} moves = some s)
    (begun : (made moves)[index]? = some (.inbound topic payload)) :
    ∃ now, s.calls[index]? = some now ∧ Heeds relay topic payload now
      ((s.trace index).filterMap Record.answer?) ((s.trace index).flatMap Record.acts) := by
  have ledger := (run_onward ran rfl).ledger
  have inside := (List.getElem?_eq_some_iff.mp begun).1
  rw [← ledger.length] at inside
  have present := List.getElem?_eq_getElem inside
  exact ⟨_,present,(ledger.course index _ _ begun present).heeds⟩

theorem run_inward (ran : System.run relay {} moves = some before)
    (begun : (made moves)[index]? = some (.inbound topic payload))
    (advanced : before.advance relay (.advance index reply) = some t) :
    t.state = before.state ∧ ∃ record, t.history = before.history ++ [record] ∧
      record.call = index ∧ ∀ act ∈ record.acts, act.Inward := by
  obtain ⟨now,present,heeds⟩ := run_heeds ran begun
  cases advance_sound advanced with
  | take here fresh taken =>
      cases present.symm.trans here
      obtain ⟨same,inward⟩ := heeds.inward taken
      exact ⟨same,_,rfl,rfl,inward⟩

-- What a run makes of an incoming message: none of its steps touches the state of the relay, none
-- but the directory can hold it up, and once it is through it has been heeded.
structure Attended (relay : Relay) (moves : List Move) (s : System) (index : Nat)
    (topic payload : String) : Prop where
  apart : ∀ front reply back before after, moves = front ++ .advance index reply :: back →
    System.run relay {} front = some before →
    before.advance relay (.advance index reply) = some after →
    after.state = before.state ∧ ∃ record, after.history = before.history ++ [record] ∧
      record.call = index ∧ ∀ act ∈ record.acts, act.Inward
  proceeds : ∀ call, s.calls[index]? = some call → call ≠ .finished → ∀ fault, ∃ next,
    s.advance relay (.advance index (some (.updated fault))) = some next
  heeded : s.calls[index]? = some .finished → Heeded relay topic payload
    ((s.trace index).filterMap Record.answer?) ((s.trace index).flatMap Record.acts)

theorem run_attended (ran : System.run relay {} moves = some s)
    (begun : (made moves)[index]? = some (.inbound topic payload)) :
    Attended relay moves s index topic payload := by
  obtain ⟨now,present,heeds⟩ := run_heeds ran begun
  refine ⟨?_,?_,?_⟩
  · intro front reply back before after split first advanced
    have inside : index < (made front).length := by
      cases advance_sound advanced with
      | take here fresh taken =>
          rw [← (run_onward first rfl).ledger.length]
          exact (List.getElem?_eq_some_iff.mp here).1
    rw [split,made_append,List.getElem?_append_left inside] at begun
    exact run_inward first begun advanced
  · intro call here unfinished fault
    cases present.symm.trans here
    obtain ⟨after,acts,taken⟩ := heeds.proceeds s.state unfinished fault
    exact ⟨_,advance_complete (.take here rfl taken)⟩
  · intro finished
    cases present.symm.trans finished
    exact heeds.heeded

end System
end Relay
end RegistryRelay
