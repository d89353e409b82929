import RegistryRelay.Proofs.Relay.Ownership

namespace RegistryRelay

def Act.event? : Act → Option Event
  | .note event => some event
  | _ => none

def Act.tells (kind : Event → Bool) : Act → Bool
  | .note event => kind event
  | _ => false

namespace Event

def routes (event : Event) : Bool :=
  [EventName.publishSendAttempt,.publisherCreate,.publisherReuse,.publisherCreateFailed,
    .publisherStale,.publishDropNoPublisher].contains event.name

def terminates (event : Event) : Bool := event.name == .targetTerminate
def closes (event : Event) : Bool := event.name == .publisherClose
def failsSend (event : Event) : Bool := event.name == .publishSendFailed

def closedField (event : Event) : Nat :=
  match event.details.lookup "closed" with
  | some (.count closed) => closed
  | _ => 0

end Event

def Call.beyond : Call → Bool
  | .sending _ _ => true
  | .mirroring _ => true
  | .terminate _ message => message.isSome
  | .finished => true
  | _ => false

def Call.willDrain : Call → Bool
  | .terminate .starting _ => true
  | .fault _ _ => true
  | _ => false

def Call.closedSoFar? : Call → Option Nat
  | .terminate (.closing _ closed) _ => some closed
  | _ => none

def Record.count (kind : Event → Bool) (record : Record) : Nat :=
  record.acts.countP (Act.tells kind)

def Record.closedFields (record : Record) : Nat :=
  ((record.acts.filterMap Act.event?).map Event.closedField).sum

namespace Relay

def said (records : List Record) : List Event :=
  (records.flatMap Record.acts).filterMap Act.event?

theorem said_concat (records : List Record) (record : Record) :
    said (records ++ [record]) = said records ++ record.acts.filterMap Act.event? := by
  simp [said]

theorem System.events_eq (s : System) : s.events = said s.history := by
  refine List.filterMap_congr fun act _ => ?_
  cases act <;> rfl

-- What a message in scope leaves in the log on its way to a publisher: the attempt, and what
-- came of it. A publisher that was drained meanwhile is reported with the message it costs.
inductive Routed (relay : Relay) (device subFolder : String) : List Event → Prop where
  | created : Routed relay device subFolder
      [.sendAttempt relay.registry device subFolder,.publisherCreated (relay.publisherKey device)]
  | reused : Routed relay device subFolder
      [.sendAttempt relay.registry device subFolder,.publisherReused (relay.publisherKey device)]
  | failed (fault : Fault) : Routed relay device subFolder
      [.sendAttempt relay.registry device subFolder,.publisherFailed relay.registry device fault]
  | stale : Routed relay device subFolder
      [.sendAttempt relay.registry device subFolder,.publisherStale (relay.publisherKey device),
        .noPublisher relay.registry device]

inductive Told (relay : Relay) (device subFolder : String) : Call → List Event → Prop where
  | begun : Told relay device subFolder (.publish device (some subFolder) data) []
  | looking (carried : call.carried? = some message) (mine : message.device = device) :
      Told relay device subFolder call [.sendAttempt relay.registry device subFolder]
  | settled (beyond : call.beyond = true) (routed : Routed relay device subFolder events) :
      Told relay device subFolder call events

variable {relay : Relay} {s t : State} {reply : Option Reply} {entry call after now : Call}
  {acts : List Act} {records : List Record} {device subFolder : String} {events : List Event}

theorem Transition.beyond (taken : Transition relay s reply call t after acts)
    (beyond : call.beyond = true) :
    after.beyond = true ∧ (acts.filterMap Act.event?).filter Event.routes = [] := by
  cases taken with
  | sent | notSent | mirror | recovered => exact ⟨rfl,rfl⟩
  | drain | shut | pass => exact ⟨beyond,rfl⟩
  | _ => cases beyond

theorem Told.step (told : Told relay device subFolder call events)
    (known : relay.devices.contains device = true)
    (taken : Transition relay s reply call t after acts) :
    Told relay device subFolder after
      (events ++ (acts.filterMap Act.event?).filter Event.routes) := by
  cases told with
  | begun =>
      cases taken with
      | attempt => exact .looking rfl rfl
      | ignoreAgain unknown | ignore unknown => cases known.symm.trans unknown
  | looking carried mine =>
      subst mine
      cases taken with
      | look | join | start | fetched | connected =>
          cases carried
          exact .looking rfl rfl
      | deliver =>
          rename_i created cached
          cases carried
          cases created with
          | true => exact .settled rfl .created
          | false => exact .settled rfl .reused
      | stale => cases carried; exact .settled rfl .stale
      | notFetched | noKey | notConnected => cases carried; exact .settled rfl (.failed _)
      | _ => cases carried
  | settled beyond routed =>
      obtain ⟨still,silent⟩ := taken.beyond beyond
      rw [silent,List.append_nil]
      exact .settled still routed

theorem Told.routed (told : Told relay device subFolder .finished events) :
    Routed relay device subFolder events := by
  cases told with
  | looking carried => cases carried
  | settled _ routed => exact routed

theorem Course.told {data : String} (known : relay.devices.contains device = true)
    (course : Course relay (.publish device (some subFolder) data) records now) :
    Told relay device subFolder now ((said records).filter Event.routes) := by
  induction course with
  | start => exact .begun
  | step course taken ih =>
      rw [said_concat,List.filter_append]
      exact ih.step known taken

-- Where every step is even, what a call holds at its beginning and what it gains on its way add
-- up to what it holds now and what it spent.
theorem Course.balance (value : Call → Nat) (gain cost : Record → Nat)
    (even : ∀ {reply : Option Reply} {call after : Call} {acts : List Act} {before next : State},
      Transition relay before reply call next after acts → ∀ index,
      value call + gain ⟨index,reply,call,after,acts⟩ =
        value after + cost ⟨index,reply,call,after,acts⟩)
    (course : Course relay entry records now) :
    value entry + (records.map gain).sum = value now + (records.map cost).sum := by
  induction course with
  | start => simp
  | step course taken ih =>
      rename_i index
      have last := even taken index
      simp only [List.map_append,List.map_singleton,List.sum_append,List.sum_singleton]
      omega

theorem countP_event? (kind : Event → Bool) (acts : List Act) :
    (acts.filterMap Act.event?).countP kind = acts.countP (Act.tells kind) := by
  rw [List.countP_filterMap]
  refine List.countP_congr fun act _ => ?_
  cases act <;> simp [Act.event?,Act.tells]

theorem said_countP (kind : Event → Bool) (records : List Record) :
    (said records).countP kind = (records.map (Record.count kind)).sum := by
  rw [said,countP_event?,List.countP_flatMap]
  rfl

theorem said_closedField (records : List Record) :
    ((said records).map Event.closedField).sum = (records.map Record.closedFields).sum := by
  rw [said,List.filterMap_flatMap,List.map_flatMap,List.flatMap_def,List.sum_flatten,List.map_map]
  rfl

theorem Transition.terminates (index : Nat) (taken : Transition relay s reply call t after acts) :
    call.closedSoFar?.isSome.toNat + (Record.drains ⟨index,reply,call,after,acts⟩).toNat =
      after.closedSoFar?.isSome.toNat +
        Record.count Event.terminates ⟨index,reply,call,after,acts⟩ := by
  cases taken with
  | deliver => rename_i created _; cases created <;> rfl
  | _ => rfl

theorem Transition.closes (index : Nat) (taken : Transition relay s reply call t after acts) :
    call.closedSoFar?.getD 0 + Record.count Event.closes ⟨index,reply,call,after,acts⟩ =
      after.closedSoFar?.getD 0 + Record.closedFields ⟨index,reply,call,after,acts⟩ := by
  cases taken with
  | deliver => rename_i created _; cases created <;> rfl
  | terminated | recovered => exact Nat.add_comm _ _
  | _ => rfl

theorem Transition.drainsOnce (index : Nat) (taken : Transition relay s reply call t after acts) :
    call.willDrain.toNat + Record.count Event.failsSend ⟨index,reply,call,after,acts⟩ =
      after.willDrain.toNat + (Record.drains ⟨index,reply,call,after,acts⟩).toNat := by
  cases taken with
  | deliver => rename_i created _; cases created <;> rfl
  | _ => rfl

structure Reported (relay : Relay) (entry : Call) (records : List Record) : Prop where
  routed : ∀ device subFolder data, entry = .publish device (some subFolder) data →
    relay.devices.contains device = true →
    Routed relay device subFolder ((said records).filter Event.routes)
  terminates : (said records).countP Event.terminates = records.countP Record.drains
  drains : records.countP Record.drains =
    entry.tearsDown.toNat + (said records).countP Event.failsSend
  closed : ((said records).map Event.closedField).sum = (said records).countP Event.closes

theorem Course.reported (isEntry : entry.isEntry = true)
    (course : Course relay entry records .finished) : Reported relay entry records := by
  have begins : entry.closedSoFar? = none ∧ entry.willDrain = entry.tearsDown := by
    cases entry with
    | terminate progress message =>
        match progress,message with
        | .starting,none => exact ⟨rfl,rfl⟩
        | .starting,some _ => cases isEntry
        | .closing _ _,_ => cases isEntry
    | publish | fault | inbound => exact ⟨rfl,rfl⟩
    | _ => cases isEntry
  have teardowns := course.balance (·.closedSoFar?.isSome.toNat) (·.drains.toNat)
    (Record.count Event.terminates) fun taken _ => taken.terminates _
  have closings := course.balance (·.closedSoFar?.getD 0) (Record.count Event.closes)
    Record.closedFields fun taken _ => taken.closes _
  have drains := course.balance (·.willDrain.toNat) (Record.count Event.failsSend)
    (·.drains.toNat) fun taken _ => taken.drainsOnce _
  rw [begins.1] at teardowns closings
  rw [begins.2] at drains
  rw [← System.countP_toNat Record.drains,← said_countP] at teardowns drains
  rw [← said_countP,← said_closedField] at closings
  refine ⟨?_,?_,?_,?_⟩
  · intro device subFolder data begun known
    subst begun
    exact (course.told known).routed
  · simpa [Call.closedSoFar?] using teardowns.symm
  · simpa [Call.willDrain] using drains.symm
  · simpa [Call.closedSoFar?] using closings.symm

end Relay
end RegistryRelay
