import RegistryRelay.Relay
import RegistryRelay.Topic

namespace RegistryRelay

structure Message where
  device : String
  subFolder : String
  data : String
deriving DecidableEq, Repr

def Message.topic (m : Message) : String := Topic.outbound m.subFolder

def Message.bundle (m : Message) (registry : String) : Bundle :=
  .routed registry m.device m.subFolder m.data

inductive Request where
  | fetch (device : String)
  | connect (binding : PublisherBinding)
  | send (publisher : PublisherId) (device topic payload : String)
  | update (device payload : String)
deriving DecidableEq, Repr

inductive Reply where
  | fetched (result : Except Fault Device)
  | connected (result : Except Fault PublisherId)
  | sent (fault : Option Fault)
  | updated (fault : Option Fault)

inductive Act where
  | note (event : Event)
  | ask (request : Request)
  | opened (publisher : PublisherId) (binding : PublisherBinding)
  | close (publisher : PublisherId)
  | mirror (bundle : Bundle)
deriving DecidableEq, Repr

-- How far a call on a relay has come. Calls begin as `publish`, `terminate`, `fault` (a
-- publisher reports an error) or `inbound` (a publisher hands over a message). A message
-- whose send failed is mirrored after the teardown.
inductive Call where
  | publish (device : String) (subFolder : Option String) (data : String)
  | acquiring (message : Message) (progress : Acquisition)
  | fetching (message : Message) (slot : SlotId)
  | connecting (message : Message) (slot : SlotId) (binding : PublisherBinding)
  | sending (message : Message) (publisher : PublisherId)
  | mirroring (message : Message)
  | terminate (progress : Teardown) (after : Option Message)
  | fault (device : String) (fault : Fault)
  | inbound (topic payload : String)
  | updating (device payload : String)
  | finished

def Call.terminating : Call := .terminate .starting none

def Call.request? : Call → Option Request
  | .fetching message _ => some (.fetch message.device)
  | .connecting _ _ binding => some (.connect binding)
  | .sending message publisher =>
      some (.send publisher message.device message.topic message.data)
  | .updating device payload => some (.update device payload)
  | _ => none

namespace Relay

abbrev Step := State × Call × List Act

def failCreation (relay : Relay) (s : State) (message : Message) (slot : SlotId)
    (fault : Fault) : Step :=
  ({ s with pool := s.pool.fill slot .empty },.finished,
    [.note (.publisherFailed relay.registry message.device fault)])

-- One step of a call. There is none while the call waits for another caller's turn or for
-- a reply that is not there.
def step (relay : Relay) (s : State) (reply : Option Reply) : Call → Option Step
  | .publish device none _ =>
      some (s,.finished,[.note (.noSubFolder relay.registry device)])
  | .publish device (some subFolder) data =>
      if relay.devices.contains device then
        some (s,.acquiring ⟨device,subFolder,data⟩ .asking,
          [.note (.sendAttempt relay.registry device subFolder)])
      else if s.ignored.contains device then some (s,.finished,[])
      else
        some ({ s with ignored := device :: s.ignored },.finished,
          [.note (.unknownDevice relay.registry device subFolder)])
  | .acquiring message progress =>
      match progress.step s.pool (relay.publisherKey message.device) none with
      | none => none
      | some (pool,.proceed (.opening slot)) =>
          some ({ s with pool },.fetching message slot,[.ask (.fetch message.device)])
      | some (pool,.proceed next) => some ({ s with pool },.acquiring message next,[])
      | some (pool,.acquired publisher created) =>
          let key := relay.publisherKey message.device
          some ({ s with pool },.sending message publisher,
            [.note (if created then .publisherCreated key else .publisherReused key),
              .ask (.send publisher message.device message.topic message.data)])
      | some (pool,.stale publisher) =>
          some ({ s with pool },.finished,
            [.note (.publisherStale (relay.publisherKey message.device)),.close publisher,
              .note (.noPublisher relay.registry message.device)])
      | some (_,.failed) => none
  | .fetching message slot =>
      match reply with
      | some (.fetched (.error fault)) => some (relay.failCreation s message slot fault)
      | some (.fetched (.ok device)) =>
          match device.keyMaterial with
          | .error fault => some (relay.failCreation s message slot fault)
          | .ok key =>
              let binding := relay.binding message.device key
              some (s,.connecting message slot binding,[.ask (.connect binding)])
      | _ => none
  | .connecting message slot binding =>
      match reply with
      | some (.connected (.error fault)) => some (relay.failCreation s message slot fault)
      | some (.connected (.ok publisher)) =>
          match (Acquisition.opening slot).step s.pool (relay.publisherKey message.device)
              (some publisher) with
          | some (pool,.proceed next) =>
              some ({ s with pool },.acquiring message next,[.opened publisher binding])
          | _ => none
      | _ => none
  | .sending message _ =>
      match reply with
      | some (.sent none) => some (s,.mirroring message,[])
      | some (.sent (some fault)) =>
          some (s,.terminate .starting (some message),
            [.note (.sendFailed relay.registry message.device message.topic fault)])
      | _ => none
  | .mirroring message =>
      some (s,.finished,
        [.note (.mirrored relay.registry message.device message.subFolder),
          .mirror (message.bundle relay.registry)])
  | .terminate progress after =>
      match progress.step relay.order s.pool with
      | (pool,.proceed next) => some ({ s with pool },.terminate next after,[])
      | (pool,.close key publisher next) =>
          some ({ s with pool },.terminate next after,
            [.note (.publisherClosed key),.close publisher])
      | (pool,.finished closed) =>
          let next := match after with
            | some message => .mirroring message
            | none => .finished
          some ({ s with pool },next,[.note (.terminated relay.registry closed)])
  | .fault device fault =>
      some (s,.terminating,[.note (.publisherError relay.registry device fault)])
  | .inbound topic payload =>
      let received := Act.note (.received relay.registry topic)
      if Topic.isConfig topic then
        match Topic.configDevice? topic with
        | none => some (s,.finished,[received,.note (.invalidTopic relay.registry topic)])
        | some device =>
            some (s,.updating device payload,
              [received,.note (.configUpdate relay.registry device),
                .ask (.update device payload)])
      else some (s,.finished,[received,.note (.ignored relay.registry topic)])
  | .updating device payload =>
      match reply with
      | some (.updated none) => some (s,.mirroring ⟨device,Topic.configFolder,payload⟩,[])
      | some (.updated (some fault)) =>
          some (s,.finished,[.note (.configUpdateFailed relay.registry device fault)])
      | _ => none
  | .finished => none

end Relay

def Call.rank : Call → Nat
  | .finished => 0
  | .mirroring _ => 1
  | .updating _ _ => 2
  | .inbound _ _ => 3
  | .terminate (.closing _ _) _ => 2
  | .terminate .starting _ => 3
  | .fault _ _ => 4
  | .sending _ _ => 4
  | .acquiring _ (.checking _ _ _) => 5
  | .connecting _ _ _ => 6
  | .fetching _ _ => 7
  | .acquiring _ (.opening _) => 8
  | .acquiring _ (.waiting _) => 9
  | .acquiring _ .asking => 10
  | .publish _ _ _ => 11

def Call.pending : Call → Nat
  | .terminate (.closing left _) _ => left.length
  | _ => 0

-- Every step brings a call nearer to its end, so no call runs forever.
theorem Relay.step_descends {relay : Relay} {s t : Relay.State} {reply : Option Reply}
    {call next : Call} {acts : List Act}
    (stepped : relay.step s reply call = some (t,next,acts)) :
    next.rank < call.rank ∨ next.rank = call.rank ∧ next.pending < call.pending := by
  cases call with
  | publish device subFolder data =>
      cases subFolder with
      | none => cases stepped; simp [Call.rank]
      | some subFolder =>
          simp only [Relay.step] at stepped
          split at stepped
          · cases stepped; simp [Call.rank]
          · split at stepped <;> (cases stepped; simp [Call.rank])
  | acquiring message progress =>
      cases progress with
      | asking => cases stepped; simp [Call.rank]
      | waiting slot =>
          simp only [Relay.step,Acquisition.step] at stepped
          cases held : s.pool.content slot <;> rw [held] at stepped <;> cases stepped <;>
            simp [Call.rank]
      | opening slot => cases stepped
      | checking slot publisher created =>
          simp only [Relay.step,Acquisition.step] at stepped
          by_cases cached : s.pool.caches (relay.publisherKey message.device) slot = true
          · simp only [cached,↓reduceIte] at stepped; cases stepped; simp [Call.rank]
          · simp only [cached,Bool.false_eq_true,↓reduceIte] at stepped
            cases stepped; simp [Call.rank]
  | fetching message slot =>
      simp only [Relay.step] at stepped
      split at stepped
      · cases stepped; simp [Call.rank]
      · split at stepped <;> (cases stepped; simp [Call.rank])
      · cases stepped
  | connecting message slot binding =>
      simp only [Relay.step] at stepped
      split at stepped
      · cases stepped; simp [Call.rank]
      · cases stepped; simp [Call.rank]
      · cases stepped
  | sending message publisher =>
      simp only [Relay.step] at stepped
      split at stepped <;> cases stepped <;> simp [Call.rank]
  | mirroring message => cases stepped; simp [Call.rank]
  | terminate progress after =>
      cases progress with
      | starting => cases stepped; simp [Call.rank]
      | closing left closed =>
          cases left with
          | nil => cases after <;> (cases stepped; simp [Call.rank])
          | cons head left =>
              obtain ⟨key,slot⟩ := head
              simp only [Relay.step,Teardown.step] at stepped
              cases held : s.pool.held? slot <;> rw [held] at stepped <;> cases stepped <;>
                simp [Call.rank,Call.pending]
  | fault device fault => cases stepped; simp [Call.terminating,Call.rank]
  | inbound topic payload =>
      simp only [Relay.step] at stepped
      split at stepped
      · split at stepped <;> (cases stepped; simp [Call.rank])
      · cases stepped; simp [Call.rank]
  | updating device payload =>
      simp only [Relay.step] at stepped
      split at stepped <;> cases stepped <;> simp [Call.rank]
  | finished => cases stepped

end RegistryRelay
