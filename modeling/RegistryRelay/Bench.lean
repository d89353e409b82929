import RegistryRelay.Bench.Line

namespace RegistryRelay

-- A listener is named by the attempt it was given to, or by a device: then it is that of
-- the publisher opened last for the device, in any registry.
inductive ListenerName where
  | attempt (number : Nat)
  | device (id : String)
deriving DecidableEq, Repr

inductive Operation where
  | publish (target : Nat) (device : String) (subFolder : Option String) (data : String)
  | terminate (target : Nat)
  | message (listener : ListenerName) (topic payload : String)
  | error (listener : ListenerName) (fault : Fault)
deriving DecidableEq, Repr

inductive Command where
  | create (registry project : String) (settings : Option SettingsMap)
  | operate (operation : Operation)
  | drop (target : Nat)
  | rejectConnects (on : Bool)
  | rejectSends (on : Bool)
  | hookConnect (actions : List Action)
  | hookSend (actions : List Action)
  | failConnect (fault : Option Fault)
  | failList (fault : Option Fault)
  | listing (devices : Option (List String))
  | failFetch (device : String) (fault : Option Fault)
  | failUpdate (device : String) (fault : Option Fault)
  | deviceConfig (registry device : String)
  | closeSink
  | concurrently (operations : List Operation)

inductive Place where
  | vacant
  | disabled
  | occupied (line : Line)

inductive Answer where
  | done
  | noTarget
  | noListener
  | created (registry : String) (route : Option Route) (devices : List String)
  | failed (fault : Fault)
  | deviceConfig (connected : Bool) (payload : Option String)
  | each (answers : List Answer)

-- Each relay is dealt the order in which its pool is drained.
structure Bench where
  settings : SettingsMap
  rig : Rig
  places : List Place := []
  orders : Nat → DrainOrder := fun _ => .inserted

namespace Bench

def place (b : Bench) (target : Nat) : Place := (b.places[target]?).getD .vacant

def writeBack (b : Bench) (target : Nat) (w : Line.World) : Bench :=
  { b with rig := w.rig, places := b.places.set target (.occupied w.line) }

def listener? (b : Bench) : ListenerName → Option Listener
  | .attempt number => b.rig.attempts[number]?
  | .device id => (b.rig.latest.get? id).bind fun number => b.rig.attempts[number]?

def create (b : Bench) (registry project : String) (settings : SettingsMap) : Bench × Answer :=
  let made := Relay.create (m := StateM Rig)
    (fun event => modify (·.record (.note event)))
    (fun binding rig => rig.connectDirectory binding)
    (fun handle rig => rig.listDevices handle)
    settings registry project
  let (result,rig) := made.run b.rig
  let b := { b with rig }
  match result with
  | .error fault => ({ b with places := b.places ++ [.vacant] },.failed fault)
  | .ok none => ({ b with places := b.places ++ [.disabled] },.created registry none [])
  | .ok (some (relay,handle)) =>
      let number := b.places.length
      let line : Line := { number,relay := { relay with order := b.orders number },handle }
      ({ b with places := b.places ++ [.occupied line] },
        .created registry (some relay.route) relay.devices)

-- How an operation begins. Nothing more happens when its target is missing or disabled,
-- or when the relay behind its listener is gone; then the listener says so.
inductive Start where
  | answered (answer : Answer)
  | begun (target : Nat) (call : Call)

def begin (b : Bench) : Operation → Bench × Start
  | .publish target device subFolder data =>
      match b.place target with
      | .vacant => (b,.answered .noTarget)
      | .disabled => (b,.answered .done)
      | .occupied _ => (b,.begun target (.publish device subFolder data))
  | .terminate target =>
      match b.place target with
      | .vacant => (b,.answered .noTarget)
      | .disabled => (b,.answered .done)
      | .occupied _ => (b,.begun target .terminating)
  | .message name topic payload =>
      match b.listener? name with
      | none => (b,.answered .noListener)
      | some listener =>
          match b.place listener.relay with
          | .occupied _ => (b,.begun listener.relay (.inbound topic payload))
          | _ =>
              ({ b with rig := b.rig.record (.note (.messageAfterDrop listener.device topic)) },
                .answered .done)
  | .error name fault =>
      match b.listener? name with
      | none => (b,.answered .noListener)
      | some listener =>
          match b.place listener.relay with
          | .occupied _ => (b,.begun listener.relay (.fault listener.device fault))
          | _ =>
              ({ b with rig := b.rig.record (.note (.errorAfterDrop listener.device fault)) },
                .answered .done)

def operate (b : Bench) (operation : Operation) : Bench × Answer :=
  match b.begin operation with
  | (b,.answered answer) => (b,answer)
  | (b,.begun target call) =>
      match b.place target with
      | .occupied line => (b.writeBack target (Line.World.complete ⟨line,b.rig⟩ call),.done)
      | _ => (b,.done)

inductive Task where
  | answered (answer : Answer)
  | running (target : Nat) (pace : Pace)

def advance (b : Bench) : Task → Bench × Task
  | .running target pace =>
      match b.place target with
      | .occupied line =>
          let (w,pace) := Line.World.resume ⟨line,b.rig⟩ pace
          (b.writeBack target w,.running target pace)
      | _ => (b,.running target pace)
  | task => (b,task)

def advanceAll (b : Bench) : List Task → Bench × List Task
  | [] => (b,[])
  | task :: rest =>
      let (b,task) := b.advance task
      let (b,rest) := b.advanceAll rest
      (b,task :: rest)

def startAll (b : Bench) : List Operation → Bench × List Task
  | [] => (b,[])
  | operation :: rest =>
      let (b,start) := b.begin operation
      let (b,task) : Bench × Task :=
        match start with
        | .answered answer => (b,.answered answer)
        | .begun target call => b.advance (.running target (.waits call))
      let (b,rest) := b.startAll rest
      (b,task :: rest)

-- So many times all sleepers wake, in the order of the tasks, and with each of them the
-- tasks that it held up.
def rounds (b : Bench) (tasks : List Task) : Nat → Bench × List Task
  | 0 => (b,tasks)
  | n + 1 =>
      let (b,tasks) := b.advanceAll tasks
      b.rounds tasks n

def Task.answer : Task → Answer
  | .answered answer => answer
  | .running _ _ => .done

-- All operations are started in order before the first publisher is opened. Every task
-- sleeps at most once and wakes in the next round, so there are never more rounds than
-- tasks.
def concurrently (b : Bench) (operations : List Operation) : Bench × Answer :=
  let (b,tasks) := b.startAll operations
  let (b,tasks) := b.rounds tasks operations.length
  (b,.each (tasks.map Task.answer))

def deviceConfig (b : Bench) (registry device : String) : Answer :=
  match b.rig.backend with
  | .recording _ _ => .deviceConfig false none
  | .file _ directory =>
      match directory.directory? registry with
      | none => .deviceConfig false none
      | some s => .deviceConfig true (s.config? device)

def setScript (b : Bench) (change : Script → Script) : Bench :=
  { b with rig := { b.rig with script := change b.rig.script } }

def perform (b : Bench) : Command → Bench × Answer
  | .create registry project settings =>
      b.create registry project (settings.getD b.settings)
  | .operate operation => b.operate operation
  | .drop target => ({ b with places := b.places.set target .vacant },.done)
  | .rejectConnects on => ({ b with rig := { b.rig with rejectConnects := on } },.done)
  | .rejectSends on => ({ b with rig := { b.rig with rejectSends := on } },.done)
  | .hookConnect actions =>
      ({ b with rig := { b.rig with connectHooks := b.rig.connectHooks ++ [actions] } },.done)
  | .hookSend actions =>
      ({ b with rig := { b.rig with sendHooks := b.rig.sendHooks ++ [actions] } },.done)
  | .failConnect fault => (b.setScript fun s => { s with connect := fault },.done)
  | .failList fault => (b.setScript fun s => { s with list := fault },.done)
  | .listing devices => (b.setScript fun s => { s with listing := devices },.done)
  | .failFetch device fault =>
      (b.setScript fun s => { s with fetch := s.fetch.set device fault },.done)
  | .failUpdate device fault =>
      (b.setScript fun s => { s with update := s.update.set device fault },.done)
  | .deviceConfig registry device => (b,b.deviceConfig registry device)
  | .closeSink => ({ b with rig := { b.rig with sinkClosed := true } },.done)
  | .concurrently operations => b.concurrently operations

end Bench
end RegistryRelay
