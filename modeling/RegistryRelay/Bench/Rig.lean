import RegistryRelay.Directory
import RegistryRelay.Relay.Call

namespace RegistryRelay

inductive Action where
  | message (topic payload : String)
  | error (fault : Fault)
  | fail (fault : Fault)
deriving DecidableEq, Repr

-- Everything the collaborators of a bench have seen, in order. A scripted answer replaces
-- a call, so the directory behind it does not count it.
inductive Entry where
  | note (event : Event)
  | bound (binding : DirectoryBinding)
  | listed
  | fetched (device : String) (scripted : Bool)
  | updated (device payload : String) (scripted : Bool)
  | attempted (publisher : PublisherId)
  | opened (publisher : PublisherId) (binding : PublisherBinding)
  | published (publisher : PublisherId) (device topic payload : String)
  | closed (publisher : PublisherId)
  | mirrored (bundle : Bundle)
deriving DecidableEq, Repr

inductive Backend where
  | recording (devices : Dict (Dict String)) (rejectsUpdates : Bool)
  | file (file : File) (directory : FileDirectory)

inductive SinkKind where
  | recording
  | closure
  | channel
deriving DecidableEq, Repr

structure Script where
  connect : Option Fault := none
  list : Option Fault := none
  listing : Option (List String) := none
  fetch : Dict Fault := {}
  update : Dict Fault := {}

structure Listener where
  relay : Nat
  device : String
deriving DecidableEq, Repr

structure OpenPublisher where
  publisher : PublisherId
  binding : PublisherBinding
  rejects : Bool
deriving DecidableEq, Repr

-- The collaborators that a bench hands to its relays. Attempts are numbered from zero, and
-- the number of an attempt is that of the publisher it opens.
structure Rig where
  backend : Backend
  sink : SinkKind := .recording
  sinkClosed : Bool := false
  delayed : Bool := false
  script : Script := {}
  rejectConnects : Bool := false
  rejectSends : Bool := false
  connectHooks : List (List Action) := []
  sendHooks : List (List Action) := []
  attempts : List Listener := []
  latest : Dict PublisherId := {}
  publishers : List OpenPublisher := []
  journal : List Entry := []

namespace Rig

def record (rig : Rig) (entry : Entry) : Rig := { rig with journal := rig.journal ++ [entry] }

def accept (rig : Rig) (bundle : Bundle) : Rig :=
  if rig.sink = .channel ∧ rig.sinkClosed then rig.record (.note .mirrorClosed)
  else rig.record (.mirrored bundle)

-- Requests leave their trace when they are answered.
def perform (rig : Rig) : Act → Rig
  | .note event => rig.record (.note event)
  | .ask _ => rig
  | .opened publisher binding => rig.record (.opened publisher binding)
  | .close publisher => rig.record (.closed publisher)
  | .mirror bundle => rig.accept bundle

def performAll (rig : Rig) (acts : List Act) : Rig := acts.foldl perform rig

def connectDirectory (rig : Rig) (binding : DirectoryBinding) : Except Fault Nat × Rig :=
  match rig.script.connect with
  | some fault => (.error fault,rig)
  | none =>
      match rig.backend with
      | .recording _ _ => (.ok 0,rig.record (.bound binding))
      | .file file directory =>
          match directory.connect file binding with
          | .error fault => (.error fault,rig)
          | .ok (handle,directory) => (.ok handle,{ rig with backend := .file file directory })

def listDevices (rig : Rig) (handle : Nat) : Except Fault (List String) × Rig :=
  match rig.script.list,rig.script.listing with
  | some fault,_ => (.error fault,rig)
  | none,some devices => (.ok devices,rig)
  | none,none =>
      match rig.backend with
      | .recording devices _ => (.ok devices.names,rig.record .listed)
      | .file _ directory =>
          match directory.snapshot? handle with
          | some s => (.ok s.listDevices,rig)
          | none => (.ok [],rig)

def fetchDevice (rig : Rig) (handle : Nat) (device : String) : Except Fault Device × Rig :=
  match rig.script.fetch.get? device with
  | some fault => (.error fault,rig.record (.fetched device true))
  | none =>
      let found : Except Fault Device :=
        match rig.backend with
        | .recording devices _ =>
            match devices.get? device with
            | some metadata => .ok ⟨device,metadata⟩
            | none => .error (.deviceNotFound device)
        | .file _ directory =>
            match directory.snapshot? handle with
            | some s => s.fetch device
            | none => .error (.deviceNotFound device)
      (found,rig.record (.fetched device false))

-- A recording directory takes configs for any device, and records those it rejects too.
def updateDevice (rig : Rig) (handle : Nat) (device payload : String) : Option Fault × Rig :=
  match rig.script.update.get? device with
  | some fault => (some fault,rig.record (.updated device payload true))
  | none =>
      let rig := rig.record (.updated device payload false)
      match rig.backend with
      | .recording _ rejects =>
          (if rejects then some (.directory "config update rejected") else none,rig)
      | .file file directory =>
          match directory.push handle device payload with
          | .error fault => (some fault,rig)
          | .ok directory => (none,{ rig with backend := .file file directory })

def beginAttempt (rig : Rig) (relay : Nat) (device : String) :
    PublisherId × List Action × Rig :=
  (rig.attempts.length,rig.connectHooks.headD [],
    { rig with
      attempts := rig.attempts ++ [⟨relay,device⟩]
      connectHooks := rig.connectHooks.tail })

def openPublisher (rig : Rig) (publisher : PublisherId) (binding : PublisherBinding) :
    Except Fault PublisherId × Rig :=
  if rig.rejectConnects then (.error (.transport "connect rejected"),rig)
  else
    (.ok publisher,
      { rig with
        latest := rig.latest.put binding.device publisher
        publishers := rig.publishers ++ [⟨publisher,binding,rig.rejectSends⟩] })

def beginSend (rig : Rig) : List Action × Rig :=
  (rig.sendHooks.headD [],{ rig with sendHooks := rig.sendHooks.tail })

-- A publisher that rejects messages records them all the same.
def send (rig : Rig) (publisher : PublisherId) (device topic payload : String) :
    Option Fault × Rig :=
  let rejects := rig.publishers.any fun p => p.publisher == publisher && p.rejects
  (if rejects then some (.transport "publish rejected") else none,
    rig.record (.published publisher device topic payload))

def messages (rig : Rig) (publisher : PublisherId) : List (String × String × String) :=
  rig.journal.filterMap fun entry =>
    match entry with
    | .published p device topic payload =>
        if p = publisher then some (device,topic,payload) else none
    | _ => none

def published (rig : Rig) : List (String × String × String) :=
  rig.publishers.flatMap fun p => rig.messages p.publisher

def publishersFor (rig : Rig) (device : String) : List OpenPublisher :=
  rig.publishers.filter fun p => p.binding.device == device

def closeCount (rig : Rig) (publisher : PublisherId) : Nat :=
  rig.journal.countP (· == .closed publisher)

end Rig
end RegistryRelay
