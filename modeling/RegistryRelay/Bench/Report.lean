import RegistryRelay.Bench

namespace RegistryRelay

inductive Happened where
  | inOrder (events : List Event)
  | counted (counts : List (EventName × Nat))

structure Observation where
  opened : List OpenPublisher
  published : List (PublisherId × String × String × String)
  closed : List PublisherId
  mirrored : List Bundle
  fetched : List String
  updated : List (String × String)
  happened : Happened
  status : Option (Nat × List String)

structure Observed where
  answer : Answer
  observation : Observation

-- Closing order within one teardown says nothing, so neighbours that close publishers are
-- ordered by their keys.
def orderCloses (events : List Event) : List Event :=
  let rec insert (key : PublisherKey) : List Event → List Event
    | .publisherClosed other :: rest =>
        if other.text < key.text then .publisherClosed other :: insert key rest
        else .publisherClosed key :: .publisherClosed other :: rest
    | rest => .publisherClosed key :: rest
  events.foldr (fun event rest =>
    match event with
    | .publisherClosed key => insert key rest
    | _ => event :: rest) []

def countEvents (events : List Event) : List (EventName × Nat) :=
  EventName.catalogue.filterMap fun name =>
    let n := events.countP (fun event => event.name = name)
    if n = 0 then none else some (name,n)

namespace Entry

def event? : Entry → Option Event
  | .note event => some event
  | _ => none

def closed? : Entry → Option PublisherId
  | .closed publisher => some publisher
  | _ => none

def mirrored? : Entry → Option Bundle
  | .mirrored bundle => some bundle
  | _ => none

def fetched? : Entry → Option String
  | .fetched device _ => some device
  | _ => none

def updated? : Entry → Option (String × String)
  | .updated device payload _ => some (device,payload)
  | _ => none

end Entry

-- What is logged: the events of the relays, and a line of each recording collaborator that is used.
-- That of the mirror shows all of a bundle. Directories over a file have lines of another kind,
-- about their file and the configs they take; those are left out.
inductive Logged where
  | event (event : Event)
  | fetching (device : String)
  | opening (project registry device : String)
  | publishing (device topic : String)
  | mirroring (bundle : Bundle)
deriving DecidableEq, Repr

def Rig.logs (rig : Rig) : Entry → List Logged
  | .note event => [.event event]
  | .fetched device false =>
      match rig.backend with
      | .recording _ _ => [.fetching device]
      | .file _ _ => []
  | .opened _ binding => [.opening binding.project binding.registry binding.device]
  | .published _ device topic _ => [.publishing device topic]
  | .mirrored bundle => if rig.sink = .recording then [.mirroring bundle] else []
  | _ => []

def before : List String → List String → Bool
  | [],_ => true
  | _ :: _,[] => false
  | a :: as,b :: bs => if a = b then before as bs else decide (a ≤ b)

def Bundle.sortKey (b : Bundle) : List String :=
  [b.registry?.getD "",b.device?.getD "",b.subFolder?.getD "",b.payload]

def Rig.observe (past now : Rig) (ordered : Bool) (status : Option (Nat × List String)) :
    Observation :=
  let journal := now.journal.drop past.journal.length
  let sent := now.publishers.flatMap fun p =>
    journal.filterMap fun entry =>
      match entry with
      | .published publisher device topic payload =>
          if publisher = p.publisher then some (publisher,device,topic,payload) else none
      | _ => none
  let mirrored := journal.filterMap Entry.mirrored?
  let fetched := journal.filterMap Entry.fetched?
  let updated := journal.filterMap Entry.updated?
  let events := journal.filterMap Entry.event?
  let opened := (now.publishers.drop past.publishers.length).mergeSort
    fun a b => decide (a.publisher ≤ b.publisher)
  let closed := (journal.filterMap Entry.closed?).mergeSort fun a b => decide (a ≤ b)
  if ordered then
    { opened,closed,mirrored,fetched,updated,status
      published := sent
      happened := .inOrder (orderCloses events) }
  else
    { opened,closed,status
      published := sent.mergeSort fun a b =>
        before [a.2.1,a.2.2.1,a.2.2.2] [b.2.1,b.2.2.1,b.2.2.2]
      mirrored := mirrored.mergeSort fun a b => before a.sortKey b.sortKey
      fetched := ascending fetched
      updated := updated.mergeSort fun a b => before [a.1,a.2] [b.1,b.2]
      happened := .counted (countEvents events) }

structure DeviceTotals where
  opened : Nat
  closed : Nat
  fetched : Option Nat

structure DirectoryTotals where
  connects : Nat
  lists : Nat
  calls : Nat
  updates : List (String × String)
  bindings : List DirectoryBinding

structure Totals where
  attempts : Nat
  published : Nat
  mirrored : Option Nat
  directory : Option DirectoryTotals
  devices : List (String × DeviceTotals)

def Rig.totals (rig : Rig) : Totals :=
  let count (p : Entry → Bool) : Nat := rig.journal.countP p
  let recording := match rig.backend with
    | .recording _ _ => true
    | .file _ _ => false
  let bindings := rig.journal.filterMap fun entry =>
    match entry with
    | .bound binding => some binding
    | _ => none
  let updates := rig.journal.filterMap fun entry =>
    match entry with
    | .updated device payload false => some (device,payload)
    | _ => none
  let fetches := rig.journal.filterMap fun entry =>
    match entry with
    | .fetched device false => some device
    | _ => none
  let lists := count (· == .listed)
  let device (id : String) : DeviceTotals :=
    let own := rig.publishersFor id
    { opened := own.length
      closed := (own.filter fun p => rig.closeCount p.publisher != 0).length
      fetched := if recording then some (fetches.count id) else none }
  { attempts := count fun | .attempted _ => true | _ => false
    published := count fun | .published .. => true | _ => false
    mirrored := if rig.sink = .recording then some (count fun | .mirrored _ => true | _ => false)
      else none
    directory := if recording then
        some { connects := bindings.length,lists,updates,bindings
               calls := bindings.length + lists + fetches.length + updates.length }
      else none
    devices := (ascendingSet (rig.publishers.map (·.binding.device))).map
      fun id => (id,device id) }

namespace Bench

def status (b : Bench) (target : Nat) : Option (Nat × List String) :=
  match b.place target with
  | .vacant => none
  | .disabled => some (0,[])
  | .occupied line => some (line.state.pool.size,ascending line.state.ignored)

def observe (b : Bench) (target : Nat) (command : Command) : Bench × Observed :=
  let (later,answer) := b.perform command
  let ordered := match command with
    | .concurrently _ => false
    | _ => true
  (later,{ answer,observation := b.rig.observe later.rig ordered (later.status target) })

def observeAll (b : Bench) : List (Nat × Command) → Bench × List Observed
  | [] => (b,[])
  | (target,command) :: rest =>
      let (b,first) := b.observe target command
      let (b,others) := b.observeAll rest
      (b,first :: others)

end Bench
end RegistryRelay
