import RegistryRelay.Proofs.Bench.Progress

namespace RegistryRelay
open Line (World)

-- Publishers do nothing of their own accord, no relay comes or goes, and one operation follows
-- another.
def Command.isPlain : Command → Bool
  | .create .. | .drop _ | .hookConnect _ | .hookSend _ | .concurrently _ => false
  | _ => true

def Command.turn : Command → Rig → Rig
  | .rejectConnects on,rig => { rig with rejectConnects := on }
  | .rejectSends on,rig => { rig with rejectSends := on }
  | .failConnect fault,rig => { rig with script := { rig.script with connect := fault } }
  | .failList fault,rig => { rig with script := { rig.script with list := fault } }
  | .listing devices,rig => { rig with script := { rig.script with listing := devices } }
  | .failFetch device fault,rig =>
      { rig with script := { rig.script with fetch := rig.script.fetch.set device fault } }
  | .failUpdate device fault,rig =>
      { rig with script := { rig.script with update := rig.script.update.set device fault } }
  | .closeSink,rig => { rig with sinkClosed := true }
  | _,rig => rig

def Command.message? : Command → Option Message
  | .operate (.publish 0 device (some subFolder) data) => some ⟨device,subFolder,data⟩
  | _ => none

-- What holds of everything that creating a relay does, one thing after the other, holds of the
-- creation.
theorem Relay.create_closed {m : Type → Type} {δ : Type} [Monad m] {P : ∀ {α : Type}, m α → Prop}
    (bind : ∀ {α β : Type} {first : m α} {rest : α → m β},
      P first → (∀ a, P (rest a)) → P (first >>= rest))
    (done : ∀ {α : Type} (a : α), P (pure a : m α))
    {note : Event → m Unit} (notes : ∀ event, P (note event))
    {connect : DirectoryBinding → m (Except Fault δ)} (connects : ∀ binding, P (connect binding))
    {list : δ → m (Except Fault (List String))} (lists : ∀ directory, P (list directory))
    (settings : SettingsMap) (registry project : String) :
    P (Relay.create note connect list settings registry project) := by
  unfold Relay.create
  refine bind (notes _) fun _ => ?_
  split
  · exact bind (notes _) fun _ => bind (notes _) fun _ => done _
  · dsimp only
    split
    · exact done _
    · refine bind (notes _) fun _ => bind (connects _) fun connected => ?_
      split
      · exact done _
      · refine bind (lists _) fun listed => ?_
        split
        · exact done _
        · exact bind (notes _) fun _ => bind (notes _) fun _ => done _

def Bench.follow (b : Bench) : Start → Bench × Task
  | .answered answer => (b,.answered answer)
  | .begun target call => b.advance (.running target (.waits call))

theorem Bench.concurrently_closed {P : ∀ {α : Type}, (Bench → Bench × α) → Prop}
    (bind : ∀ {α β : Type} {first : Bench → Bench × α} {rest : α → Bench → Bench × β},
      P first → (∀ a, P (rest a)) → P fun b => rest (first b).2 (first b).1)
    (done : ∀ {α : Type} (a : α), P fun b => (b,a))
    (begins : ∀ operation, P fun b => b.begin operation)
    (advances : ∀ task, P fun b => b.advance task) (operations : List Operation) :
    P fun b => b.concurrently operations := by
  have follows (start : Start) : P fun b => b.follow start := by
    cases start with
    | answered answer => exact done (Task.answered answer)
    | begun target call => exact advances (.running target (.waits call))
  have startsAll : P fun b => b.startAll operations := by
    induction operations with
    | nil => exact done []
    | cons operation rest ih =>
        exact bind (begins operation) fun start => bind (follows start) fun task =>
          bind ih fun tasks => done (task :: tasks)
  have advancesAll (tasks : List Task) : P fun b => b.advanceAll tasks := by
    induction tasks with
    | nil => exact done []
    | cons task rest ih =>
        exact bind (advances task) fun task => bind ih fun tasks => done (task :: tasks)
  have rounds (n : Nat) (tasks : List Task) : P fun b => b.rounds tasks n := by
    induction n generalizing tasks with
    | zero => exact done tasks
    | succ n ih => exact bind (advancesAll tasks) ih
  exact bind startsAll fun tasks => bind (rounds operations.length tasks) fun tasks =>
    done (Answer.each (tasks.map Task.answer))

structure Rig.Unused (rig : Rig) : Prop where
  connects : rig.connectHooks = []
  sends : rig.sendHooks = []
  attempts : rig.attempts = []
  publishers : rig.publishers = []
  journal : ∀ entry ∈ rig.journal, entry.plain = true

namespace Rig
variable {rig : Rig}

theorem Unused.record (unused : Unused rig) {entry : Entry} (plain : entry.plain = true) :
    Unused (rig.record entry) :=
  ⟨unused.connects,unused.sends,unused.attempts,unused.publishers,
    List.forall_mem_append.mpr ⟨unused.journal,List.forall_mem_singleton.mpr plain⟩⟩

theorem Unused.connectDirectory (unused : Unused rig) (binding : DirectoryBinding) :
    Unused (rig.connectDirectory binding).2 := by
  unfold Rig.connectDirectory
  split
  · exact unused
  · split
    · exact unused.record rfl
    · split
      · exact unused
      · exact ⟨unused.connects,unused.sends,unused.attempts,unused.publishers,unused.journal⟩

theorem Unused.listDevices (unused : Unused rig) (handle : Nat) :
    Unused (rig.listDevices handle).2 := by
  unfold Rig.listDevices
  split
  · exact unused
  · exact unused
  · split
    · exact unused.record rfl
    · split <;> exact unused

def Spares (action : StateM Rig α) : Prop := ∀ rig, Unused rig → Unused (action.run rig).2

theorem spares_bind {action : StateM Rig α} {next : α → StateM Rig β} (first : Spares action)
    (rest : ∀ a, Spares (next a)) : Spares (action >>= next) :=
  fun rig unused => rest _ _ (first rig unused)

theorem spares_note (event : Event) : Spares (modify (·.record (.note event))) :=
  fun _ unused => unused.record rfl

theorem spares_create (settings : SettingsMap) (registry project : String) :
    Spares (Relay.create (m := StateM Rig)
      (fun event => modify (·.record (.note event)))
      (fun binding rig => rig.connectDirectory binding)
      (fun handle rig => rig.listDevices handle) settings registry project) :=
  Relay.create_closed (P := Spares) spares_bind (fun _ _ unused => unused)
    spares_note (fun binding _ unused => unused.connectDirectory binding)
    (fun handle _ unused => unused.listDevices handle) settings registry project

end Rig
namespace Bench

structure Fresh (b : Bench) (line : Line) : Prop where
  places : b.places = [.occupied line]
  number : line.number = 0
  state : line.state = {}
  unused : b.rig.Unused

inductive Sequential : Bench → Prop where
  | fresh (fresh : Fresh b line) : Sequential b
  | perform (before : Sequential b) (plain : command.isPlain = true) :
      Sequential (b.perform command).1

def added (b : Bench) (command : Command) : List Entry :=
  (b.perform command).1.rig.journal.drop b.rig.journal.length

def performs (b : Bench) (commands : List Command) : Bench :=
  commands.foldl (fun b command => (b.perform command).1) b

structure Steady (b : Bench) (line : Line) : Prop where
  places : b.places = [.occupied line]
  number : line.number = 0
  ready : World.Ready ⟨line,b.rig⟩

def call? (b : Bench) : Command → Option Call
  | .operate (.publish 0 device subFolder data) => some (.publish device subFolder data)
  | .operate (.terminate 0) => some .terminating
  | .operate (.message name topic payload) => (b.listener? name).map fun _ => .inbound topic payload
  | .operate (.error name fault) => (b.listener? name).map fun found => .fault found.device fault
  | _ => none

variable {b : Bench} {line : Line} {command : Command} {call : Call}

theorem create_fresh {rig : Rig} {settings own : SettingsMap} {registry project name : String}
    {route : Route} {devices : List String} {orders : Nat → DrainOrder} (unused : rig.Unused)
    (created : Bench.create { settings,rig,orders } registry project own =
      (b,.created name (some route) devices)) :
    ∃ line, b.Fresh line ∧ line.relay.route = route ∧ line.relay.devices = devices := by
  have untouched := Rig.spares_create own registry project rig unused
  unfold Bench.create at created
  simp only at created
  generalize StateT.run _ rig = answer at created untouched
  obtain ⟨result,after⟩ := answer
  simp only at created
  split at created
  · cases created
  · cases created
  · rename_i relay handle
    cases created
    exact ⟨⟨0,{ relay with order := orders 0 },handle,{}⟩,⟨rfl,rfl,rfl,untouched⟩,rfl,rfl⟩

theorem Fresh.steady (fresh : b.Fresh line) : b.Steady line := by
  have unserved (key : PublisherKey) : line.state.pool.serves? key = none := by
    rw [fresh.state]
    rfl
  have nobody {p : OpenPublisher} (member : p ∈ b.rig.publishers) : False := by
    rw [fresh.unused.publishers] at member
    cases member
  have kept : World.Kept ⟨line,{ b.rig with journal := [] }⟩ := by
    refine ⟨⟨?_,?_,fresh.unused.connects,fresh.unused.sends⟩,?_,?_,fun p member => (nobody member).elim,
      fun n _ => ⟨rfl,rfl⟩,?_,fun p member => (nobody member).elim,
      fun p member => (nobody member).elim,?_,?_,?_⟩
    · rw [fresh.state]
      exact Pool.empty_orderly
    · rw [fresh.state]
      exact fun slot => nofun
    · change ∀ listener ∈ b.rig.attempts, _
      rw [fresh.unused.attempts]
      exact nofun
    · change (b.rig.publishers.map _).Nodup
      rw [fresh.unused.publishers]
      exact .nil
    · exact fun key publisher served => nomatch (unserved key).symm.trans served
    · change _ = b.rig.publishers.map _
      rw [fresh.unused.publishers]
      rfl
    · intro device stretch inside _
      rw [List.infix_nil.mp inside]
      exact Nat.zero_le 1
    · intro device _ stretch last _
      rw [List.suffix_nil.mp last]
      rfl
  have ready : World.Ready ⟨line,{ b.rig with journal := [] }⟩ :=
    ⟨kept,fun p member => (nobody member).elim⟩
  exact ⟨fresh.places,fresh.number,ready.extend fresh.unused.journal⟩

theorem Steady.place (steady : b.Steady line) : b.place 0 = .occupied line := by
  rw [Bench.place,steady.places]
  rfl

theorem Steady.vacant (steady : b.Steady line) (n : Nat) : b.place (n + 1) = .vacant := by
  rw [Bench.place,steady.places]
  rfl

theorem Steady.own (steady : b.Steady line) {name : ListenerName} {found : Listener}
    (listens : b.listener? name = some found) : found.relay = 0 := by
  have handed : found ∈ b.rig.attempts := by
    cases name with
    | attempt number => exact List.mem_of_getElem? listens
    | device id =>
        obtain ⟨number,_,opened⟩ := Option.bind_eq_some_iff.mp listens
        exact List.mem_of_getElem? opened
  exact (steady.ready.own found handed).trans steady.number

def settle (b : Bench) (w : World) : Bench := { b with rig := w.rig, places := [.occupied w.line] }

theorem operate_begun (steady : b.Steady line) {operation : Operation}
    (begins : b.begin operation = (b,.begun 0 call)) (entry : call.isEntry = true) :
    (b.operate operation).1 = b.settle (World.perform ⟨line,b.rig⟩ call) := by
  have completes := World.complete_perform steady.ready.toSettled entry
  simp only [operate,begins,steady.place,completes,writeBack,settle,steady.places]
  rfl

theorem perform_call (steady : b.Steady line) (calls : b.call? command = some call) :
    (b.perform command).1 = b.settle (World.perform ⟨line,b.rig⟩ call) := by
  cases command with
  | operate operation =>
      cases operation with
      | publish target device subFolder data =>
          cases target with
          | zero =>
              cases calls
              exact operate_begun steady (by simp only [begin,steady.place]) rfl
          | succ n => cases calls
      | terminate target =>
          cases target with
          | zero =>
              cases calls
              exact operate_begun steady (by simp only [begin,steady.place]) rfl
          | succ n => cases calls
      | message name topic payload =>
          obtain ⟨found,listens,rfl⟩ := Option.map_eq_some_iff.mp calls
          refine operate_begun steady ?_ rfl
          simp only [begin,listens,steady.own listens,steady.place]
      | error name fault =>
          obtain ⟨found,listens,rfl⟩ := Option.map_eq_some_iff.mp calls
          refine operate_begun steady ?_ rfl
          simp only [begin,listens,steady.own listens,steady.place]
  | _ => cases calls

theorem operate_idle (steady : b.Steady line) {operation : Operation}
    (calls : b.call? (.operate operation) = none) : (b.operate operation).1 = b := by
  cases operation with
  | publish target device subFolder data =>
      cases target with
      | zero => cases calls
      | succ n => simp only [operate,begin,steady.vacant]
  | terminate target =>
      cases target with
      | zero => cases calls
      | succ n => simp only [operate,begin,steady.vacant]
  | message name topic payload => simp only [operate,begin,Option.map_eq_none_iff.mp calls]
  | error name fault => simp only [operate,begin,Option.map_eq_none_iff.mp calls]

theorem perform_turn (steady : b.Steady line) (plain : command.isPlain = true)
    (calls : b.call? command = none) :
    (b.perform command).1 = { b with rig := command.turn b.rig } := by
  cases command with
  | operate operation => exact operate_idle steady calls
  | create | drop | hookConnect | hookSend | concurrently => cases plain
  | _ => rfl

theorem perform_switch (steady : b.Steady line) (plain : command.isPlain = true)
    (calls : b.call? command = none) :
    ∃ script rejectConnects rejectSends sinkClosed,
      (b.perform command).1 =
        { b with rig := { b.rig with script,rejectConnects,rejectSends,sinkClosed } } ∧
      (b.rig.sinkClosed = true → sinkClosed = true) := by
  let turned := command.turn b.rig
  refine ⟨turned.script,turned.rejectConnects,turned.rejectSends,turned.sinkClosed,?_,?_⟩
  · rw [perform_turn steady plain calls]
    cases command <;> rfl
  · intro shut
    cases command with
    | closeSink => rfl
    | _ => exact shut

theorem call?_message (calls : b.call? command = some call) : call.message? = command.message? := by
  cases command with
  | operate operation =>
      cases operation with
      | publish target device subFolder data =>
          cases target with
          | zero => cases calls; cases subFolder <;> rfl
          | succ n => cases calls
      | terminate target =>
          cases target with
          | zero => cases calls; rfl
          | succ n => cases calls
      | message name topic payload =>
          obtain ⟨found,_,rfl⟩ := Option.map_eq_some_iff.mp calls
          rfl
      | error name fault =>
          obtain ⟨found,_,rfl⟩ := Option.map_eq_some_iff.mp calls
          rfl
  | _ => cases calls

theorem silent_message (calls : b.call? command = none) : command.message? = none := by
  cases command with
  | operate operation =>
      cases operation with
      | publish target device subFolder data =>
          cases target with
          | zero => cases calls
          | succ n => rfl
      | _ => rfl
  | _ => rfl

-- What a command makes of a bench: what the journal gains, and what becomes of the message that
-- it forwards, if it does.
structure Follows (b later : Bench) (line next : Line) (message? : Option Message)
    (entries : List Entry) : Prop where
  steady : later.Steady next
  relay : next.relay = line.relay
  publishers : b.rig.publishers <+: later.rig.publishers
  journal : later.rig.journal = b.rig.journal ++ entries
  heard : ∀ device, later.rig.heard device = b.rig.heard device ++
    ((accepted message? entries).filter (·.device = device)).map Message.sent
  takes : later.rig.Takes → b.rig.Takes
  mirrored : later.rig.Takes → message?.isSome → entries.filterMap Entry.mirrored? =
    (accepted message? entries).map (·.bundle line.relay.registry)
  others : ∀ device, (∀ message, message? = some message → message.device ≠ device) →
    later.rig.publishersFor device = b.rig.publishersFor device
  torn : ∀ p ∈ later.rig.publishers, p.rejects = true → ∀ device topic payload,
    .published p.publisher device topic payload ∈ entries → next.state.pool.cached = []

theorem Follows.added {message? : Option Message} {entries : List Entry} {next : Line}
    (follows : b.Follows (b.perform command).1 line next message? entries) :
    b.added command = entries := by
  unfold Bench.added
  rw [follows.journal,List.drop_left]

theorem call_follows (steady : b.Steady line) (calls : b.call? command = some call) :
    ∃ entries, b.Follows (b.perform command).1 line (World.perform ⟨line,b.rig⟩ call).line
      command.message? entries := by
  obtain ⟨entries,handled⟩ := World.perform_handled steady.ready call
  rw [perform_call steady calls,← call?_message calls]
  have takes : (World.perform ⟨line,b.rig⟩ call).rig.Takes → b.rig.Takes := by
    unfold Rig.Takes
    rw [handled.onto.sink,handled.onto.shut]
    exact id
  exact ⟨entries,⟨rfl,handled.onto.number.trans steady.number,handled.ready⟩,handled.onto.relay,
    handled.onto.publishers,handled.onto.journal,handled.onto.heard,takes,
    fun open' => handled.mirrored (takes open'),handled.others,handled.torn⟩

theorem settle_steady (steady : b.Steady line) (call : Call) :
    (b.settle (World.perform ⟨line,b.rig⟩ call)).Steady (World.perform ⟨line,b.rig⟩ call).line := by
  obtain ⟨entries,handled⟩ := World.perform_handled steady.ready call
  exact ⟨rfl,handled.onto.number.trans steady.number,handled.ready⟩

theorem switch_follows (steady : b.Steady line) (plain : command.isPlain = true)
    (calls : b.call? command = none) :
    b.Follows (b.perform command).1 line line command.message? [] := by
  obtain ⟨script,rejectConnects,rejectSends,sinkClosed,same,shut⟩ :=
    perform_switch steady plain calls
  rw [same,silent_message calls]
  exact ⟨⟨steady.places,steady.number,
      steady.ready.vary _ _ script rejectConnects rejectSends sinkClosed⟩,rfl,
    List.prefix_rfl,(List.append_nil _).symm,fun device => (List.append_nil _).symm,
    fun takes still => takes ⟨still.1,shut still.2⟩,nofun,fun _ _ => rfl,nofun⟩

theorem perform_follows (steady : b.Steady line) (plain : command.isPlain = true) :
    ∃ next entries, b.Follows (b.perform command).1 line next command.message? entries := by
  cases calls : b.call? command with
  | some call => exact ⟨_,call_follows steady calls⟩
  | none => exact ⟨line,[],switch_follows steady plain calls⟩

theorem sequential_steady (sequential : Sequential b) : ∃ line, b.Steady line := by
  induction sequential with
  | fresh fresh => exact ⟨_,fresh.steady⟩
  | perform _ plain ih =>
      obtain ⟨line,steady⟩ := ih
      obtain ⟨next,entries,follows⟩ := perform_follows steady plain
      exact ⟨next,follows.steady⟩

def deskLine : Line where
  number := 0
  relay := { registry := "registry", route := ⟨"project","region"⟩, devices := ["device"] }
  handle := 0

def desk (rejectSends : Bool) : Bench where
  settings := {}
  rig :=
    { backend := .recording (Dict.ofPairs [("device",
        Dict.ofPairs [(Device.algorithmKey,"RS256"),(Device.bytesKey,"AQ==")])]) false
      rejectSends }
  places := [.occupied deskLine]

theorem desk_fresh (rejectSends : Bool) : (desk rejectSends).Fresh deskLine :=
  ⟨rfl,rfl,rfl,⟨rfl,rfl,rfl,rfl,nofun⟩⟩

def pairLine : Line where
  number := 0
  relay := { registry := "registry", route := ⟨"project","region"⟩, devices := ["one","two"] }
  handle := 0

def pairDesk : Bench where
  settings := {}
  rig :=
    { backend := .recording (Dict.ofPairs [
        ("one",Dict.ofPairs [(Device.algorithmKey,"RS256"),(Device.bytesKey,"AQ==")]),
        ("two",Dict.ofPairs [(Device.algorithmKey,"ES256"),(Device.bytesKey,"Ag==")])]) false }
  places := [.occupied pairLine]

theorem pairDesk_fresh : pairDesk.Fresh pairLine := ⟨rfl,rfl,rfl,⟨rfl,rfl,rfl,rfl,nofun⟩⟩

theorem performs_calls (steady : b.Steady line) (calls : List (Command × Call))
    (makes : ∀ entry ∈ calls, ∀ b : Bench, b.call? entry.1 = some entry.2) :
    b.performs (calls.map Prod.fst) =
      b.settle (calls.foldl (fun w entry => w.perform entry.2) ⟨line,b.rig⟩) := by
  induction calls generalizing b line with
  | nil =>
      have same : b.settle ⟨line,b.rig⟩ = b := by rw [settle,← steady.places]
      exact same.symm
  | cons entry rest ih =>
      obtain ⟨first,others⟩ := List.forall_mem_cons.mp makes
      rw [List.map_cons,performs,List.foldl_cons,perform_call steady (first b)]
      exact ih (settle_steady steady entry.2) others

def posts (messages : List Message) : List Command :=
  messages.map fun message =>
    .operate (.publish 0 message.device (some message.subFolder) message.data)

theorem performs_posts (steady : b.Steady line) (messages : List Message) :
    b.performs (posts messages) = b.settle (messages.foldl (fun w message =>
      w.perform (.publish message.device (some message.subFolder) message.data)) ⟨line,b.rig⟩) := by
  have called := performs_calls steady (messages.map fun message =>
    (.operate (.publish 0 message.device (some message.subFolder) message.data),
      .publish message.device (some message.subFolder) message.data)) (by simp [call?])
  rwa [List.map_map,List.foldl_map] at called

theorem performs_sequential (sequential : Sequential b) (commands : List Command)
    (plain : ∀ command ∈ commands, command.isPlain = true) : Sequential (b.performs commands) := by
  induction commands generalizing b with
  | nil => exact sequential
  | cons command rest ih =>
      exact ih (.perform sequential (plain command (.head _)))
        fun other member => plain other (.tail _ member)

theorem posts_plain (messages : List Message) :
    ∀ command ∈ posts messages, command.isPlain = true := by
  simp [posts,Command.isPlain]

end Bench
end RegistryRelay
