import RegistryRelay.Proofs.Bench.Signals
import RegistryRelay.Proofs.Bench.Twins

namespace RegistryRelay
open Line (World)

def Operation.payload? : Operation → Option String
  | .publish _ _ _ data => some data
  | .message _ _ data => some data
  | _ => none

def Command.payload? : Command → Option String
  | .operate operation => operation.payload?
  | _ => none

def Command.arranges : Command → Bool
  | .operate _ | .hookConnect _ | .hookSend _ | .concurrently _ => false
  | _ => true

inductive Operation.Twin : Operation → Operation → Prop where
  | publish : Operation.Twin (.publish target device subFolder data)
      (.publish target device subFolder data')
  | terminate : Operation.Twin (.terminate target) (.terminate target)
  | message : Operation.Twin (.message listener topic data) (.message listener topic data')
  | error : Operation.Twin (.error listener fault) (.error listener fault)

inductive Command.Twin : Command → Command → Prop where
  | operate (same : Operation.Twin operation operation') :
      Command.Twin (.operate operation) (.operate operation')
  | arrange (arranges : command.arranges = true) : Command.Twin command command

-- A text on one side and one on the other, each passed on by the command of its side.
def Own (command command' : Command) (data data' : String) : Prop :=
  command.payload? = some data ∧ command'.payload? = some data'

namespace Rig

variable {Paired : String → String → Prop} {past past' : List Entry}

def Agrees (Paired : String → String → Prop) (past past' : List Entry) (action : StateM Rig α) :
    Prop := ∀ rig rig', Twin Paired past past' rig rig' →
  (action.run rig).1 = (action.run rig').1 ∧
    Twin Paired past past' (action.run rig).2 (action.run rig').2

theorem agrees_bind {action : StateM Rig α} {next : α → StateM Rig β}
    (first : Agrees Paired past past' action) (rest : ∀ a, Agrees Paired past past' (next a)) :
    Agrees Paired past past' (action >>= next) := by
  intro rig rig' twin
  obtain ⟨same,later⟩ := first rig rig' twin
  have runs (rig : Rig) :
      (action >>= next).run rig = (next (action.run rig).1).run (action.run rig).2 := rfl
  rw [runs,runs,← same]
  exact rest _ _ _ later

theorem agrees_note (event : Event) :
    Agrees Paired past past' (modify (·.record (.note event))) :=
  fun _ _ twin => ⟨rfl,twin.record .note⟩

theorem agrees_create (settings : SettingsMap) (registry project : String) :
    Agrees Paired past past' (Relay.create (m := StateM Rig)
      (fun event => modify (·.record (.note event)))
      (fun binding rig => rig.connectDirectory binding)
      (fun handle rig => rig.listDevices handle) settings registry project) :=
  Relay.create_closed (P := Agrees Paired past past') agrees_bind (fun _ _ _ twin => ⟨rfl,twin⟩)
    agrees_note (fun binding _ _ twin => twin.connectDirectory binding)
    (fun handle _ _ twin => twin.listDevices handle) settings registry project

end Rig

def Place.outline : Place → Place
  | .occupied line => .occupied line.outline
  | place => place

namespace Bench

structure Alike (b b' : Bench) : Prop where
  settings : b.settings = b'.settings
  places : b.places.map Place.outline = b'.places.map Place.outline
  rig : b.rig.Alike b'.rig

structure Twin (Paired : String → String → Prop) (past past' : List Entry) (b b' : Bench) : Prop
    where
  settings : b.settings = b'.settings
  places : b.places.map Place.outline = b'.places.map Place.outline
  rig : Rig.Twin Paired past past' b.rig b'.rig

inductive Placed : Place → Place → Prop where
  | vacant : Placed .vacant .vacant
  | disabled : Placed .disabled .disabled
  | occupied (same : line.outline = line'.outline) : Placed (.occupied line) (.occupied line')

inductive Begun (Paired : String → String → Prop) (past past' : List Entry) :
    Bench × Start → Bench × Start → Prop where
  | answered (twin : Twin Paired past past' b b') :
      Begun Paired past past' (b,.answered answer) (b',.answered answer)
  | begun (twin : Twin Paired past past' b b') (calls : Call.Twin Paired call call') :
      Begun Paired past past' (b,.begun target call) (b',.begun target call')

variable {Paired : String → String → Prop} {past past' : List Entry} {b b' : Bench}
  {command command' : Command} {commands commands' : List Command}

theorem Alike.start (alike : b.Alike b') : Twin Paired b.rig.journal b'.rig.journal b b' :=
  ⟨alike.settings,alike.places,alike.rig.start⟩

-- Everything that a command does and asks for by way of a relay, or of a listener whose relay is
-- gone.
def acts (b : Bench) : Command → List Act
  | .operate operation =>
      match b.begin operation with
      | (_,.answered _) => (b.late? operation).toList.map .note
      | (b,.begun target call) =>
          match b.place target with
          | .occupied line => World.completeActs ⟨line,b.rig⟩ call
          | _ => []
  | _ => []

theorem acts_arranges (arranges : command.arranges = true) : b.acts command = [] := by
  cases command with
  | operate operation => cases arranges
  | _ => rfl

section
variable (twin : Twin Paired past past' b b')
include twin

theorem Twin.place (target : Nat) : Placed (b.place target) (b'.place target) := by
  have found (b : Bench) : (b.place target).outline =
      ((b.places.map Place.outline)[target]?).getD .vacant := by
    rw [List.getElem?_map,Bench.place]
    cases b.places[target]? <;> rfl
  have same : (b.place target).outline = (b'.place target).outline := by
    rw [found,found,twin.places]
  generalize b.place target = here at same ⊢
  generalize b'.place target = there at same ⊢
  cases here <;> cases there <;> first | contradiction | constructor
  exact Place.occupied.inj same

theorem Twin.listener (name : ListenerName) : b.listener? name = b'.listener? name := by
  have attempts : b.rig.attempts = b'.rig.attempts := twin.rig.field Rig.attempts fun _ => rfl
  have latest : b.rig.latest = b'.rig.latest := twin.rig.field Rig.latest fun _ => rfl
  cases name with
  | attempt number => rw [listener?,attempts,listener?]
  | device id => rw [listener?,attempts,latest,listener?]

theorem Twin.late {operation operation' : Operation} (same : Operation.Twin operation operation') :
    b.late? operation = b'.late? operation' := by
  cases same with
  | publish | terminate => rfl
  | message | error => rw [late?,late?,twin.listener]

theorem Twin.begin {operation operation' : Operation} (same : Operation.Twin operation operation')
    (payloads : ∀ data data', operation.payload? = some data → operation'.payload? = some data' →
      Paired data data') :
    Begun Paired past past' (b.begin operation) (b'.begin operation') := by
  cases same with
  | @publish target =>
      have placed := twin.place target
      simp only [Bench.begin]
      generalize b.place target = here at placed ⊢
      generalize b'.place target = there at placed ⊢
      cases placed with
      | vacant | disabled => exact .answered twin
      | occupied => exact .begun twin (.publish (payloads _ _ rfl rfl))
  | @terminate target =>
      have placed := twin.place target
      simp only [Bench.begin]
      generalize b.place target = here at placed ⊢
      generalize b'.place target = there at placed ⊢
      cases placed with
      | vacant | disabled => exact .answered twin
      | occupied => exact .begun twin .tearing
  | message =>
      simp only [Bench.begin,← twin.listener]
      split
      · exact .answered twin
      · rename_i listener _
        have placed := twin.place listener.relay
        generalize b.place listener.relay = here at placed ⊢
        generalize b'.place listener.relay = there at placed ⊢
        cases placed with
        | vacant | disabled => exact .answered ⟨twin.settings,twin.places,twin.rig.record .note⟩
        | occupied => exact .begun twin (.inbound (payloads _ _ rfl rfl))
  | error =>
      simp only [Bench.begin,← twin.listener]
      split
      · exact .answered twin
      · rename_i listener _
        have placed := twin.place listener.relay
        generalize b.place listener.relay = here at placed ⊢
        generalize b'.place listener.relay = there at placed ⊢
        cases placed with
        | vacant | disabled => exact .answered ⟨twin.settings,twin.places,twin.rig.record .note⟩
        | occupied => exact .begun twin .fault

theorem Twin.operate {operation operation' : Operation} (same : Operation.Twin operation operation')
    (payloads : ∀ data data', operation.payload? = some data → operation'.payload? = some data' →
      Paired data data') :
    (b.operate operation).2 = (b'.operate operation').2 ∧
    Twin Paired past past' (b.operate operation).1 (b'.operate operation').1 ∧
    Act.Matches Paired (b.acts (.operate operation)) (b'.acts (.operate operation')) := by
  have begun := twin.begin same payloads
  have late : Act.Matches Paired ((b.late? operation).toList.map .note)
      ((b'.late? operation').toList.map .note) := by
    rw [← twin.late same]
    cases b.late? operation with
    | none => exact .nil
    | some event => exact .cons .note .nil
  rw [Bench.operate,Bench.operate,Bench.acts,Bench.acts]
  generalize b.begin operation = here at begun ⊢
  generalize b'.begin operation' = there at begun ⊢
  cases begun with
  | answered twin => exact ⟨rfl,twin,late⟩
  | @begun now now' _ _ target twin calls =>
      have placed := twin.place target
      simp only
      generalize now.place target = place at placed ⊢
      generalize now'.place target = place' at placed ⊢
      cases placed with
      | vacant | disabled => exact ⟨rfl,twin,.nil⟩
      | @occupied line line' same =>
          have worlds : World.Twin Paired past past' ⟨line,now.rig⟩ ⟨line',now'.rig⟩ :=
            ⟨same,twin.rig⟩
          obtain ⟨world,acts⟩ := worlds.complete calls
          refine ⟨rfl,⟨twin.settings,?_,world.rig⟩,acts⟩
          simp only [writeBack,List.map_set,twin.places,Place.outline,world.line]

theorem Twin.create (registry project : String) (settings : SettingsMap) :
    (b.create registry project settings).2 = (b'.create registry project settings).2 ∧
    Twin Paired past past' (b.create registry project settings).1
      (b'.create registry project settings).1 := by
  obtain ⟨result,rig⟩ := Rig.agrees_create settings registry project _ _ twin.rig
  have number : b.places.length = b'.places.length := by
    have same := congrArg List.length twin.places
    rwa [List.length_map,List.length_map] at same
  unfold Bench.create
  simp only
  generalize StateT.run _ b.rig = here at result rig ⊢
  generalize StateT.run _ b'.rig = there at result rig ⊢
  obtain ⟨answer,rig₁⟩ := here
  obtain ⟨answer',rig₂⟩ := there
  cases result
  simp only [← number]
  split
  all_goals
    exact ⟨rfl,twin.settings,by simp [twin.places,Place.outline,Line.outline,Relay.outline],rig⟩

theorem Twin.switch (script : Script → Script) (connects sends shut : Bool → Bool) :
    Twin Paired past past'
      { b with rig := { b.rig with
          script := script b.rig.script
          rejectConnects := connects b.rig.rejectConnects
          rejectSends := sends b.rig.rejectSends
          sinkClosed := shut b.rig.sinkClosed } }
      { b' with rig := { b'.rig with
          script := script b'.rig.script
          rejectConnects := connects b'.rig.rejectConnects
          rejectSends := sends b'.rig.rejectSends
          sinkClosed := shut b'.rig.sinkClosed } } :=
  ⟨twin.settings,twin.places,{ twin.rig with
    outlines := congrArg (fun rig : Rig => { rig with
        script := script rig.script
        rejectConnects := connects rig.rejectConnects
        rejectSends := sends rig.rejectSends
        sinkClosed := shut rig.sinkClosed })
      twin.rig.outlines }⟩

theorem Twin.arrange (arranges : command.arranges = true) :
    (b.perform command).2 = (b'.perform command).2 ∧
    Twin Paired past past' (b.perform command).1 (b'.perform command).1 := by
  cases command with
  | create registry project settings =>
      simp only [Bench.perform,← twin.settings]
      exact twin.create registry project _
  | drop target =>
      refine ⟨rfl,twin.settings,?_,twin.rig⟩
      simp only [Bench.perform,List.map_set,twin.places]
  | rejectConnects on => exact ⟨rfl,twin.switch id (fun _ => on) id id⟩
  | rejectSends on => exact ⟨rfl,twin.switch id id (fun _ => on) id⟩
  | failConnect fault => exact ⟨rfl,twin.switch (fun s => { s with connect := fault }) id id id⟩
  | failList fault => exact ⟨rfl,twin.switch (fun s => { s with list := fault }) id id id⟩
  | listing devices => exact ⟨rfl,twin.switch (fun s => { s with listing := devices }) id id id⟩
  | failFetch device fault =>
      exact ⟨rfl,twin.switch (fun s => { s with fetch := s.fetch.set device fault }) id id id⟩
  | failUpdate device fault =>
      exact ⟨rfl,twin.switch (fun s => { s with update := s.update.set device fault }) id id id⟩
  | deviceConfig registry device =>
      obtain ⟨devices,devices',rejects,here,there,_⟩ := twin.rig.backend
      refine ⟨?_,twin⟩
      simp only [Bench.perform,Bench.deviceConfig,here,there]
  | closeSink => exact ⟨rfl,twin.switch id id id (fun _ => true)⟩
  | _ => cases arranges

end

structure Deed where
  command : Command
  answer : Answer
  acts : List Act
  entries : List Entry
  log : List Logged

def Deed.events (deed : Deed) : List Event := deed.entries.filterMap Entry.event?

def shutEvents (served : PublisherKey × PublisherId) : List Event := [.publisherClosed served.1]

def shutLines (served : PublisherKey × PublisherId) : List Logged :=
  [.event (.publisherClosed served.1)]

-- Both sides answered the same. They did, and were seen to do, the same but for keys, and but for
-- the texts that the commands passed on; a teardown may close its publishers in another order.
structure Deed.Twin (deed deed' : Deed) : Prop where
  answer : deed.answer = deed'.answer
  acts : Act.Matches (Own deed.command deed'.command) deed.acts deed'.acts
  entries : Entry.Matches (Own deed.command deed'.command) deed.entries deed'.entries
  log : Reordered shutLines (Logged.Twin (Own deed.command deed'.command)) deed.log deed'.log

theorem Deed.Twin.events {deed deed' : Deed} (same : deed.Twin deed') :
    Reordered shutEvents Eq deed.events deed'.events := by
  rw [Deed.events,Deed.events,List.filterMap_eq_flatMap_toList,List.filterMap_eq_flatMap_toList]
  refine same.entries.flatMap (fun one other alike => ?_) (fun _ => rfl) fun _ => rfl
  cases alike with
  | note => exact .cons rfl .nil
  | _ => exact .nil

theorem events_twin {deeds deeds' : List Deed} (same : List.Forall₂ Deed.Twin deeds deeds') :
    Reordered shutEvents Eq (deeds.flatMap Deed.events) (deeds'.flatMap Deed.events) := by
  induction same with
  | nil => exact .nil
  | cons first _ ih =>
      rw [List.flatMap_cons,List.flatMap_cons]
      exact first.events.append ih

def deed (b : Bench) (command : Command) : Deed :=
  ⟨command,(b.perform command).2,b.acts command,b.added command,
    (b.added command).flatMap b.rig.logs⟩

def deeds (b : Bench) : List Command → List Deed
  | [] => []
  | command :: rest => b.deed command :: (b.perform command).1.deeds rest

theorem perform_twin (alike : b.Alike b') (same : Command.Twin command command') :
    (b.deed command).Twin (b'.deed command') ∧
    (b.perform command).1.Alike (b'.perform command').1 := by
  have start : Twin (Own command command') b.rig.journal b'.rig.journal b b' := alike.start
  have performed : (b.perform command).2 = (b'.perform command').2 ∧
      Twin (Own command command') b.rig.journal b'.rig.journal (b.perform command).1
        (b'.perform command').1 ∧
      Act.Matches (Own command command') (b.acts command) (b'.acts command') := by
    cases same with
    | operate same => exact start.operate same fun data data' own own' => ⟨own,own'⟩
    | arrange arranges =>
        obtain ⟨answer,later⟩ := start.arrange arranges
        rw [acts_arranges arranges,acts_arranges arranges]
        exact ⟨answer,later,.nil⟩
  obtain ⟨answer,later,acts⟩ := performed
  obtain ⟨added,added',here,there,entries⟩ := later.rig.journal
  have grown : b.added command = added := by rw [Bench.added,here,List.drop_left]
  have grown' : b'.added command' = added' := by rw [Bench.added,there,List.drop_left]
  refine ⟨⟨answer,acts,?_,?_⟩,later.settings,later.places,later.rig.toAlike⟩
  · rw [deed,deed,grown,grown']
    exact entries
  · rw [deed,deed,grown,grown']
    exact entries.flatMap (fun _ _ => start.rig.logs) (fun _ => rfl) fun _ => rfl

theorem performs_twin (alike : b.Alike b') (same : List.Forall₂ Command.Twin commands commands') :
    List.Forall₂ Deed.Twin (b.deeds commands) (b'.deeds commands') ∧
    (b.performs commands).Alike (b'.performs commands') := by
  induction same generalizing b b' with
  | nil => exact ⟨.nil,alike⟩
  | cons first _ ih =>
      obtain ⟨deed,later⟩ := perform_twin alike first
      obtain ⟨deeds,last⟩ := ih later
      exact ⟨.cons deed deeds,last⟩

-- The journal shows what relays and listeners did, in that order, among the answers they were given.
def Shows (b : Bench) (operation : Operation) : Prop :=
  (b.added (.operate operation)).filter Entry.acted =
    (b.acts (.operate operation)).flatMap b.rig.traces

theorem operate_shows (connects : b.rig.connectHooks = []) (sends : b.rig.sendHooks = [])
    (operation : Operation) : b.Shows operation := by
  have starts := b.begin_starts operation
  rw [Shows,Bench.added,Bench.acts,Bench.perform,Bench.operate]
  generalize b.begin operation = start at starts ⊢
  cases starts with
  | answered =>
      simp only [Rig.extend,List.drop_left]
      cases b.late? operation <;> rfl
  | @begun target line call placed =>
      obtain ⟨added,grown,done⟩ := (World.complete_acts (w := ⟨line,b.rig⟩) connects sends call).journal
      simp only [placed,writeBack,grown,List.drop_left]
      exact done

theorem secrets_confined (alike : b.Alike b') (same : List.Forall₂ Command.Twin commands commands') :
    List.Forall₂ Deed.Twin (b.deeds commands) (b'.deeds commands') ∧
    Reordered shutEvents Eq ((b.deeds commands).flatMap Deed.events)
      ((b'.deeds commands').flatMap Deed.events) ∧
    (b.performs commands).Alike (b'.performs commands') ∧
    ∀ n operation, (b.performs (commands.take n)).Shows operation ∧
      (b'.performs (commands'.take n)).Shows operation := by
  obtain ⟨deeds,last⟩ := performs_twin alike same
  refine ⟨deeds,events_twin deeds,last,fun n operation => ?_⟩
  have before := (performs_twin alike (List.forall₂_take n same)).2.rig
  have connects' := (before.field Rig.connectHooks fun _ => rfl).symm.trans before.connects
  have sends' := (before.field Rig.sendHooks fun _ => rfl).symm.trans before.sends
  exact ⟨operate_shows before.connects before.sends operation,
    operate_shows connects' sends' operation⟩

def twoDevices (algorithm bytes : String) : Dict (Dict String) :=
  let metadata := Dict.ofPairs [(Device.algorithmKey,algorithm),(Device.bytesKey,bytes)]
  Dict.ofPairs [("two",metadata),("one",metadata)]

def unmade (algorithm bytes : String) (order : DrainOrder) : Bench where
  settings := Dict.ofPairs [(Settings.targetKey "registry","project"),
    (Settings.regionKey "registry","region")]
  rig := { backend := .recording (twoDevices algorithm bytes) false }
  orders := fun _ => order

def madeLine (order : DrainOrder) (devices : List String) : Line where
  number := 0
  handle := 0
  relay := { registry := "registry", route := ⟨"project","region"⟩, devices, order }

def made (algorithm bytes : String) (order : DrainOrder) (devices : List String) : Bench :=
  let b := unmade algorithm bytes order
  { b with
    rig := b.rig.extend [.note (.createStart "registry"),
      .note (.createPushing "registry" "project" "region"),.bound ⟨"source","registry","region"⟩,
      .listed,.note (.devicesLoaded "registry" (renderDevices devices)),
      .note (.createOk "registry")]
    places := [.occupied (madeLine order devices)] }

theorem unmade_create (algorithm bytes : String) (order : DrainOrder) :
    (unmade algorithm bytes order).create "registry" "source"
        (unmade algorithm bytes order).settings =
      (made algorithm bytes order ["one","two"],
        .created "registry" (some ⟨"project","region"⟩) ["one","two"]) := by
  have sorted : ascendingSet ["one","two"] = ["one","two"] :=
    List.mergeSort_of_pairwise (by decide)
  have listed : ascendingSet (twoDevices algorithm bytes).names = ["one","two"] := sorted
  rw [← listed]
  rfl

def session (data : String) : List (Command × Call) :=
  [(.operate (.publish 0 "one" (some "state") data),.publish "one" (some "state") data),
    (.operate (.publish 0 "two" (some "state") data),.publish "two" (some "state") data),
    (.operate (.terminate 0),.terminating)]

def commanded (data : String) : List Command :=
  .create "registry" "source" none :: (session data).map Prod.fst

theorem performs_commanded (algorithm bytes : String) (order : DrainOrder) (data : String) :
    (unmade algorithm bytes order).performs (commanded data) =
      (made algorithm bytes order ["one","two"]).settle ((session data).foldl
        (fun w entry => w.perform entry.2)
        ⟨madeLine order ["one","two"],(made algorithm bytes order ["one","two"]).rig⟩) := by
  have created := unmade_create algorithm bytes order
  have unused : (unmade algorithm bytes order).rig.Unused := ⟨rfl,rfl,rfl,rfl,nofun⟩
  obtain ⟨line,fresh,_,_⟩ := create_fresh unused created
  have placed : line = madeLine order ["one","two"] :=
    (Place.occupied.inj (List.singleton_inj.mp fresh.places)).symm
  subst placed
  have performed : ((unmade algorithm bytes order).perform (.create "registry" "source" none)).1 =
      made algorithm bytes order ["one","two"] := congrArg Prod.fst created
  rw [commanded,performs,List.foldl_cons,performed]
  exact performs_calls fresh.steady (session data) (by simp [session,call?])

theorem keyed_twoDevices {algorithm bytes : String} {key : KeyMaterial}
    (material : ∀ device, Device.keyMaterial ⟨device,Dict.ofPairs
      [(Device.algorithmKey,algorithm),(Device.bytesKey,bytes)]⟩ = .ok key) :
    Keyed (twoDevices algorithm bytes) := by
  intro device found has
  simp only [twoDevices,Dict.ofPairs,List.foldl_cons,List.foldl_nil,Dict.get?_put] at has
  split at has
  · cases has
    exact ⟨key,material device⟩
  · split at has
    · cases has
      exact ⟨key,material device⟩
    · cases has

def turned : DrainOrder := ⟨List.reverse,fun _ => List.reverse_perm _⟩

theorem unmade_alike : (unmade "RS256" "AQ==" .inserted).Alike (unmade "ES256" "AQI=" turned) :=
  ⟨rfl,rfl,⟨_,_,_,rfl,rfl,rfl,keyed_twoDevices fun _ => rfl,keyed_twoDevices fun _ => rfl⟩,
    .nil,rfl,rfl,rfl⟩

theorem commanded_twin (one two : String) :
    List.Forall₂ Command.Twin (commanded one) (commanded two) :=
  .cons (.arrange rfl) (.cons (.operate .publish) (.cons (.operate .publish)
    (.cons (.operate .terminate) .nil)))

theorem secrets_confined_rekeyed :
    let here := unmade "RS256" "AQ==" .inserted
    let there := unmade "ES256" "AQI=" turned
    let b := here.performs (commanded "x")
    let b' := there.performs (commanded "y")
    here.Alike there ∧ List.Forall₂ Command.Twin (commanded "x") (commanded "y") ∧
    List.Forall₂ Deed.Twin (here.deeds (commanded "x")) (there.deeds (commanded "y")) ∧
    b.rig.messages 0 = [("one","state","x")] ∧ b'.rig.messages 0 = [("one","state","y")] ∧
    b.rig.publishers.map (·.binding.key) = [⟨"RS256",[1]⟩,⟨"RS256",[1]⟩] ∧
    b'.rig.publishers.map (·.binding.key) = [⟨"ES256",[1,2]⟩,⟨"ES256",[1,2]⟩] ∧
    b.rig.journal.filterMap Entry.closed? = [0,1] ∧
    b'.rig.journal.filterMap Entry.closed? = [1,0] := by
  intro here there b b'
  obtain ⟨deeds,_⟩ := secrets_confined unmade_alike (commanded_twin "x" "y")
  refine ⟨unmade_alike,commanded_twin "x" "y",deeds,?_⟩
  simp only [b,b',here,there,performs_commanded]
  decide

-- The two runs of the same operations are not seen to do the same in the same order, and the
-- mirrors' lines in the log show the texts.
theorem secrets_confined_unordered :
    let here := unmade "RS256" "AQ==" .inserted
    let there := unmade "ES256" "AQI=" turned
    let b := here.performs (commanded "x")
    let b' := there.performs (commanded "y")
    here.Alike there ∧ List.Forall₂ Command.Twin (commanded "x") (commanded "y") ∧
    b.rig.journal.filterMap Entry.event? ≠ b'.rig.journal.filterMap Entry.event? ∧
    .mirroring (.routed "registry" "one" "state" "x") ∈ b.rig.journal.flatMap b.rig.logs ∧
    .mirroring (.routed "registry" "one" "state" "x") ∉ b'.rig.journal.flatMap b'.rig.logs := by
  intro here there b b'
  refine ⟨unmade_alike,commanded_twin "x" "y",?_⟩
  simp only [b,b',here,there,performs_commanded]
  refine ⟨fun same => ?_,by decide⟩
  have first := congrArg (List.idxOf (.publisherClosed ⟨"project","registry","one"⟩)) same
  revert first
  decide

end Bench
end RegistryRelay
