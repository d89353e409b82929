import RegistryRelay.Proofs.Relay.Course

namespace RegistryRelay

inductive Outcome where
  | noSubFolder
  | outOfScope
  | notCreated
  | stale
  | acquired (publisher : PublisherId)
  | ignored
  | invalidTopic
  | notUpdated
  | updated (device : String)
deriving DecidableEq, Repr

-- The outcome is read off the step that decides it. A publisher is acquired by the step that
-- goes on to the send, whatever comes of that.
def Record.outcome? (record : Record) : Option Outcome :=
  match record.before,record.reply,record.after with
  | .publish _ none _,_,_ => some .noSubFolder
  | .publish _ (some _) _,_,.finished => some .outOfScope
  | .fetching _ _,_,.finished => some .notCreated
  | .connecting _ _ _,_,.finished => some .notCreated
  | .acquiring _ _,_,.finished => some .stale
  | .acquiring _ _,_,.sending _ publisher => some (.acquired publisher)
  | .inbound topic _,_,.finished => some (if Topic.isConfig topic then .invalidTopic else .ignored)
  | .updating device _,some (.updated none),_ => some (.updated device)
  | .updating _ _,some (.updated (some _)),_ => some .notUpdated
  | _,_,_ => none

def Act.isTraffic : Act → Bool
  | .ask (.send _ _ _ _) => true
  | .mirror _ => true
  | _ => false

def Act.mirror? : Act → Option Bundle
  | .mirror bundle => some bundle
  | _ => none

def Message.send (m : Message) (publisher : PublisherId) : Act :=
  .ask (.send publisher m.device m.topic m.data)

def Call.tearsDown : Call → Bool
  | .terminate .starting none => true
  | .fault _ _ => true
  | _ => false

namespace Relay

def outcomes (records : List Record) : List Outcome := records.filterMap Record.outcome?

def traffic (records : List Record) : List Act :=
  (records.flatMap Record.acts).filter Act.isTraffic

theorem filterMap_concat {β : Type} (view : Record → Option β) (records : List Record)
    (record : Record) :
    (records ++ [record]).filterMap view = records.filterMap view ++ (view record).toList := by
  rw [List.filterMap_append,List.filterMap_cons,List.filterMap_nil]
  cases view record <;> rfl

theorem outcomes_concat (records : List Record) (record : Record) :
    outcomes (records ++ [record]) = outcomes records ++ record.outcome?.toList :=
  filterMap_concat Record.outcome? records record

theorem traffic_concat (records : List Record) (record : Record) :
    traffic (records ++ [record]) = traffic records ++ record.acts.filter Act.isTraffic := by
  simp [traffic]

inductive Ending (relay : Relay) : Call → List Outcome → List Act → Prop where
  | noSubFolder : Ending relay (.publish device none data) [.noSubFolder] []
  | outOfScope (unknown : relay.devices.contains device = false) :
      Ending relay (.publish device (some subFolder) data) [.outOfScope] []
  | notCreated (known : relay.devices.contains device = true) :
      Ending relay (.publish device (some subFolder) data) [.notCreated] []
  | stale (known : relay.devices.contains device = true) :
      Ending relay (.publish device (some subFolder) data) [.stale] []
  | acquired (known : relay.devices.contains device = true) :
      Ending relay (.publish device (some subFolder) data) [.acquired publisher]
        [.ask (.send publisher device (Topic.outbound subFolder) data),
          .mirror (.routed relay.registry device subFolder data)]
  | ignored (other : Topic.isConfig topic = false) :
      Ending relay (.inbound topic payload) [.ignored] []
  | invalidTopic (config : Topic.isConfig topic = true)
      (nobody : Topic.configDevice? topic = none) :
      Ending relay (.inbound topic payload) [.invalidTopic] []
  | notUpdated (config : Topic.isConfig topic = true)
      (device? : Topic.configDevice? topic = some device) :
      Ending relay (.inbound topic payload) [.notUpdated] []
  | updated (config : Topic.isConfig topic = true)
      (device? : Topic.configDevice? topic = some device) :
      Ending relay (.inbound topic payload) [.updated device]
        [.mirror (.routed relay.registry device Topic.configFolder payload)]
  | teardown (tears : call.tearsDown = true) : Ending relay call [] []

def Carries (relay : Relay) (entry : Call) (message : Message) : Prop :=
  entry = .publish message.device (some message.subFolder) message.data ∧
    relay.devices.contains message.device = true

def Pushes (entry : Call) (device payload : String) : Prop := ∃ topic,
  entry = .inbound topic payload ∧ Topic.isConfig topic = true ∧
    Topic.configDevice? topic = some device

-- Where a call stands, with its outcome and its traffic so far.
inductive Account (relay : Relay) (entry : Call) : Call → List Outcome → List Act → Prop where
  | publish (same : entry = .publish device subFolder data) :
      Account relay entry (.publish device subFolder data) [] []
  | acquiring (carries : Carries relay entry message) :
      Account relay entry (.acquiring message progress) [] []
  | fetching (carries : Carries relay entry message) :
      Account relay entry (.fetching message slot) [] []
  | connecting (carries : Carries relay entry message) :
      Account relay entry (.connecting message slot bound) [] []
  | sending (carries : Carries relay entry message) :
      Account relay entry (.sending message publisher) [.acquired publisher]
        [message.send publisher]
  | recovering (carries : Carries relay entry message) :
      Account relay entry (.terminate progress (some message)) [.acquired publisher]
        [message.send publisher]
  | mirroring (carries : Carries relay entry message) :
      Account relay entry (.mirroring message) [.acquired publisher] [message.send publisher]
  | inbound (same : entry = .inbound topic payload) :
      Account relay entry (.inbound topic payload) [] []
  | updating (pushes : Pushes entry device payload) :
      Account relay entry (.updating device payload) [] []
  | updated (pushes : Pushes entry device payload) :
      Account relay entry (.mirroring ⟨device,Topic.configFolder,payload⟩) [.updated device] []
  | fault (tears : entry.tearsDown = true) : Account relay entry (.fault device fault) [] []
  | tearing (tears : entry.tearsDown = true) : Account relay entry (.terminate progress none) [] []
  | finished (ending : Ending relay entry came went) : Account relay entry .finished came went

variable {relay : Relay} {s t : State} {entry call after : Call} {reply : Option Reply}
  {acts : List Act} {came : List Outcome} {went : List Act}

theorem entry_account (isEntry : entry.isEntry = true) : Account relay entry entry [] [] := by
  cases entry with
  | publish => exact .publish rfl
  | inbound => exact .inbound rfl
  | fault => exact .fault rfl
  | terminate progress message =>
      match progress,message with
      | .starting,none => exact .tearing rfl
      | .starting,some _ => cases isEntry
      | .closing _ _,_ => cases isEntry
  | _ => cases isEntry

theorem Account.step (index : Nat) (account : Account relay entry call came went)
    (taken : Transition relay s reply call t after acts) :
    Account relay entry after
      (came ++ (Record.outcome? ⟨index,reply,call,after,acts⟩).toList)
      (went ++ acts.filter Act.isTraffic) := by
  cases account with
  | publish same =>
      subst same
      cases taken with
      | unrouted => exact .finished .noSubFolder
      | attempt known => exact .acquiring ⟨rfl,known⟩
      | ignoreAgain unknown => exact .finished (.outOfScope unknown)
      | ignore unknown => exact .finished (.outOfScope unknown)
  | acquiring carries =>
      cases taken with
      | look | join => exact .acquiring carries
      | start => exact .fetching carries
      | deliver => exact .sending carries
      | stale =>
          obtain ⟨rfl,known⟩ := carries
          exact .finished (.stale known)
  | fetching carries =>
      cases taken with
      | fetched => exact .connecting carries
      | notFetched | noKey =>
          obtain ⟨rfl,known⟩ := carries
          exact .finished (.notCreated known)
  | connecting carries =>
      cases taken with
      | connected => exact .acquiring carries
      | notConnected =>
          obtain ⟨rfl,known⟩ := carries
          exact .finished (.notCreated known)
  | sending carries =>
      cases taken with
      | sent => exact .mirroring carries
      | notSent => exact .recovering carries
  | recovering carries =>
      cases taken with
      | drain | shut | pass => exact .recovering carries
      | recovered => exact .mirroring carries
  | mirroring carries =>
      obtain ⟨rfl,known⟩ := carries
      cases taken
      exact .finished (.acquired known)
  | inbound same =>
      subst same
      cases taken with
      | notConfig other =>
          simp only [Record.outcome?,other]
          exact .finished (.ignored other)
      | invalid config nobody =>
          simp only [Record.outcome?,config]
          exact .finished (.invalidTopic config nobody)
      | push config device? => exact .updating ⟨_,rfl,config,device?⟩
  | updating pushes =>
      cases taken with
      | updated => exact .updated pushes
      | notUpdated =>
          obtain ⟨topic,rfl,config,device?⟩ := pushes
          exact .finished (.notUpdated config device?)
  | updated pushes =>
      obtain ⟨topic,rfl,config,device?⟩ := pushes
      cases taken
      exact .finished (.updated config device?)
  | fault tears => cases taken; exact .tearing tears
  | tearing tears =>
      cases taken with
      | drain | shut | pass => exact .tearing tears
      | terminated => exact .finished (.teardown tears)
  | finished => cases taken

theorem Course.account {records : List Record} {now : Call} (isEntry : entry.isEntry = true)
    (course : Course relay entry records now) :
    Account relay entry now (outcomes records) (traffic records) := by
  induction course with
  | start => exact entry_account isEntry
  | step course taken ih =>
      rw [outcomes_concat,traffic_concat]
      exact ih.step _ taken

def due? (relay : Relay) : Call → List Outcome → Option Bundle
  | .publish device (some subFolder) data,[.acquired _] =>
      some (.routed relay.registry device subFolder data)
  | .inbound _ payload,[.updated device] =>
      some (.routed relay.registry device Topic.configFolder payload)
  | _,_ => none

theorem Ending.mirrors (ending : Ending relay entry came went) :
    went.filterMap Act.mirror? = (due? relay entry came).toList := by
  cases ending with
  | teardown tears =>
      cases entry with
      | publish | inbound => cases tears
      | _ => rfl
  | _ => rfl

theorem mirror?_traffic (records : List Record) :
    (records.flatMap Record.acts).filterMap Act.mirror? =
      (traffic records).filterMap Act.mirror? := by
  rw [traffic,List.filterMap_filter]
  refine List.filterMap_congr fun act _ => ?_
  cases act with
  | ask request => cases request <;> rfl
  | _ => rfl

theorem System.mirrored_eq (s : System) :
    s.mirrored = (s.history.flatMap Record.acts).filterMap Act.mirror? := by
  refine List.filterMap_congr fun act _ => ?_
  cases act <;> rfl

theorem run_ending {moves : List Move} {s : System} (ran : System.run relay {} moves = some s)
    (quiet : s.quiet) {index : Nat} (begun : (made moves)[index]? = some entry) :
    Ending relay entry (outcomes (s.trace index)) (traffic (s.trace index)) := by
  obtain ⟨isEntry,course⟩ := run_course ran quiet begun
  cases course.account isEntry with
  | finished ending => exact ending

theorem attribute?_routed (registry device subFolder payload name : String) :
    (Bundle.routed registry device subFolder payload).attribute? name =
      if name = "subFolder" then some subFolder
      else if name = "deviceId" then some device
      else if name = "deviceRegistryId" then some registry
      else none := by
  simp [Bundle.attribute?,Bundle.routed,Dict.ofPairs,Bundle.subFolderAttribute,
    Bundle.deviceAttribute,Bundle.registryAttribute]

-- What the mirror got, whatever the order of the steps: one bundle for each publish call that
-- acquired a publisher and for each config that was set, and nothing else. Each call ended in
-- one of the ways of `Ending`, with its one send ahead of its bundle.
theorem mirrored_exactly_once {moves : List Move} {s : System}
    (ran : System.run relay {} moves = some s) (quiet : s.quiet) :
    s.mirrored.Perm ((List.range (made moves).length).filterMap fun index =>
      (made moves)[index]?.bind (due? relay · (outcomes (s.trace index)))) ∧
    (∀ index entry, (made moves)[index]? = some entry →
      Ending relay entry (outcomes (s.trace index)) (traffic (s.trace index))) ∧
    (∀ registry device subFolder payload,
      (Bundle.routed registry device subFolder payload).payload = payload ∧
      ∀ name, (Bundle.routed registry device subFolder payload).attribute? name =
        if name = "subFolder" then some subFolder
        else if name = "deviceId" then some device
        else if name = "deviceRegistryId" then some registry
        else none) := by
  have ledger := (System.run_onward ran rfl).ledger
  refine ⟨?_,fun index entry begun => run_ending ran quiet begun,?_⟩
  · have whole := System.history_perm ledger.covered
    have bundles := (whole.flatMap_right Record.acts).filterMap Act.mirror?
    rw [← s.mirrored_eq,List.flatMap_assoc,ledger.length,List.filterMap_flatMap] at bundles
    rw [List.filterMap_eq_flatMap_toList]
    refine bundles.trans (.of_eq (List.flatMap_congr fun index member => ?_))
    have inside := List.getElem?_eq_getElem (List.mem_range.mp member)
    rw [inside,Option.bind_some,← (run_ending ran quiet inside).mirrors]
    exact mirror?_traffic _
  · intro registry device subFolder payload
    exact ⟨rfl,attribute?_routed registry device subFolder payload⟩

-- A send fails and tears down while a second call waits for the same publisher, and a config
-- comes in meanwhile.
def crossing : List Move :=
  [.begin (.publish "a" (some "f") "x"),.begin (.publish "a" (some "state") "y"),
    .begin (.publish "a" none "z"),.begin (.inbound "/devices/a/config" "c"),
    .advance 0 none,.advance 0 none,.advance 0 none,.advance 1 none,.advance 1 none,
    .advance 0 (some (.fetched (.ok .sample))),.advance 0 (some (.connected (.ok 7))),
    .advance 0 none,.advance 0 (some (.sent (some (.transport "lost")))),.advance 0 none,
    .advance 1 none,.advance 1 none,.advance 2 none,.advance 3 none,
    .advance 3 (some (.updated none)),.advance 3 none,.advance 0 none,.advance 0 none,
    .advance 0 none]

theorem mirrored_exactly_once_crossing : ∃ s, System.run .sample {} crossing = some s ∧
    s.mirrored = [.routed "reg" "a" "config" "c",.routed "reg" "a" "f" "x"] ∧
    Ending .sample (.publish "a" (some "f") "x") [.acquired 7]
      [.ask (.send 7 "a" "events/f" "x"),.mirror (.routed "reg" "a" "f" "x")] ∧
    Ending .sample (.publish "a" (some "state") "y") [.stale] [] := by
  obtain ⟨s,ran,quiet,mirrored,first,went,second,nothing⟩ : ∃ s,
      System.run .sample {} crossing = some s ∧ s.quiet ∧
      s.mirrored = [.routed "reg" "a" "config" "c",.routed "reg" "a" "f" "x"] ∧
      outcomes (s.trace 0) = [.acquired 7] ∧
      traffic (s.trace 0) =
        [.ask (.send 7 "a" "events/f" "x"),.mirror (.routed "reg" "a" "f" "x")] ∧
      outcomes (s.trace 1) = [.stale] ∧ traffic (s.trace 1) = [] :=
    ⟨_,rfl,by simp [System.quiet],rfl,rfl,rfl,rfl,rfl⟩
  have endings := (mirrored_exactly_once ran quiet).2.1
  have one := endings 0 _ rfl
  have two := endings 1 _ rfl
  rw [first,went] at one
  rw [second,nothing] at two
  exact ⟨s,ran,mirrored,one,two⟩

end Relay
end RegistryRelay
