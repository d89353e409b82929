import RegistryRelay.Directory
import RegistryRelay.Proofs.Relay.Closing
import RegistryRelay.Proofs.Relay.Confinement

namespace RegistryRelay

def Call.isInbound : Call → Bool
  | .inbound _ _ => true
  | _ => false

namespace Bundle

def configures (device : String) (b : Bundle) : Bool :=
  b.device? == some device && b.subFolder? == some Topic.configFolder

theorem configures_routed (registry owner subFolder payload device : String) :
    (routed registry owner subFolder payload).configures device =
      (decide (owner = device) && decide (subFolder = Topic.configFolder)) := by
  have device? : (routed registry owner subFolder payload).device? = some owner :=
    Relay.attribute?_routed _ _ _ _ _
  have subFolder? : (routed registry owner subFolder payload).subFolder? = some subFolder :=
    Relay.attribute?_routed _ _ _ _ _
  rw [configures,device?,subFolder?]
  rfl

def lastConfig? (device : String) (bundles : List Bundle) : Option String :=
  (bundles.filter (configures device)).getLast?.map Bundle.payload

theorem lastConfig?_concat (bundles : List Bundle) (registry owner payload device : String) :
    lastConfig? device (bundles ++ [routed registry owner Topic.configFolder payload]) =
      if device = owner then some payload else lastConfig? device bundles := by
  rw [lastConfig?,List.filter_append,List.filter_singleton,configures_routed]
  by_cases same : device = owner
  · subst same
    simp [routed]
  · simp [same,Ne.symm same,lastConfig?]

end Bundle

namespace FileDirectory

variable {d next : FileDirectory} {handle : Nat} {device payload : String} {fault : Fault}

def config? (d : FileDirectory) (handle : Nat) (device : String) : Option String :=
  (d.snapshot? handle).bind (·.config? device)

def answer? (d : FileDirectory) (handle : Nat) : Request → Option (Reply × FileDirectory)
  | .fetch device =>
      match d.snapshot? handle with
      | some s => some (.fetched (s.fetch device),d)
      | none => some (.fetched (.error (.deviceNotFound device)),d)
  | .update device payload =>
      match d.push handle device payload with
      | .ok next => some (.updated none,next)
      | .error fault => some (.updated (some fault),d)
  | _ => none

theorem connect_fresh {file : File} {binding : DirectoryBinding}
    (bound : d.connect file binding = .ok (handle,next)) (device : String) :
    next.config? handle device = none := by
  unfold connect at bound
  split at bound
  · cases bound
  · split at bound
    · cases bound
    · cases bound
      simp [config?,snapshot?,Snapshot.config?]

theorem push_config? (pushed : d.push handle device payload = .ok next) (other : String) :
    next.config? handle other = if other = device then some payload else d.config? handle other := by
  unfold push at pushed
  split at pushed
  · cases pushed
  · rename_i s found
    split at pushed
    · cases pushed
    · rename_i after accepted
      cases pushed
      obtain ⟨inside,_⟩ := List.getElem?_eq_some_iff.mp found
      rw [Snapshot.push] at accepted
      split at accepted
      · cases accepted
        rw [snapshot?] at found
        simp [config?,snapshot?,List.getElem?_set_self inside,found,Snapshot.config?]
      · cases accepted

end FileDirectory

namespace Relay

structure Filed where
  system : System := {}
  files : FileDirectory

namespace Filed

-- One caller at a time uses the relay. What it asks of its directory is answered by the files;
-- publishers answer as they like.
def advance (relay : Relay) (handle : Nat) (f : Filed) : Move → Option Filed
  | .begin call =>
      if f.system.calls.all (· matches .finished) then
        (f.system.advance relay (.begin call)).map fun system => { f with system }
      else none
  | .advance index reply =>
      match (f.system.calls[index]?.bind Call.request?).bind (f.files.answer? handle) with
      | some (answer,files) =>
          (f.system.advance relay (.advance index (some answer))).map fun system => ⟨system,files⟩
      | none => (f.system.advance relay (.advance index reply)).map fun system => { f with system }

def run (relay : Relay) (handle : Nat) (f : Filed) : List Move → Option Filed
  | [] => some f
  | move :: rest => (f.advance relay handle move).bind (run relay handle · rest)

def pushed (entries : List Call) (records : List Record) : List Bundle :=
  records.flatMap fun record =>
    if (entries[record.call]?).any Call.isInbound then record.acts.filterMap Act.mirror? else []

def owed (relay : Relay) (entry : Option Call) : Call → List Bundle
  | .mirroring message => if entry.any Call.isInbound then [message.bundle relay.registry] else []
  | _ => []

inductive Turn (handle : Nat) (files next : FileDirectory) : Call → Call → Prop where
  | set (configs : ∀ other, next.config? handle other =
        if other = device then some payload else files.config? handle other) :
      Turn handle files next (.updating device payload)
        (.mirroring ⟨device,Topic.configFolder,payload⟩)
  | stay (same : next = files)
      (refused : ∀ device payload, call = .updating device payload → after = .finished) :
      Turn handle files next call after

inductive Advance (relay : Relay) (handle : Nat) (f : Filed) : List Call → Filed → Prop where
  | begin (quiet : f.system.quiet) (entry : call.isEntry = true) :
      Advance relay handle f [call]
        { f with system := { f.system with calls := f.system.calls ++ [call] } }
  | take {files : FileDirectory} (here : f.system.calls[index]? = some call)
      (fresh : f.system.fresh reply = true)
      (taken : Transition relay f.system.state reply call state after acts)
      (turn : Turn handle f.files files call after) :
      Advance relay handle f [] ⟨f.system.log state ⟨index,reply,call,after,acts⟩,files⟩

variable {relay : Relay} {handle : Nat} {f next : Filed} {files : FileDirectory}
  {entries : List Call} {s t : State} {reply : Option Reply} {entry call after : Call}
  {acts : List Act} {came : List Outcome} {went : List Act}

theorem answered_turn {request : Request} {answer : Reply} (asked : call.request? = some request)
    (answers : f.files.answer? handle request = some (answer,files))
    (taken : Transition relay s (some answer) call t after acts) :
    Turn handle f.files files call after := by
  cases call with
  | updating device payload =>
      cases asked
      simp only [FileDirectory.answer?] at answers
      split at answers
      · rename_i pushed
        cases answers
        cases taken
        exact .set (FileDirectory.push_config? pushed)
      · cases answers
        cases taken
        exact .stay rfl fun _ _ _ => rfl
  | fetching message slot =>
      cases asked
      simp only [FileDirectory.answer?] at answers
      split at answers <;> (cases answers; exact .stay rfl (by simp))
  | connecting | sending => cases asked; cases answers
  | _ => cases asked

theorem advance_sound {move : Move} (advanced : f.advance relay handle move = some next) :
    Advance relay handle f (made [move]) next := by
  cases move with
  | begin call =>
      simp only [advance] at advanced
      split at advanced
      · rename_i idle
        obtain ⟨system,moved,rfl⟩ := Option.map_eq_some_iff.mp advanced
        have quiet : f.system.quiet := by
          intro found member
          have finished := List.all_eq_true.mp idle found member
          split at finished
          · rfl
          · cases finished
        cases System.advance_sound moved with
        | begin entry => exact .begin quiet entry
      · cases advanced
  | advance index reply =>
      simp only [advance] at advanced
      split at advanced
      · rename_i answer files found
        obtain ⟨system,moved,rfl⟩ := Option.map_eq_some_iff.mp advanced
        obtain ⟨request,asks,answers⟩ := Option.bind_eq_some_iff.mp found
        obtain ⟨call,here,asked⟩ := Option.bind_eq_some_iff.mp asks
        cases System.advance_sound moved with
        | take here' fresh taken =>
            cases here.symm.trans here'
            exact .take here fresh taken (answered_turn asked answers taken)
      · rename_i unanswered
        obtain ⟨system,moved,rfl⟩ := Option.map_eq_some_iff.mp advanced
        cases System.advance_sound moved with
        | take here fresh taken =>
            refine .take here fresh taken (.stay rfl ?_)
            intro device payload asks
            subst asks
            rw [here] at unanswered
            simp only [Option.bind_some,Call.request?,FileDirectory.answer?] at unanswered
            split at unanswered <;> cases unanswered

-- The files are one bundle ahead of the mirror while the call that set a config has yet to
-- report it.
def Agrees (relay : Relay) (handle : Nat) (entries : List Call) (f : Filed) (index : Nat)
    (call : Call) : Prop :=
  ∀ device, f.files.config? handle device = Bundle.lastConfig? device
    (pushed entries f.system.history ++ owed relay entries[index]? call)

structure Kept (relay : Relay) (handle : Nat) (entries : List Call) (f : Filed) : Prop where
  alone : Alone relay f.system
  ledger : System.Ledger relay entries f.system
  agrees : f.system.UnderWay (Agrees relay handle entries f)

theorem owed_carries {message : Message} (carries : Carries relay entry message) (call : Call) :
    owed relay (some entry) call = [] := by
  obtain ⟨rfl,_⟩ := carries
  cases call <;> rfl

theorem owed_stay (account : Account relay entry call came went)
    (taken : Transition relay s reply call t after acts)
    (refused : ∀ device payload, call = .updating device payload → after = .finished) :
    owed relay (some entry) call =
      (if entry.isInbound then acts.filterMap Act.mirror? else []) ++
        owed relay (some entry) after := by
  cases taken with
  | mirror => cases inbound : entry.isInbound <;> (simp only [owed,Option.any_some,inbound]; rfl)
  | sent =>
      cases account with
      | sending carries => simp [owed_carries carries]
  | recovered =>
      cases account with
      | recovering carries => simp [owed_carries carries,Act.mirror?]
  | updated => cases refused _ _ rfl
  | deliver => rename_i created _; cases created <;> simp [owed,Act.mirror?]
  | _ => simp [owed,Act.mirror?,Call.terminating]

theorem Turn.configs (turn : Turn handle f.files files call after)
    (account : Account relay entry call came went)
    (taken : Transition relay s reply call t after acts) {before : List Bundle}
    (configs : ∀ device, f.files.config? handle device =
      Bundle.lastConfig? device (before ++ owed relay (some entry) call)) (device : String) :
    files.config? handle device = Bundle.lastConfig? device
      (before ++ (if entry.isInbound then acts.filterMap Act.mirror? else []) ++
        owed relay (some entry) after) := by
  cases turn with
  | set set =>
      cases account with
      | updating pushes =>
          obtain ⟨topic,rfl,_⟩ := pushes
          cases taken
          rw [set,configs]
          exact (Bundle.lastConfig?_concat _ _ _ _ _).symm
  | stay same refused =>
      subst same
      rw [configs,owed_stay account taken refused,List.append_assoc]

theorem pushed_made {records : List Record} (covered : ∀ record ∈ records, record.call < entries.length)
    (call : Call) : pushed (entries ++ [call]) records = pushed entries records := by
  refine List.flatMap_congr fun record member => ?_
  rw [List.getElem?_append_left (covered record member)]

theorem pushed_concat (records : List Record) (record : Record)
    (begun : entries[record.call]? = some entry) :
    pushed entries (records ++ [record]) = pushed entries records ++
      if entry.isInbound then record.acts.filterMap Act.mirror? else [] := by
  rw [pushed,List.flatMap_append,List.flatMap_singleton,begun]
  rfl

theorem Kept.initial (empty : ∀ device, files.config? handle device = none) :
    Kept relay handle [] ⟨{},files⟩ where
  alone := .initial
  ledger := System.initial_ledger
  agrees := ⟨fun _ => ⟨0,empty⟩,by simp⟩

theorem Kept.advance (kept : Kept relay handle entries f) {calls : List Call}
    (moved : Advance relay handle f calls next) : Kept relay handle (entries ++ calls) next := by
  cases moved with
  | begin quiet entry =>
      rename_i call
      obtain ⟨_,agrees⟩ := kept.agrees.1 quiet
      have covered : ∀ record ∈ f.system.history, record.call < entries.length := fun record member =>
        kept.ledger.length ▸ kept.ledger.covered record member
      have idle : ∀ begun, owed relay begun call = [] := by
        intro begun
        cases call with
        | mirroring => cases entry
        | _ => rfl
      have advanced : f.system.advance relay (.begin call) = some _ :=
        System.advance_complete (.begin entry)
      refine ⟨.step kept.alone advanced fun _ _ => quiet,kept.ledger.begin entry,
        .begin quiet entry fun device => ?_⟩
      rw [pushed_made covered,idle]
      exact agrees device
  | take here fresh taken turn =>
      rw [List.append_nil]
      have inside := (List.getElem?_eq_some_iff.mp here).1
      rw [kept.ledger.length] at inside
      have begun := List.getElem?_eq_getElem inside
      have isEntry := kept.ledger.entry _ (List.getElem_mem inside)
      have account := (kept.ledger.course _ _ _ begun here).account isEntry
      have agrees := kept.agrees.2 _ _ here taken.unfinished
      rw [Agrees,begun] at agrees
      have advanced := System.advance_complete (.take here fresh taken)
      refine ⟨.step kept.alone advanced (by simp),kept.ledger.take here taken,
        .take (System.alone_solitary kept.alone) here taken fun device => ?_⟩
      rw [begun,System.log,pushed_concat _ _ begun]
      exact turn.configs account taken agrees device

theorem Kept.run (kept : Kept relay handle entries f) {moves : List Move}
    (ran : f.run relay handle moves = some next) :
    Kept relay handle (entries ++ made moves) next := by
  induction moves generalizing f entries with
  | nil =>
      cases ran
      rwa [made,List.filterMap_nil,List.append_nil]
  | cons move rest ih =>
      obtain ⟨middle,first,others⟩ := Option.bind_eq_some_iff.mp ran
      have kept := ih (kept.advance (advance_sound first)) others
      rwa [List.append_assoc,← made_cons] at kept

theorem Kept.unpushed (kept : Kept relay handle entries f) {device : String}
    (silent : ∀ data, .publish device (some Topic.configFolder) data ∉ entries) :
    Bundle.lastConfig? device f.system.mirrored =
      Bundle.lastConfig? device (pushed entries f.system.history) := by
  rw [Bundle.lastConfig?,Bundle.lastConfig?,System.mirrored_eq,List.filterMap_flatMap,pushed,
    List.filter_flatMap,List.filter_flatMap]
  congr 2
  refine List.flatMap_congr fun record member => ?_
  obtain ⟨entry,begun,grounded⟩ := kept.ledger.grounded member
  rw [begun,Option.any_some]
  cases inbound : entry.isInbound with
  | true => rfl
  | false =>
      refine List.filter_eq_nil_iff.mpr fun bundle inside => ?_
      obtain ⟨act,acted,mirrors⟩ := List.mem_filterMap.mp inside
      cases act with
      | mirror =>
          cases mirrors
          cases grounded _ acted with
          | sent =>
              rename_i owner subFolder data known
              rw [Bundle.configures_routed]
              have made := List.mem_of_getElem? begun
              simp only [Bool.and_eq_true,decide_eq_true_eq,not_and]
              rintro rfl rfl
              exact silent data made
          | pushed => cases inbound
      | _ => cases mirrors

end Filed

-- What the directory keeps for a device is what the last bundle says that a listener's call
-- handed to the mirror, and nothing if there is none. The other bundles do not count: a message
-- with the sub-folder of configs is mirrored like any other, and goes to its publisher. Where no
-- such message was made for the device, the mirror as a whole tells its config.
theorem config_as_pushed {earlier : FileDirectory} {file : File} {binding : DirectoryBinding}
    {relay : Relay} {handle : Nat} {files : FileDirectory} {moves : List Move} {f : Filed}
    (bound : earlier.connect file binding = .ok (handle,files))
    (ran : Filed.run relay handle ⟨{},files⟩ moves = some f) (quiet : f.system.quiet) :
    (∀ device, f.files.config? handle device =
      Bundle.lastConfig? device (Filed.pushed (made moves) f.system.history)) ∧
    ∀ device, (∀ data, .publish device (some Topic.configFolder) data ∉ made moves) →
      f.files.config? handle device = Bundle.lastConfig? device f.system.mirrored := by
  have fresh : Filed.Kept relay handle [] ⟨{},files⟩ :=
    .initial (FileDirectory.connect_fresh bound)
  have kept := fresh.run ran
  rw [List.nil_append] at kept
  obtain ⟨index,agrees⟩ := kept.agrees.1 quiet
  have pushed : ∀ device, f.files.config? handle device =
      Bundle.lastConfig? device (Filed.pushed (made moves) f.system.history) := by
    intro device
    simpa [Filed.owed] using agrees device
  exact ⟨pushed,fun device silent => (pushed device).trans (kept.unpushed silent).symm⟩

def oneDevice : File := .text
  ("\x7b\"registries\":\x7b\"reg\":\x7b\"a\":\x7b\"metadata\":" ++
    "\x7b\"key_algorithm\":\"RS256\",\"key_bytes\":\"\"\x7d\x7d\x7d\x7d\x7d")

def oneDeviceFiles : FileDirectory where
  snapshots := [⟨⟨"src","reg","eu"⟩,Dict.ofPairs [("a",Device.sample.metadata)],{}⟩]
  current := Dict.ofPairs [("reg",0)]

theorem oneDevice_connect :
    FileDirectory.connect {} oneDevice ⟨"src","reg","eu"⟩ = .ok (0,oneDeviceFiles) := by
  have found : (FileDirectory.connect {} oneDevice ⟨"src","reg","eu"⟩).toOption =
      some (0,oneDeviceFiles) := by decide +kernel
  cases result : FileDirectory.connect {} oneDevice ⟨"src","reg","eu"⟩ with
  | error fault => rw [result] at found; cases found
  | ok pair => rw [result] at found; cases found; rfl

def configMessage : List Move :=
  [.begin (.publish "a" (some "config") "x"),.advance 0 none,.advance 0 none,.advance 0 none,
    .advance 0 none,.advance 0 (some (.connected (.ok 7))),.advance 0 none,
    .advance 0 (some (.sent none)),.advance 0 none]

def configsReceived : List Move :=
  [.begin (.inbound "/devices/a/config" "c"),.advance 1 none,.advance 1 none,.advance 1 none,
    .begin (.inbound "/devices/zz/config" "d"),.advance 2 none,.advance 2 none]

theorem config_as_pushed_published : ∃ files f,
    FileDirectory.connect {} oneDevice ⟨"src","reg","eu"⟩ = .ok (0,files) ∧
    Filed.run .sample 0 ⟨{},files⟩ configMessage = some f ∧ f.system.quiet ∧
    f.files.config? 0 "a" = none ∧ Bundle.lastConfig? "a" f.system.mirrored = some "x" :=
  ⟨_,_,oneDevice_connect,rfl,by simp [System.quiet],rfl,rfl⟩

theorem config_as_pushed_received : ∃ files f,
    FileDirectory.connect {} oneDevice ⟨"src","reg","eu"⟩ = .ok (0,files) ∧
    Filed.run .sample 0 ⟨{},files⟩ (configMessage ++ configsReceived) = some f ∧
    f.system.mirrored.map Bundle.payload = ["x","c"] ∧ f.files.config? 0 "a" = some "c" ∧
    f.files.config? 0 "zz" = Bundle.lastConfig? "zz" f.system.mirrored := by
  obtain ⟨f,ran,quiet,mirrored,pushed⟩ : ∃ f,
      Filed.run .sample 0 ⟨{},oneDeviceFiles⟩ (configMessage ++ configsReceived) = some f ∧
      f.system.quiet ∧ f.system.mirrored.map Bundle.payload = ["x","c"] ∧
      Bundle.lastConfig? "a"
        (Filed.pushed (made (configMessage ++ configsReceived)) f.system.history) = some "c" :=
    ⟨_,rfl,by simp [System.quiet],rfl,rfl⟩
  obtain ⟨configs,silent⟩ := config_as_pushed oneDevice_connect ran quiet
  have strange : ∀ data, .publish "zz" (some Topic.configFolder) data ∉
      made (configMessage ++ configsReceived) := by
    simp [made,configMessage,configsReceived]
  exact ⟨oneDeviceFiles,f,oneDevice_connect,ran,mirrored,(configs "a").trans pushed,
    silent "zz" strange⟩

end Relay
end RegistryRelay
