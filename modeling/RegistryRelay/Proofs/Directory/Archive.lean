import RegistryRelay.Directory

namespace RegistryRelay

def File.devices? (file : File) (registry : String) : Option (Dict (Dict String)) :=
  match Inventory.load file with
  | .ok inventory => inventory.get? registry
  | .error _ => none

theorem mem_ascendingSet {texts : List String} {text : String} :
    text ∈ ascendingSet texts ↔ text ∈ texts := by
  rw [ascendingSet,(ascending_perm _).mem_iff,List.mem_eraseDups]

namespace Snapshot

variable {s : Snapshot} {device : String}

theorem mem_listDevices : device ∈ s.listDevices ↔ s.devices.contains device = true := by
  rw [listDevices,mem_ascendingSet,Dict.contains,Dict.get?_isSome_iff]

def pushing (s : Snapshot) (device payload : String) : Snapshot :=
  { s with pushed := s.pushed.put device payload }

theorem config?_pushing (payload other : String) :
    (s.pushing device payload).config? other =
      if other = device then some payload else s.config? other :=
  Dict.get?_put s.pushed device other payload

end Snapshot

namespace FileDirectory

variable {d : FileDirectory} {file : File} {binding : DirectoryBinding} {handle : Nat}
  {device : String} {s : Snapshot}

def handing (d : FileDirectory) (s : Snapshot) : FileDirectory :=
  { d with
    snapshots := d.snapshots ++ [s]
    current := d.current.put s.binding.registry d.snapshots.length }

def updating (d : FileDirectory) (handle : Nat) (s : Snapshot) : FileDirectory :=
  { d with snapshots := d.snapshots.set handle s }

theorem connect_listed {devices : Dict (Dict String)}
    (listed : file.devices? binding.registry = some devices) :
    d.connect file binding = .ok (d.snapshots.length,d.handing { binding,devices }) := by
  unfold File.devices? at listed
  split at listed
  · rename_i inventory loads
    simp only [connect,loads,listed]
    rfl
  · cases listed

theorem connect_unlisted (unlisted : file.devices? binding.registry = none) :
    ∃ fault, d.connect file binding = .error fault := by
  unfold File.devices? at unlisted
  split at unlisted
  · rename_i inventory loads
    exact ⟨_,by simp only [connect,loads,unlisted]; rfl⟩
  · rename_i fault loads
    exact ⟨fault,by simp only [connect,loads]⟩

theorem push_known (found : d.snapshot? handle = some s)
    (known : s.devices.contains device = true) (payload : String) :
    d.push handle device payload = .ok (d.updating handle (s.pushing device payload)) := by
  simp only [push,found,Snapshot.push,known,↓reduceIte]
  rfl

theorem push_refused (found : d.snapshot? handle = some s)
    (unknown : s.devices.contains device = false) (payload : String) :
    d.push handle device payload = .error (.deviceNotFound device) := by
  simp only [push,found,Snapshot.push,unknown,Bool.false_eq_true,↓reduceIte]

end FileDirectory

-- A registry file that others may rewrite at any time, and the directory over it.
structure Archive where
  file : File
  directory : FileDirectory := {}

namespace Archive

inductive Use where
  | rewrite (file : File)
  | connect (binding : DirectoryBinding)
  | current (registry : String)
  | list (handle : Nat)
  | fetch (handle : Nat) (device : String)
  | push (handle : Nat) (device payload : String)
  | config (handle : Nat) (device : String)

inductive Answer where
  | done
  | failed (fault : Fault)
  | unknown
  | handed (handle : Nat)
  | current (handle : Option Nat)
  | listed (devices : List String)
  | fetched (device : Device)
  | config (payload : Option String)

def snapshot? (a : Archive) (handle : Nat) : Option Snapshot := a.directory.snapshot? handle

def directory? (a : Archive) (registry : String) : Option Snapshot := a.directory.directory? registry

def perform (a : Archive) : Use → Archive × Answer
  | .rewrite file => ({ a with file },.done)
  | .connect binding =>
      match a.directory.connect a.file binding with
      | .error fault => (a,.failed fault)
      | .ok (handle,directory) => ({ a with directory },.handed handle)
  | .current registry => (a,.current (a.directory.current.get? registry))
  | .list handle =>
      match a.snapshot? handle with
      | none => (a,.unknown)
      | some s => (a,.listed s.listDevices)
  | .fetch handle device =>
      match a.snapshot? handle with
      | none => (a,.unknown)
      | some s =>
          match s.fetch device with
          | .error fault => (a,.failed fault)
          | .ok found => (a,.fetched found)
  | .push handle device payload =>
      match a.snapshot? handle with
      | none => (a,.unknown)
      | some _ =>
          match a.directory.push handle device payload with
          | .error fault => (a,.failed fault)
          | .ok directory => ({ a with directory },.done)
  | .config handle device =>
      match a.snapshot? handle with
      | none => (a,.unknown)
      | some s => (a,.config (s.config? device))

abbrev Log := List (Use × Answer)

namespace Log

def file (first : File) : Log → File
  | [] => first
  | (.rewrite next,_) :: _ => next
  | _ :: earlier => file first earlier

def handed (first : File) : Log → List (DirectoryBinding × File)
  | [] => []
  | (.connect binding,.handed _) :: earlier => handed first earlier ++ [(binding,file first earlier)]
  | _ :: earlier => handed first earlier

def current? (registry : String) : Log → Option Nat
  | [] => none
  | (.connect binding,.handed handle) :: earlier =>
      if registry = binding.registry then some handle else current? registry earlier
  | _ :: earlier => current? registry earlier

def config? (handle : Nat) (device : String) : Log → Option String
  | [] => none
  | (.push receiver other payload,.done) :: earlier =>
      if handle = receiver ∧ device = other then some payload else config? handle device earlier
  | _ :: earlier => config? handle device earlier

end Log

inductive Reached (first : File) : Archive → Log → Prop where
  | opened (path : String) : Reached first ⟨first,{ path }⟩ []
  | step (before : Reached first a log) (use : Use) :
      Reached first (a.perform use).1 ((use,(a.perform use).2) :: log)

-- The archive is what its log says.
structure Kept (first : File) (a : Archive) (log : Log) : Prop where
  file : a.file = log.file first
  count : a.directory.snapshots.length = (log.handed first).length
  handed : ∀ handle s, a.snapshot? handle = some s → ∃ file,
    (log.handed first)[handle]? = some (s.binding,file) ∧
    file.devices? s.binding.registry = some s.devices
  configs : ∀ handle s, a.snapshot? handle = some s →
    ∀ device, s.config? device = log.config? handle device
  unpushed : ∀ handle device, a.snapshot? handle = none → log.config? handle device = none
  current : ∀ registry, a.directory.current.get? registry = log.current? registry
  inside : ∀ registry handle, log.current? registry = some handle →
    ∃ s, a.snapshot? handle = some s ∧ s.binding.registry = registry

structure Log.Silent (entry : Use × Answer) : Prop where
  file : ∀ first log, Log.file first (entry :: log) = Log.file first log
  handed : ∀ first log, Log.handed first (entry :: log) = Log.handed first log
  current : ∀ registry log, Log.current? registry (entry :: log) = Log.current? registry log
  config : ∀ handle device log, Log.config? handle device (entry :: log) = Log.config? handle device log

inductive Step (a : Archive) : Use → Archive → Answer → Prop where
  | rewrite (file : File) : Step a (.rewrite file) { a with file } .done
  | handed (listed : a.file.devices? binding.registry = some devices) :
      Step a (.connect binding) { a with directory := a.directory.handing { binding,devices } }
        (.handed a.directory.snapshots.length)
  | pushed (found : a.snapshot? handle = some s) :
      Step a (.push handle device payload)
        { a with directory := a.directory.updating handle (s.pushing device payload) } .done
  | silent (silent : Log.Silent (use,answer)) : Step a use a answer

variable {first : File} {a : Archive} {log : Log} {binding : DirectoryBinding} {handle : Nat}
  {device payload : String} {s : Snapshot} {entry : Use × Answer}

theorem Kept.silent (kept : Kept first a log) (silent : Log.Silent entry) :
    Kept first a (entry :: log) := by
  constructor
  case file =>
    rw [silent.file]
    exact kept.file
  case count =>
    rw [silent.handed]
    exact kept.count
  case handed =>
    rw [silent.handed]
    exact kept.handed
  case configs =>
    intro handle s found device
    rw [silent.config]
    exact kept.configs handle s found device
  case unpushed =>
    intro handle device missing
    rw [silent.config]
    exact kept.unpushed handle device missing
  case current =>
    intro registry
    rw [silent.current]
    exact kept.current registry
  case inside =>
    intro registry handle
    rw [silent.current]
    exact kept.inside registry handle

theorem Kept.rewrite (kept : Kept first a log) (file : File) :
    Kept first { a with file } ((.rewrite file,.done) :: log) :=
  ⟨rfl,kept.count,kept.handed,kept.configs,kept.unpushed,kept.current,kept.inside⟩

theorem snapshot?_handing (a : Archive) (s : Snapshot) (handle : Nat) :
    { a with directory := a.directory.handing s }.snapshot? handle =
      if handle = a.directory.snapshots.length then some s else a.snapshot? handle := by
  simp only [snapshot?,FileDirectory.snapshot?,FileDirectory.handing]
  rw [List.getElem?_append]
  split
  · rename_i inside
    rw [if_neg (Nat.ne_of_lt inside)]
  · rename_i outside
    split
    · rename_i same
      rw [same,Nat.sub_self]
      rfl
    · rename_i beyond
      rw [List.getElem?_eq_none (by simp only [List.length_singleton]; omega),
        List.getElem?_eq_none (by omega)]

theorem snapshot?_length (a : Archive) : a.snapshot? a.directory.snapshots.length = none :=
  List.getElem?_eq_none (Nat.le_refl _)

theorem snapshot?_pushing (found : a.snapshot? handle = some s) (other : Nat) :
    { a with directory := a.directory.updating handle (s.pushing device payload) }.snapshot? other =
      if other = handle then some (s.pushing device payload) else a.snapshot? other := by
  obtain ⟨inside,_⟩ := List.getElem?_eq_some_iff.mp found
  simp only [snapshot?,FileDirectory.snapshot?,FileDirectory.updating]
  rw [List.getElem?_set]
  by_cases same : handle = other
  · rw [if_pos same,if_pos inside,if_pos same.symm]
  · rw [if_neg same,if_neg (Ne.symm same)]

theorem Kept.handing (kept : Kept first a log) {devices : Dict (Dict String)}
    (listed : a.file.devices? binding.registry = some devices) :
    Kept first { a with directory := a.directory.handing { binding,devices } }
      ((.connect binding,.handed a.directory.snapshots.length) :: log) := by
  have fresh := a.snapshot?_length
  constructor
  case file =>
    exact kept.file
  case count =>
    simp only [FileDirectory.handing,Log.handed,List.length_append,List.length_singleton]
    rw [kept.count]
  case handed =>
    intro handle s found
    rw [snapshot?_handing] at found
    rw [Log.handed]
    split at found
    · rename_i same
      cases found
      refine ⟨a.file,?_,listed⟩
      rw [same,kept.count,kept.file,List.getElem?_concat_length]
    · obtain ⟨file,entry,lists⟩ := kept.handed handle s found
      refine ⟨file,?_,lists⟩
      rw [List.getElem?_append_left (List.getElem?_eq_some_iff.mp entry).1]
      exact entry
  case configs =>
    intro handle s found device
    rw [snapshot?_handing] at found
    split at found
    · rename_i same
      cases found
      rw [same]
      exact (kept.unpushed _ device fresh).symm
    · exact kept.configs handle s found device
  case unpushed =>
    intro handle device missing
    rw [snapshot?_handing] at missing
    split at missing
    · cases missing
    · exact kept.unpushed handle device missing
  case current =>
    intro registry
    simp only [FileDirectory.handing,Dict.get?_put,Log.current?]
    split
    · rfl
    · exact kept.current registry
  case inside =>
    intro registry handle current
    rw [Log.current?] at current
    rw [snapshot?_handing]
    split at current
    · rename_i same
      cases current
      exact ⟨_,if_pos rfl,same.symm⟩
    · obtain ⟨s,found,own⟩ := kept.inside registry handle current
      refine ⟨s,?_,own⟩
      rw [if_neg]
      · exact found
      · intro same
        rw [same,fresh] at found
        cases found

theorem Kept.pushing (kept : Kept first a log) (found : a.snapshot? handle = some s)
    (device payload : String) :
    Kept first { a with directory := a.directory.updating handle (s.pushing device payload) }
      ((.push handle device payload,.done) :: log) := by
  constructor
  case file =>
    exact kept.file
  case count =>
    exact (List.length_set).trans kept.count
  case handed =>
    intro other s' found'
    rw [snapshot?_pushing found] at found'
    split at found'
    · rename_i same
      cases found'
      rw [same]
      exact kept.handed handle s found
    · exact kept.handed other s' found'
  case configs =>
    intro other s' found' device'
    rw [snapshot?_pushing found] at found'
    rw [Log.config?]
    split at found'
    · rename_i same
      cases found'
      rw [Snapshot.config?_pushing,kept.configs handle s found,same]
      simp only [true_and]
    · rename_i differs
      rw [if_neg (fun both => differs both.1)]
      exact kept.configs other s' found' device'
  case unpushed =>
    intro other device' missing
    rw [snapshot?_pushing found] at missing
    rw [Log.config?]
    split at missing
    · cases missing
    · rename_i differs
      rw [if_neg (fun both => differs both.1)]
      exact kept.unpushed other device' missing
  case current =>
    exact kept.current
  case inside =>
    intro registry other current
    obtain ⟨s',found',own⟩ := kept.inside registry other current
    rw [snapshot?_pushing found]
    split
    · rename_i same
      rw [same,found] at found'
      cases found'
      exact ⟨_,rfl,own⟩
    · exact ⟨s',found',own⟩

theorem perform_connect (listed : a.file.devices? binding.registry = some devices) :
    a.perform (.connect binding) =
      ({ a with directory := a.directory.handing { binding,devices } },
        .handed a.directory.snapshots.length) := by
  simp only [perform,FileDirectory.connect_listed listed]

theorem perform_connect_failed (unlisted : a.file.devices? binding.registry = none) :
    ∃ fault, a.perform (.connect binding) = (a,.failed fault) := by
  obtain ⟨fault,fails⟩ := FileDirectory.connect_unlisted (d := a.directory) unlisted
  exact ⟨fault,by simp only [perform,fails]⟩

theorem perform_push (found : a.snapshot? handle = some s)
    (known : s.devices.contains device = true) (payload : String) :
    a.perform (.push handle device payload) =
      ({ a with directory := a.directory.updating handle (s.pushing device payload) },.done) := by
  simp only [perform,found,FileDirectory.push_known found known]

theorem perform_push_failed (found : a.snapshot? handle = some s)
    (unknown : s.devices.contains device = false) (payload : String) :
    a.perform (.push handle device payload) = (a,.failed (.deviceNotFound device)) := by
  simp only [perform,found,FileDirectory.push_refused found unknown]

theorem perform_list (found : a.snapshot? handle = some s) :
    a.perform (.list handle) = (a,.listed s.listDevices) := by
  simp only [perform,found]

theorem perform_fetch (found : a.snapshot? handle = some s) {metadata : Dict String}
    (has : s.devices.get? device = some metadata) :
    a.perform (.fetch handle device) = (a,.fetched ⟨device,metadata⟩) := by
  simp only [perform,found,Snapshot.fetch,has]

theorem perform_fetch_failed (found : a.snapshot? handle = some s)
    (unknown : s.devices.get? device = none) :
    a.perform (.fetch handle device) = (a,.failed (.deviceNotFound device)) := by
  simp only [perform,found,Snapshot.fetch,unknown]

theorem perform_config (found : a.snapshot? handle = some s) :
    a.perform (.config handle device) = (a,.config (s.config? device)) := by
  simp only [perform,found]

theorem perform_failed {use : Use} {fault : Fault} {next : Archive}
    (failed : a.perform use = (next,.failed fault)) : next = a := by
  cases use <;> simp only [perform] at failed <;> (repeat' split at failed) <;> cases failed <;> rfl

theorem perform_step (a : Archive) (use : Use) : Step a use (a.perform use).1 (a.perform use).2 := by
  cases use with
  | rewrite file => exact .rewrite file
  | connect binding =>
      cases listed : a.file.devices? binding.registry with
      | some devices =>
          rw [perform_connect listed]
          exact .handed listed
      | none =>
          obtain ⟨fault,fails⟩ := perform_connect_failed listed
          rw [fails]
          exact .silent (by constructor <;> intros <;> rfl)
  | push handle device payload =>
      cases found : a.snapshot? handle with
      | none =>
          simp only [perform,found]
          exact .silent (by constructor <;> intros <;> rfl)
      | some s =>
          cases known : s.devices.contains device with
          | true =>
              rw [perform_push found known]
              exact .pushed found
          | false =>
              rw [perform_push_failed found known]
              exact .silent (by constructor <;> intros <;> rfl)
  | current registry => exact .silent (by constructor <;> intros <;> rfl)
  | list handle =>
      simp only [perform]
      split <;> exact .silent (by constructor <;> intros <;> rfl)
  | fetch handle device =>
      simp only [perform]
      repeat' split
      all_goals exact .silent (by constructor <;> intros <;> rfl)
  | config handle device =>
      simp only [perform]
      split <;> exact .silent (by constructor <;> intros <;> rfl)

theorem Kept.step (kept : Kept first a log) {use : Use} {next : Archive} {answer : Answer}
    (step : Step a use next answer) : Kept first next ((use,answer) :: log) := by
  cases step with
  | rewrite file => exact kept.rewrite file
  | handed listed => exact kept.handing listed
  | pushed found => exact kept.pushing found _ _
  | silent silent => exact kept.silent silent

theorem reached_kept (reached : Reached first a log) : Kept first a log := by
  induction reached with
  | opened path => exact ⟨rfl,rfl,nofun,nofun,fun _ _ _ => rfl,fun _ => rfl,nofun⟩
  | step before use kept => exact kept.step (perform_step _ use)

theorem Kept.directory? (kept : Kept first a log) (registry : String) :
    a.directory? registry = (log.current? registry).bind a.snapshot? := by
  rw [← kept.current]
  rfl

-- A connect fails and changes nothing, unless the file can be read and lists the registry. Then
-- the registry has a new directory, and all other directories stay as they are.
structure Connects (a : Archive) (binding : DirectoryBinding) : Prop where
  failed : a.file.devices? binding.registry = none →
    ∃ fault, a.perform (.connect binding) = (a,.failed fault)
  handed : ∀ devices, a.file.devices? binding.registry = some devices →
    ∃ handle later, a.perform (.connect binding) = (later,.handed handle) ∧ later.file = a.file ∧
      a.snapshot? handle = none ∧ later.snapshot? handle = some ⟨binding,devices,{}⟩ ∧
      later.directory? binding.registry = some ⟨binding,devices,{}⟩ ∧
      (∀ registry, registry ≠ binding.registry →
        later.directory? registry = a.directory? registry) ∧
      ∀ other, other ≠ handle → later.snapshot? other = a.snapshot? other

-- A snapshot has the devices of the file as it was when it was handed out. The devices it lists
-- are those that can be fetched and take configs, and each keeps the config it took last.
structure Serves (first : File) (a : Archive) (log : Log) (handle : Nat) (s : Snapshot) : Prop where
  handed : ∃ file, (log.handed first)[handle]? = some (s.binding,file) ∧
    file.devices? s.binding.registry = some s.devices
  listed : a.perform (.list handle) = (a,.listed s.listDevices)
  known : ∀ device ∈ s.listDevices,
    (∃ metadata, s.devices.get? device = some metadata ∧
      a.perform (.fetch handle device) = (a,.fetched ⟨device,metadata⟩)) ∧
    ∀ payload, ∃ later, a.perform (.push handle device payload) = (later,.done) ∧
      later.file = a.file ∧ later.snapshot? handle = some (s.pushing device payload) ∧
      (∀ other, other ≠ handle → later.snapshot? other = a.snapshot? other) ∧
      ∀ registry, later.perform (.current registry) = (later,.current (log.current? registry))
  unknown : ∀ device, device ∉ s.listDevices →
    a.perform (.fetch handle device) = (a,.failed (.deviceNotFound device)) ∧
    ∀ payload, a.perform (.push handle device payload) = (a,.failed (.deviceNotFound device))
  config : ∀ device, a.perform (.config handle device) = (a,.config (log.config? handle device))

theorem Kept.connects (kept : Kept first a log) (binding : DirectoryBinding) :
    a.Connects binding := by
  refine ⟨perform_connect_failed,?_⟩
  intro devices listed
  let later : Archive := { a with directory := a.directory.handing { binding,devices } }
  have after : Kept first later ((.connect binding,.handed a.directory.snapshots.length) :: log) :=
    kept.handing listed
  have found : later.snapshot? a.directory.snapshots.length = some ⟨binding,devices,{}⟩ := by
    rw [snapshot?_handing,if_pos rfl]
  refine ⟨_,later,perform_connect listed,rfl,a.snapshot?_length,found,?_,?_,?_⟩
  · rw [after.directory?,Log.current?,if_pos rfl]
    exact found
  · intro registry differs
    rw [after.directory?,kept.directory?,Log.current?,if_neg differs]
    apply Option.bind_congr
    intro handle current
    obtain ⟨s,here,_⟩ := kept.inside registry handle current
    rw [snapshot?_handing,if_neg]
    intro same
    rw [same,snapshot?_length] at here
    cases here
  · intro other differs
    rw [snapshot?_handing,if_neg differs]

theorem Kept.serves (kept : Kept first a log) (found : a.snapshot? handle = some s) :
    Serves first a log handle s := by
  refine ⟨kept.handed handle s found,perform_list found,?_,?_,?_⟩
  · intro device listed
    have known := Snapshot.mem_listDevices.mp listed
    obtain ⟨metadata,has⟩ := Option.isSome_iff_exists.mp known
    refine ⟨⟨metadata,has,perform_fetch found has⟩,?_⟩
    intro payload
    refine ⟨_,perform_push found known payload,rfl,?_,?_,?_⟩
    · rw [snapshot?_pushing found,if_pos rfl]
    · intro other differs
      rw [snapshot?_pushing found,if_neg differs]
    · intro registry
      rw [← kept.current]
      rfl
  · intro device unlisted
    have unknown : ¬s.devices.contains device = true :=
      fun known => unlisted (Snapshot.mem_listDevices.mpr known)
    have missing : s.devices.get? device = none := Option.not_isSome_iff_eq_none.mp unknown
    exact ⟨perform_fetch_failed found missing,
      perform_push_failed found (Bool.eq_false_iff.mpr unknown)⟩
  · intro device
    rw [perform_config found,kept.configs handle s found]

theorem snapshots_as_logged (reached : Reached first a log) :
    (∀ binding, a.Connects binding) ∧
    (∀ file, a.perform (.rewrite file) = ({ a with file },.done)) ∧
    (∀ use fault next, a.perform use = (next,.failed fault) → next = a) ∧
    (∀ registry, a.perform (.current registry) = (a,.current (log.current? registry)) ∧
      a.directory? registry = (log.current? registry).bind a.snapshot?) ∧
    ∀ handle s, a.snapshot? handle = some s → Serves first a log handle s := by
  have kept := reached_kept reached
  refine ⟨kept.connects,fun _ => rfl,fun _ _ _ => perform_failed,?_,fun _ _ => kept.serves⟩
  intro registry
  refine ⟨?_,kept.directory? registry⟩
  rw [← kept.current]
  rfl

def shelf : File := .text "\x7b\"registries\":\x7b\"reg\":\x7b\"a\":\x7b\x7d\x7d\x7d\x7d"

theorem shelf_registry : shelf.devices? "reg" = some (Dict.ofPairs [("a",{})]) := by
  decide +kernel

theorem snapshots_as_logged_rewritten :
    let binding : DirectoryBinding := ⟨"src","reg","eu"⟩
    let s : Snapshot := ⟨binding,Dict.ofPairs [("a",{})],Dict.ofPairs [("a","one")]⟩
    ∃ a log, Reached shelf a log ∧ a.file = .absent ∧ a.snapshot? 0 = some s ∧
      (∃ fault, a.perform (.connect binding) = (a,.failed fault)) ∧
      a.perform (.config 0 "a") = (a,.config (some "one")) ∧
      a.perform (.push 0 "zz" "three") = (a,.failed (.deviceNotFound "zz")) := by
  intro binding s
  let connected : Archive := ⟨shelf,{
    snapshots := [⟨binding,Dict.ofPairs [("a",{})],{}⟩], current := Dict.ofPairs [("reg",0)] }⟩
  have connects : perform ⟨shelf,{}⟩ (.connect binding) = (connected,.handed 0) :=
    perform_connect shelf_registry
  have read : Reached shelf connected [(.connect binding,.handed 0)] := by
    have start : Reached shelf ⟨shelf,{}⟩ [] := .opened "registry.json"
    have step := start.step (.connect binding)
    rwa [connects] at step
  have reached := ((read.step (.push 0 "a" "one")).step (.rewrite .absent)).step
    (.push 0 "zz" "two")
  obtain ⟨connecting,_,_,_,serving⟩ := snapshots_as_logged reached
  have serves := serving 0 s rfl
  have unlisted : "zz" ∉ s.listDevices := by
    rw [Snapshot.mem_listDevices]
    decide
  exact ⟨_,_,reached,rfl,rfl,(connecting binding).failed rfl,serves.config "a",
    (serves.unknown "zz" unlisted).2 "three"⟩

end Archive
end RegistryRelay
