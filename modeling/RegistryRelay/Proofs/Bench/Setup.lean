import RegistryRelay.Proofs.Bench.Sequence
import RegistryRelay.Proofs.Relay.Setup

namespace RegistryRelay

def Operation.target? : Operation → Option Nat
  | .publish target _ _ _ => some target
  | .terminate target => some target
  | _ => none

def Command.target? : Command → Option Nat
  | .operate operation => operation.target?
  | _ => none

def Entry.setsUp : Entry → Bool
  | .note _ | .bound _ | .listed => true
  | _ => false

namespace Rig

def surroundings : Surroundings Rig Nat where
  note event rig := rig.record (.note event)
  connect binding rig := rig.connectDirectory binding
  list handle rig := rig.listDevices handle

def SetsUp (rig : Rig) (events : List Event) (last : Rig) : Prop :=
  ∃ backend entries, last = { rig.extend entries with backend } ∧
    (∀ entry ∈ entries, entry.setsUp = true) ∧ entries.filterMap Entry.event? = events

variable {rig middle last : Rig} {events more : List Event} {errands : List (Errand Nat)}

theorem SetsUp.refl (rig : Rig) : rig.SetsUp [] rig :=
  ⟨rig.backend,[],(extend_nil rig).symm,nofun,rfl⟩

theorem SetsUp.trans (one : rig.SetsUp events middle) (two : middle.SetsUp more last) :
    rig.SetsUp (events ++ more) last := by
  obtain ⟨_,entries,rfl,plain,rfl⟩ := one
  obtain ⟨backend,others,rfl,plain',rfl⟩ := two
  refine ⟨backend,entries ++ others,?_,?_,List.filterMap_append⟩
  · simp only [extend,List.append_assoc]
  · exact List.forall_mem_append.mpr ⟨plain,plain'⟩

theorem SetsUp.record (rig : Rig) {entry : Entry} (plain : entry.setsUp = true) :
    rig.SetsUp entry.event?.toList (rig.record entry) := by
  refine ⟨rig.backend,[entry],rfl,List.forall_mem_singleton.mpr plain,?_⟩
  cases entry <;> rfl

theorem connectDirectory_setsUp (rig : Rig) (binding : DirectoryBinding) :
    rig.SetsUp [] (rig.connectDirectory binding).2 := by
  unfold connectDirectory
  split
  · exact .refl rig
  · split
    · have recorded : (Entry.bound binding).setsUp = true := rfl
      exact .record rig recorded
    · split
      · exact .refl rig
      · rename_i handle directory connected
        exact ⟨_,[],by rw [extend_nil],nofun,rfl⟩

theorem listDevices_setsUp (rig : Rig) (handle : Nat) :
    rig.SetsUp [] (rig.listDevices handle).2 := by
  unfold listDevices
  split
  · exact .refl rig
  · exact .refl rig
  · split
    · have recorded : Entry.listed.setsUp = true := rfl
      exact .record rig recorded
    · split <;> exact .refl rig

theorem does_setsUp (does : surroundings.Does rig errands last) :
    rig.SetsUp (errands.filterMap Errand.event?) last := by
  induction does with
  | nothing => exact .refl _
  | @note event rig _ _ rest ih =>
      have noted : (Entry.note event).setsUp = true := rfl
      exact (SetsUp.record rig noted).trans ih
  | @connect binding rig answer next _ _ answered rest ih =>
      have bound := connectDirectory_setsUp rig binding
      rw [show rig.connectDirectory binding = (answer,next) from answered] at bound
      exact bound.trans ih
  | @list handle rig answer next _ _ answered rest ih =>
      have listed := listDevices_setsUp rig handle
      rw [show rig.listDevices handle = (answer,next) from answered] at listed
      exact listed.trans ih

theorem does_unasked (does : surroundings.Does rig errands last)
    (unasked : ∀ errand ∈ errands, errand.asks = false) :
    last = rig.extend ((errands.filterMap Errand.event?).map .note) := by
  induction does with
  | nothing => exact (extend_nil _).symm
  | note rest ih =>
      have noted := ih (List.forall_mem_cons.mp unasked).2
      rw [noted]
      exact extend_extend [_] _
  | connect | list => cases (List.forall_mem_cons.mp unasked).1

end Rig

namespace Bench

def placed (b : Bench) : Except Fault (Option (Relay × Nat)) → Place
  | .error _ => .vacant
  | .ok none => .disabled
  | .ok (some (relay,handle)) =>
      let number := b.places.length
      .occupied { number,relay := { relay with order := b.orders number },handle }

def created (registry : String) : Except Fault (Option (Relay × Nat)) → Answer
  | .error fault => .failed fault
  | .ok none => .created registry none []
  | .ok (some (relay,_)) => .created registry (some relay.route) relay.devices

def Avoids {α : Type} (target : Nat) (action : Bench → Bench × α) : Prop :=
  ∀ b, b.place target = .disabled → (action b).1.place target = .disabled

variable {α β : Type} {b : Bench} {registry project : String} {settings : SettingsMap}
  {target other : Nat} {operation : Operation} {operations : List Operation} {command : Command}
  {commands : List Command}

theorem create_placed {rig : Rig} {result : Except Fault (Option (Relay × Nat))}
    (made : Rig.surroundings.create settings registry project b.rig = (result,rig)) :
    b.create registry project settings =
      ({ b with rig, places := b.places ++ [b.placed result] },created registry result) := by
  simp only [create]
  generalize found : StateT.run _ b.rig = answer
  cases made.symm.trans found
  match result with
  | .error fault => rfl
  | .ok none => rfl
  | .ok (some (relay,handle)) => rfl

theorem place_appended (rig : Rig) (place : Place) :
    Bench.place { b with rig, places := b.places ++ [place] } b.places.length = place := by
  simp [Bench.place]

theorem avoids_done (result : α) : Avoids target fun b => (b,result) := fun _ disabled => disabled

theorem avoids_then {first : Bench → Bench × α} {rest : α → Bench → Bench × β}
    (one : Avoids target first) (two : ∀ a, Avoids target (rest a)) :
    Avoids target fun b => rest (first b).2 (first b).1 :=
  fun b disabled => two _ _ (one b disabled)

theorem begin_places (b : Bench) (operation : Operation) :
    (b.begin operation).1.places = b.places := by
  cases operation with
  | publish target | terminate target =>
      simp only [begin]
      cases b.place target <;> rfl
  | message name | error name =>
      simp only [begin]
      cases b.listener? name with
      | none => rfl
      | some listener =>
          simp only
          cases b.place listener.relay <;> rfl

theorem avoids_begin (operation : Operation) : Avoids target (·.begin operation) := by
  intro b disabled
  rw [place,begin_places]
  exact disabled

theorem writeBack_avoids {line : Line} (disabled : b.place target = .disabled)
    (placed : b.place other = .occupied line) (w : Line.World) :
    (b.writeBack other w).place target = .disabled := by
  have differs : other ≠ target := by
    rintro rfl
    cases disabled.symm.trans placed
  rw [place,writeBack,List.getElem?_set_ne differs]
  exact disabled

theorem avoids_advance (task : Task) : Avoids target (·.advance task) := by
  intro b disabled
  cases task with
  | answered answer => exact disabled
  | running other pace =>
      simp only [advance]
      cases placed : b.place other with
      | occupied line => exact writeBack_avoids disabled placed _
      | _ => exact disabled

theorem avoids_operate (operation : Operation) : Avoids target (·.operate operation) := by
  intro b disabled
  have begun : (b.begin operation).1.place target = .disabled := avoids_begin operation b disabled
  simp only [operate]
  generalize b.begin operation = answer at begun ⊢
  obtain ⟨later,start⟩ := answer
  cases start with
  | answered answer => exact begun
  | begun other call =>
      simp only
      cases placed : later.place other with
      | occupied line => exact writeBack_avoids begun placed _
      | _ => exact begun

theorem avoids_create (registry project : String) (settings : SettingsMap) :
    Avoids target (·.create registry project settings) := by
  intro b disabled
  have inside : target < b.places.length := by
    rw [place] at disabled
    by_contra beyond
    rw [List.getElem?_eq_none (Nat.le_of_not_lt beyond)] at disabled
    cases disabled
  simp only [create_placed rfl,place]
  rw [List.getElem?_append_left inside]
  exact disabled

theorem perform_avoids (kept : command ≠ .drop target) : Avoids target (·.perform command) := by
  intro b disabled
  cases command with
  | create registry project settings => exact avoids_create registry project _ b disabled
  | operate operation => exact avoids_operate operation b disabled
  | drop other =>
      have differs : other ≠ target := fun same => kept (congrArg Command.drop same)
      change (((b.places.set other .vacant)[target]?).getD .vacant) = .disabled
      rw [List.getElem?_set_ne differs]
      exact disabled
  | concurrently operations =>
      exact concurrently_closed (P := Avoids target) avoids_then avoids_done avoids_begin
        avoids_advance operations b disabled
  | _ => exact disabled

theorem performs_avoids (disabled : b.place target = .disabled) (kept : .drop target ∉ commands) :
    (b.performs commands).place target = .disabled := by
  induction commands generalizing b with
  | nil => exact disabled
  | cons command rest ih =>
      obtain ⟨this,later⟩ := List.ne_and_not_mem_of_not_mem_cons kept
      exact ih (perform_avoids (Ne.symm this) b disabled) later

theorem begin_disabled (disabled : b.place target = .disabled)
    (asked : operation.target? = some target) : b.begin operation = (b,.answered .done) := by
  cases operation with
  | publish | terminate =>
      cases asked
      simp only [begin,disabled]
  | message | error => cases asked

theorem operate_disabled (disabled : b.place target = .disabled)
    (asked : operation.target? = some target) : b.operate operation = (b,.done) := by
  rw [operate,begin_disabled disabled asked]

-- It makes no difference whether a disabled relay is asked at all, whatever else is going on.
theorem performs_disabled (disabled : b.place target = .disabled)
    (kept : .drop target ∉ commands) :
    b.performs (commands.filter (·.target? ≠ some target)) = b.performs commands := by
  induction commands generalizing b with
  | nil => rfl
  | cons command rest ih =>
      obtain ⟨this,later⟩ := List.ne_and_not_mem_of_not_mem_cons kept
      have onward := ih (perform_avoids (Ne.symm this) b disabled) later
      by_cases asked : command.target? = some target
      · have idle : (b.perform command).1 = b := by
          cases command with
          | operate operation => exact congrArg Prod.fst (operate_disabled disabled asked)
          | _ => cases asked
        rw [List.filter_cons_of_neg (by simpa using asked)]
        rw [idle] at onward
        exact onward.trans (congrArg (·.performs rest) idle.symm)
      · rw [List.filter_cons_of_pos (by simpa using asked)]
        exact onward

theorem startAll_disabled (disabled : b.place target = .disabled)
    (asked : ∀ operation ∈ operations, operation.target? = some target) :
    b.startAll operations = (b,(operations.map fun _ => .done).map .answered) := by
  induction operations with
  | nil => rfl
  | cons operation rest ih =>
      obtain ⟨this,others⟩ := List.forall_mem_cons.mp asked
      simp only [startAll,begin_disabled disabled this,ih others,List.map_cons]

theorem advanceAll_answered (answers : List Answer) :
    b.advanceAll (answers.map .answered) = (b,answers.map .answered) := by
  induction answers with
  | nil => rfl
  | cons answer rest ih => simp only [List.map_cons,advanceAll,advance,ih]

theorem rounds_answered (answers : List Answer) (n : Nat) :
    b.rounds (answers.map .answered) n = (b,answers.map .answered) := by
  induction n with
  | zero => rfl
  | succ n ih => simp only [rounds,advanceAll_answered,ih]

theorem concurrently_disabled (disabled : b.place target = .disabled)
    (asked : ∀ operation ∈ operations, operation.target? = some target) :
    b.concurrently operations = (b,.each (operations.map fun _ => .done)) := by
  have started := startAll_disabled disabled asked
  have answers : Task.answer ∘ .answered = id := rfl
  simp only [concurrently,started,rounds_answered]
  rw [List.map_map,answers,List.map_id]

theorem status_disabled (disabled : b.place target = .disabled) :
    b.status target = some (0,[]) := by rw [status,disabled]

theorem status_created (rig : Rig) (made : Option (Relay × Nat)) :
    Bench.status { b with rig, places := b.places ++ [b.placed (.ok made)] } b.places.length =
      some (0,[]) := by
  rw [status,place_appended]
  match made with
  | none => rfl
  | some (relay,handle) => exact congrArg (fun ignored => some (0,ignored)) List.mergeSort_nil

structure SetUp (b : Bench) (errands : List (Errand Nat))
    (result : Except Fault (Option (Relay × Nat))) (later : Bench) : Prop where
  rig : b.rig.SetsUp (errands.filterMap Errand.event?) later.rig
  unasked : (∀ errand ∈ errands, errand.asks = false) →
    later.rig = b.rig.extend ((errands.filterMap Errand.event?).map .note)
  rest : later = { b with rig := later.rig, places := b.places ++ [b.placed result] }
  placed : later.place b.places.length = b.placed result
  empty : ∀ made, result = .ok made → later.status b.places.length = some (0,[])

theorem create_setUp (b : Bench) (settings : SettingsMap) (registry project : String) :
    ∃ errands result, Creation settings registry project errands result ∧
      (b.create registry project settings).2 = created registry result ∧
      b.SetUp errands result (b.create registry project settings).1 := by
  obtain ⟨errands,does,creation⟩ := Rig.surroundings.create_does settings registry project b.rig
  generalize made : Rig.surroundings.create settings registry project b.rig = answer at does creation
  obtain ⟨result,rig⟩ := answer
  rw [create_placed made]
  refine ⟨errands,result,creation,rfl,Rig.does_setsUp does,Rig.does_unasked does,rfl,
    place_appended _ _,?_⟩
  rintro line rfl
  exact status_created rig line

-- How the creation of a relay comes out is settled by its keys, then by what they say, then by the
-- directory, and by nobody else. One that comes out disabled is never heard of again.
theorem creation_outcome :
    (∀ {ω δ : Type} (c : Surroundings ω δ) (settings : SettingsMap) (registry project : String)
      (w : ω), ∃ errands,
        c.recorded.create settings registry project (w,[]) =
          ((c.create settings registry project w).1,(c.create settings registry project w).2,
            errands) ∧
        Creation settings registry project errands (c.create settings registry project w).1 ∧
        Decided settings registry errands (c.create settings registry project w).1) ∧
    (∀ (b : Bench) (settings : SettingsMap) (registry project : String), ∃ errands result,
      Creation settings registry project errands result ∧
      (b.create registry project settings).2 = created registry result ∧
      b.SetUp errands result (b.create registry project settings).1) ∧
    ∀ (b : Bench) (target : Nat), b.place target = .disabled →
      ∀ commands, .drop target ∉ commands →
        (b.performs commands).place target = .disabled ∧
        (b.performs commands).status target = some (0,[]) ∧
        b.performs (commands.filter (·.target? ≠ some target)) = b.performs commands ∧
        (∀ operation, operation.target? = some target →
          (b.performs commands).begin operation = (b.performs commands,.answered .done) ∧
          (b.performs commands).operate operation = (b.performs commands,.done)) ∧
        ∀ operations, (∀ operation ∈ operations, operation.target? = some target) →
          (b.performs commands).concurrently operations =
            (b.performs commands,.each (operations.map fun _ => .done)) := by
  refine ⟨?_,create_setUp,?_⟩
  · intro ω δ c settings registry project w
    obtain ⟨errands,same,creation⟩ := c.create_recorded settings registry project w
    exact ⟨errands,same,creation,creation.decided⟩
  · intro b target disabled commands kept
    have still := performs_avoids disabled kept
    exact ⟨still,status_disabled still,performs_disabled disabled kept,
      fun operation asked => ⟨begin_disabled still asked,operate_disabled still asked⟩,
      fun operations asked => concurrently_disabled still asked⟩

def unrouted : Bench where
  settings := {}
  rig := { backend := .recording {} false }

theorem creation_outcome_keyless :
    (Rig.surroundings.create {} "registry" "project" unrouted.rig).1 = .ok none ∧
    ∃ b, unrouted.create "registry" "project" {} = (b,.created "registry" none []) ∧
      b.place 0 = .disabled ∧
      b.operate (.publish 0 "device" none "data") = (b,.done) ∧
      b.performs [.operate (.publish 0 "device" none "data"),.operate (.terminate 0)] = b ∧
      b.concurrently [.terminate 0,.terminate 0] = (b,.each [.done,.done]) := by
  obtain ⟨decides,_,rests⟩ := creation_outcome
  obtain ⟨_,_,_,decided⟩ := decides Rig.surroundings {} "registry" "project" unrouted.rig
  have disabled : (unrouted.create "registry" "project" {}).1.place 0 = .disabled := rfl
  refine ⟨decided.disabled.mpr (.inl (Dict.get?_empty _)),_,rfl,disabled,?_,?_,?_⟩
  · obtain ⟨_,_,_,idle,_⟩ := rests _ 0 disabled [] List.not_mem_nil
    exact (idle (.publish 0 "device" none "data") rfl).2
  · obtain ⟨_,_,same,_⟩ := rests _ 0 disabled
      [.operate (.publish 0 "device" none "data"),.operate (.terminate 0)] (by simp)
    exact same.symm
  · obtain ⟨_,_,_,_,idle⟩ := rests _ 0 disabled [] List.not_mem_nil
    exact idle [.terminate 0,.terminate 0] (by simp [Operation.target?])

end Bench
end RegistryRelay
