import RegistryRelay.Proofs.Directory.Archive
import RegistryRelay.Relay

namespace RegistryRelay

inductive Errand (δ : Type) where
  | note (event : Event)
  | connect (binding : DirectoryBinding) (answer : Except Fault δ)
  | list (directory : δ) (answer : Except Fault (List String))

namespace Errand
variable {δ : Type}

@[simp] def asks : Errand δ → Bool
  | .note _ => false
  | _ => true

@[simp] def fault? : Errand δ → Option Fault
  | .connect _ (.error fault) => some fault
  | .list _ (.error fault) => some fault
  | _ => none

@[simp] def event? : Errand δ → Option Event
  | .note event => some event
  | _ => none

@[simp] def names (errands : List (Errand δ)) : List EventName :=
  (errands.filterMap event?).map Event.name

end Errand

-- Whoever does the errands. What they keep in mind, and what they do besides answering, is their
-- own affair.
structure Surroundings (ω δ : Type) where
  note : Event → ω → ω
  connect : DirectoryBinding → ω → Except Fault δ × ω
  list : δ → ω → Except Fault (List String) × ω

namespace Surroundings

def create (c : Surroundings ω δ) (settings : SettingsMap) (registry project : String) :
    StateM ω (Except Fault (Option (Relay × δ))) :=
  Relay.create (fun event => modify (c.note event)) c.connect c.list settings registry project

inductive Does (c : Surroundings ω δ) : ω → List (Errand δ) → ω → Prop where
  | nothing : Does c w [] w
  | note (rest : Does c (c.note event w) errands last) :
      Does c w (.note event :: errands) last
  | connect (answered : c.connect binding w = (answer,next)) (rest : Does c next errands last) :
      Does c w (.connect binding answer :: errands) last
  | list (answered : c.list directory w = (answer,next)) (rest : Does c next errands last) :
      Does c w (.list directory answer :: errands) last

def recorded (c : Surroundings ω δ) : Surroundings (ω × List (Errand δ)) δ where
  note event w := (c.note event w.1,w.2 ++ [.note event])
  connect binding w :=
    let (answer,next) := c.connect binding w.1
    (answer,next,w.2 ++ [.connect binding answer])
  list directory w :=
    let (answer,next) := c.list directory w.1
    (answer,next,w.2 ++ [.list directory answer])

variable {ω δ : Type} {c : Surroundings ω δ} {w last : ω × List (Errand δ)}
  {errands : List (Errand δ)}

theorem Does.recorded (does : c.recorded.Does w errands last) :
    c.Does w.1 errands last.1 ∧ last.2 = w.2 ++ errands := by
  induction does with
  | nothing => exact ⟨.nothing,(List.append_nil _).symm⟩
  | note rest ih =>
      obtain ⟨done,written⟩ := ih
      exact ⟨.note done,by rw [written]; exact List.append_assoc _ _ _⟩
  | connect answered rest ih =>
      obtain ⟨done,written⟩ := ih
      cases answered
      exact ⟨.connect rfl done,by rw [written]; exact List.append_assoc _ _ _⟩
  | list answered rest ih =>
      obtain ⟨done,written⟩ := ih
      cases answered
      exact ⟨.list rfl done,by rw [written]; exact List.append_assoc _ _ _⟩

end Surroundings

def Settings.Routes (settings : SettingsMap) (registry : String) (route : Route) : Prop :=
  settings.get? (targetKey registry) = some route.project ∧
    settings.get? (regionKey registry) = some route.region

namespace Route

-- The first value that is empty, by the name it goes by. The region is asked for in the name of
-- the source, so it is never missed in the name of the destination.
def firstEmpty? (route : Route) (registry : String) : Option String :=
  if route.region = "" then some "cloud config cloud_region"
  else if registry = "" then some "cloud config registry_id"
  else if route.project = "" then some "proxy config destination_project_id"
  else none

def Incomplete (route : Route) (registry : String) : Prop :=
  route.region = "" ∨ registry = "" ∨ route.project = ""

variable {settings : SettingsMap} {registry project : String} {route : Route}

theorem firstEmpty?_eq_none_iff :
    route.firstEmpty? registry = none ↔ ¬route.Incomplete registry := by
  unfold firstEmpty? Incomplete
  split
  · simp_all
  · split
    · simp_all
    · split <;> simp_all

theorem firstEmpty?_destination {name : String} (empty : route.firstEmpty? registry = some name) :
    name ++ " not defined" ≠ "proxy config destination_region not defined" := by
  unfold firstEmpty? at empty
  split at empty
  · cases empty
    decide
  · split at empty
    · cases empty
      decide
    · split at empty
      · cases empty
        decide
      · cases empty

theorem undefined?_eq (route : Route) (project registry : String) :
    route.undefined? (route.source project registry) =
      (route.firstEmpty? registry).map fun name => .configuration (name ++ " not defined") := by
  unfold undefined? required source firstEmpty?
  by_cases region : route.region = ""
  · simp [region]
  · by_cases named : registry = ""
    · simp [region,named]
    · by_cases target : route.project = ""
      · simp [region,named,target]
      · simp [region,named,target]

theorem find_routes (routes : Settings.Routes settings registry route) :
    find settings registry = .ok route := by
  simp only [find,routes.1,routes.2]

end Route

inductive Creation (settings : SettingsMap) (registry project : String) {δ : Type} :
    List (Errand δ) → Except Fault (Option (Relay × δ)) → Prop where
  | noTarget (missing : settings.get? (Settings.targetKey registry) = none) :
      Creation settings registry project
        [.note (.createStart registry),
          .note (.targetKeyMissing registry (Settings.targetKey registry)),
          .note (.disabled registry)] (.ok none)
  | noRegion (found : settings.get? (Settings.targetKey registry) = some target)
      (missing : settings.get? (Settings.regionKey registry) = none) :
      Creation settings registry project
        [.note (.createStart registry),
          .note (.regionKeyMissing registry (Settings.regionKey registry)),
          .note (.disabled registry)] (.ok none)
  | incomplete (routes : Settings.Routes settings registry route)
      (empty : route.firstEmpty? registry = some name) :
      Creation settings registry project [.note (.createStart registry)]
        (.error (.configuration (name ++ " not defined")))
  | refused (routes : Settings.Routes settings registry route)
      (complete : route.firstEmpty? registry = none) :
      Creation settings registry project
        [.note (.createStart registry),
          .note (.createPushing registry route.project route.region),
          .connect ⟨project,registry,route.region⟩ (.error fault)] (.error fault)
  | unlisted (routes : Settings.Routes settings registry route)
      (complete : route.firstEmpty? registry = none) :
      Creation settings registry project
        [.note (.createStart registry),
          .note (.createPushing registry route.project route.region),
          .connect ⟨project,registry,route.region⟩ (.ok directory),
          .list directory (.error fault)] (.error fault)
  | created (routes : Settings.Routes settings registry route)
      (complete : route.firstEmpty? registry = none) :
      Creation settings registry project
        [.note (.createStart registry),
          .note (.createPushing registry route.project route.region),
          .connect ⟨project,registry,route.region⟩ (.ok directory),
          .list directory (.ok listed),
          .note (.devicesLoaded registry (renderDevices (ascendingSet listed))),
          .note (.createOk registry)]
        (.ok (some ({ registry,route,devices := ascendingSet listed },directory)))

namespace Surroundings

variable {ω δ : Type} {c : Surroundings ω δ} {settings : SettingsMap} {registry project : String}
  {w last : ω} {errands : List (Errand δ)} {result : Except Fault (Option (Relay × δ))}
  {route : Route}

theorem bind_run {α β : Type} (action : StateM ω α) (next : α → StateM ω β) (w : ω) :
    (action >>= next) w = next (action w).1 (action w).2 := rfl

theorem modify_run (change : ω → ω) (w : ω) :
    (modify change : StateM ω Unit) w = ((),change w) := rfl

theorem create_keyless {missing : Event} (found : Route.find settings registry = .error missing) :
    c.create settings registry project w =
      (.ok none,
        c.note (.disabled registry) (c.note missing (c.note (.createStart registry) w))) := by
  rw [create,Relay.create,found]
  rfl

theorem create_incomplete (routes : Settings.Routes settings registry route) {name : String}
    (empty : route.firstEmpty? registry = some name) : c.create settings registry project w =
      (.error (.configuration (name ++ " not defined")),c.note (.createStart registry) w) := by
  have refused : route.undefined? (route.source project registry) =
      some (.configuration (name ++ " not defined")) := by
    rw [Route.undefined?_eq,empty,Option.map_some]
  rw [create,Relay.create,Route.find_routes routes]
  simp only [refused]
  rfl

theorem create_complete (routes : Settings.Routes settings registry route)
    (complete : route.firstEmpty? registry = none) : c.create settings registry project w =
      match c.connect ⟨project,registry,route.region⟩
          (c.note (.createPushing registry route.project route.region)
            (c.note (.createStart registry) w)) with
      | (.error fault,next) => (.error fault,next)
      | (.ok directory,next) =>
          match c.list directory next with
          | (.error fault,next) => (.error fault,next)
          | (.ok listed,next) =>
              (.ok (some ({ registry,route,devices := ascendingSet listed },directory)),
                c.note (.createOk registry)
                  (c.note (.devicesLoaded registry (renderDevices (ascendingSet listed)))
                    next)) := by
  have accepted : route.undefined? (route.source project registry) = none := by
    rw [Route.undefined?_eq,complete,Option.map_none]
  rw [create,Relay.create,Route.find_routes routes]
  simp only [accepted,bind_run,modify_run]
  change _ = match c.connect (route.source project registry) _ with
    | (.error fault,next) => _
    | (.ok directory,next) => _
  generalize c.connect (route.source project registry) _ = connected
  obtain ⟨fault | directory,next⟩ := connected
  · rfl
  · simp only [bind_run]
    generalize c.list directory next = found
    obtain ⟨fault | listed,later⟩ := found <;> rfl

theorem create_does (c : Surroundings ω δ) (settings : SettingsMap) (registry project : String)
    (w : ω) : ∃ errands, c.Does w errands (c.create settings registry project w).2 ∧
      Creation settings registry project errands (c.create settings registry project w).1 := by
  cases target : settings.get? (Settings.targetKey registry) with
  | none =>
      have found : Route.find settings registry =
          .error (.targetKeyMissing registry (Settings.targetKey registry)) := by
        simp only [Route.find,target]
      rw [create_keyless found]
      exact ⟨_,.note (.note (.note .nothing)),.noTarget target⟩
  | some destination =>
      cases region : settings.get? (Settings.regionKey registry) with
      | none =>
          have found : Route.find settings registry =
              .error (.regionKeyMissing registry (Settings.regionKey registry)) := by
            simp only [Route.find,target,region]
          rw [create_keyless found]
          exact ⟨_,.note (.note (.note .nothing)),.noRegion target region⟩
      | some place =>
          have routes : Settings.Routes settings registry ⟨destination,place⟩ := ⟨target,region⟩
          cases complete : Route.firstEmpty? ⟨destination,place⟩ registry with
          | some name =>
              rw [create_incomplete routes complete]
              exact ⟨_,.note .nothing,.incomplete routes complete⟩
          | none =>
              rw [create_complete routes complete]
              split
              · rename_i fault next connected
                exact ⟨_,.note (.note (.connect connected .nothing)),.refused routes complete⟩
              · rename_i directory next connected
                split
                · rename_i fault last found
                  exact ⟨_,.note (.note (.connect connected (.list found .nothing))),
                    .unlisted routes complete⟩
                · rename_i listed last found
                  exact ⟨_,.note (.note (.connect connected (.list found
                    (.note (.note .nothing))))),.created routes complete⟩

theorem create_sole (does : c.Does w errands last)
    (creation : Creation settings registry project errands result) :
    c.create settings registry project w = (result,last) := by
  cases creation with
  | noTarget missing =>
      match does with
      | .note (.note (.note .nothing)) => exact create_keyless (by simp only [Route.find,missing])
  | noRegion found missing =>
      match does with
      | .note (.note (.note .nothing)) =>
          exact create_keyless (by simp only [Route.find,found,missing])
  | incomplete routes empty =>
      match does with
      | .note .nothing => exact create_incomplete routes empty
  | refused routes complete =>
      match does with
      | .note (.note (.connect connected .nothing)) =>
          rw [create_complete routes complete,connected]
  | unlisted routes complete =>
      match does with
      | .note (.note (.connect connected (.list found .nothing))) =>
          simp only [create_complete routes complete,connected,found]
  | created routes complete =>
      match does with
      | .note (.note (.connect connected (.list found (.note (.note .nothing))))) =>
          simp only [create_complete routes complete,connected,found]

theorem create_recorded (c : Surroundings ω δ) (settings : SettingsMap) (registry project : String)
    (w : ω) : ∃ errands, c.recorded.create settings registry project (w,[]) =
        ((c.create settings registry project w).1,(c.create settings registry project w).2,errands) ∧
      Creation settings registry project errands (c.create settings registry project w).1 := by
  obtain ⟨errands,does,creation⟩ := c.recorded.create_does settings registry project (w,[])
  obtain ⟨done,written⟩ := does.recorded
  have same := create_sole done creation
  refine ⟨errands,Prod.ext ?_ (Prod.ext ?_ written),?_⟩
  · rw [same]
  · rw [same]
  · rw [same]
    exact creation

end Surroundings

def Settings.Keyless (settings : SettingsMap) (registry : String) : Prop :=
  settings.get? (targetKey registry) = none ∨ settings.get? (regionKey registry) = none

-- What a creation comes to. Whether anybody is asked is a matter of the settings alone, and from
-- then on it is up to those who are asked, who may well refuse in the name of a configuration.
structure Decided (settings : SettingsMap) (registry : String) {δ : Type}
    (errands : List (Errand δ)) (result : Except Fault (Option (Relay × δ))) : Prop where
  disabled : result = .ok none ↔ Settings.Keyless settings registry
  noted : ∀ name, name = .targetDisabled ∨ name = .targetConfigKeyMissing →
    (Settings.Keyless settings registry → (Errand.names errands).count name = 1) ∧
    (¬Settings.Keyless settings registry → name ∉ Errand.names errands)
  incomplete : ((∃ text, result = .error (.configuration text)) ∧
      ∀ errand ∈ errands, errand.asks = false) ↔
    ∃ route, Settings.Routes settings registry route ∧ route.Incomplete registry
  own : (∀ errand ∈ errands, ∀ text, errand.fault? ≠ some (.configuration text)) →
    ((∃ text, result = .error (.configuration text)) ↔
      ∃ route, Settings.Routes settings registry route ∧ route.Incomplete registry)
  named : ∀ name, (result = .error (.configuration (name ++ " not defined")) ∧
      ∀ errand ∈ errands, errand.asks = false) ↔
    ∃ route, Settings.Routes settings registry route ∧ route.firstEmpty? registry = some name
  nameless : result = .error (.configuration "proxy config destination_region not defined") →
    ∃ errand ∈ errands, errand.asks = true
  asked : (∃ errand ∈ errands, errand.asks = true) ↔
    ∃ route, Settings.Routes settings registry route ∧ ¬route.Incomplete registry
  handed : ∀ fault, result = .error fault → (∃ errand ∈ errands, errand.asks = true) →
    ∃ errand ∈ errands, errand.fault? = some fault
  enabled : (∃ made, result = .ok (some made)) ↔
    (∃ route, Settings.Routes settings registry route ∧ ¬route.Incomplete registry) ∧
      ∀ errand ∈ errands, errand.fault? = none
  scope : ∀ relay directory, result = .ok (some (relay,directory)) →
    ∃ listed, .list directory (.ok listed) ∈ errands ∧ relay.registry = registry ∧
      Settings.Routes settings registry relay.route ∧
      ∀ device, device ∈ relay.devices ↔ device ∈ listed

variable {settings : SettingsMap} {registry project : String} {route : Route} {δ : Type}
  {errands : List (Errand δ)} {result : Except Fault (Option (Relay × δ))}

theorem Settings.Routes.keyed (routes : Settings.Routes settings registry route) :
    ¬Settings.Keyless settings registry := by
  simp [Settings.Keyless,routes.1,routes.2]

theorem Settings.Keyless.unrouted (keyless : Settings.Keyless settings registry)
    (P : Route → Prop) : ¬∃ route, Settings.Routes settings registry route ∧ P route :=
  fun found => found.choose_spec.1.keyed keyless

theorem Settings.Routes.exists_iff (routes : Settings.Routes settings registry route)
    (P : Route → Prop) :
    (∃ route, Settings.Routes settings registry route ∧ P route) ↔ P route := by
  refine ⟨fun found => ?_,fun holds => ⟨route,routes,holds⟩⟩
  obtain ⟨other,there,holds⟩ := found
  have project : other.project = route.project := Option.some.inj (there.1.symm.trans routes.1)
  have region : other.region = route.region := Option.some.inj (there.2.symm.trans routes.2)
  obtain ⟨_,_⟩ := other
  cases project
  cases region
  exact holds

theorem Creation.decided (creation : Creation settings registry project errands result) :
    Decided settings registry errands result := by
  cases creation with
  | noTarget missing =>
      have keyless : Settings.Keyless settings registry := .inl missing
      constructor
      case scope => nofun
      all_goals simp [keyless,keyless.unrouted,Event.name]
  | noRegion found missing =>
      have keyless : Settings.Keyless settings registry := .inr missing
      constructor
      case scope => nofun
      all_goals simp [keyless,keyless.unrouted,Event.name]
  | @incomplete route name routes empty =>
      have gap : route.Incomplete registry :=
        Classical.byContradiction fun whole =>
          nomatch empty.symm.trans (Route.firstEmpty?_eq_none_iff.mpr whole)
      constructor
      case scope => nofun
      case nameless =>
        intro same
        simp only [Except.error.injEq,Fault.configuration.injEq] at same
        exact (Route.firstEmpty?_destination empty same).elim
      all_goals simp [routes.keyed,routes.exists_iff,empty,gap,Event.name]
  | @refused route fault routes complete =>
      have whole := Route.firstEmpty?_eq_none_iff.mp complete
      constructor
      case scope => nofun
      all_goals simp [routes.keyed,routes.exists_iff,complete,whole,Event.name]
  | @unlisted route directory fault routes complete =>
      have whole := Route.firstEmpty?_eq_none_iff.mp complete
      constructor
      case scope => nofun
      all_goals simp [routes.keyed,routes.exists_iff,complete,whole,Event.name]
  | @created route directory listed routes complete =>
      have whole := Route.firstEmpty?_eq_none_iff.mp complete
      constructor
      case scope =>
        rintro _ _ ⟨⟩
        refine ⟨listed,?_,rfl,routes,fun device => mem_ascendingSet⟩
        simp
      all_goals simp [routes.keyed,routes.exists_iff,complete,whole,Event.name]

end RegistryRelay
