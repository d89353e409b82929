import RegistryRelay.Proofs.Relay.Setup
import RegistryRelay.Proofs.Text.Order

namespace RegistryRelay

-- The same surroundings, but a directory may give the members of its set in another order, each
-- time it is asked.
def Surroundings.reordered {ω δ : Type} (c : Surroundings ω δ)
    (order : δ → ω → List String → List String) : Surroundings ω δ :=
  { c with list := fun directory w =>
      let (answer,next) := c.list directory w
      (answer.map (order directory w),next) }

def Announces (registry : String) {δ : Type} (errands : List (Errand δ)) (listed : List String) :
    Prop :=
  ∀ iteration : List String, iteration.Nodup → (∀ device, device ∈ iteration ↔ device ∈ listed) →
    ∀ name text, .note (.devicesLoaded name text) ∈ errands ↔
      name = registry ∧ text = renderDevices iteration

variable {settings : SettingsMap} {registry project : String} {ω δ : Type}
  {errands : List (Errand δ)} {result : Except Fault (Option (Relay × δ))} {listed : List String}

theorem renderDevices_sorted (devices : List String) : ∃ sorted : List String,
    sorted.Perm devices ∧ sorted.Pairwise (fun one two => utf8 one ≤ utf8 two) ∧
      renderDevices devices = ", ".intercalate sorted :=
  ⟨ascending devices,ascending_perm devices,(ascending_sorted devices).imp utf8_le_iff.mpr,rfl⟩

theorem renderDevices_congr {devices others : List String} (same : others.Perm devices) :
    renderDevices others = renderDevices devices := by
  rw [renderDevices,renderDevices,ascending_congr same]

theorem renderDevices_ascendingSet {iteration : List String} (once : iteration.Nodup)
    (same : ∀ device, device ∈ iteration ↔ device ∈ listed) :
    renderDevices (ascendingSet listed) = renderDevices iteration := by
  rw [ascendingSet_eq once same]
  exact renderDevices_congr (ascending_perm iteration)

theorem Creation.announces (creation : Creation settings registry project errands result)
    {directory : δ} (asked : .list directory (.ok listed) ∈ errands) :
    Announces registry errands listed := by
  intro iteration once same name text
  cases creation with
  | created routes complete =>
      obtain ⟨rfl,rfl⟩ : directory = _ ∧ listed = _ := by simpa using asked
      rw [renderDevices_ascendingSet once same]
      simp
  | _ => simp at asked

theorem Creation.asked (creation : Creation settings registry project errands result)
    {name text : String} (noted : .note (.devicesLoaded name text) ∈ errands) :
    ∃ directory listed, .list directory (.ok listed) ∈ errands := by
  cases creation with
  | created routes complete => exact ⟨_,_,by simp; exact ⟨rfl,rfl⟩⟩
  | _ => simp at noted

namespace Surroundings

theorem list_reordered {c : Surroundings ω δ} {order : δ → ω → List String → List String}
    {directory : δ} {w next : ω} {answer : Except Fault (List String)}
    (found : c.list directory w = (answer,next)) :
    (c.reordered order).list directory w = (answer.map (order directory w),next) := by
  simp only [reordered,found]

theorem create_reordered (c : Surroundings ω δ) (settings : SettingsMap)
    (registry project : String) (w : ω) {order : δ → ω → List String → List String}
    (same : ∀ directory w listed device, device ∈ order directory w listed ↔ device ∈ listed) :
    (c.reordered order).create settings registry project w =
      c.create settings registry project w := by
  obtain ⟨errands,does,creation⟩ := c.create_does settings registry project w
  generalize c.create settings registry project w = made at does creation ⊢
  obtain ⟨result,last⟩ := made
  change c.Does w errands last at does
  cases creation with
  | noTarget missing =>
      match does with
      | .note (.note (.note .nothing)) =>
          exact create_sole (.note (.note (.note .nothing))) (.noTarget missing)
  | noRegion found missing =>
      match does with
      | .note (.note (.note .nothing)) =>
          exact create_sole (.note (.note (.note .nothing))) (.noRegion found missing)
  | incomplete routes empty =>
      match does with
      | .note .nothing => exact create_sole (.note .nothing) (.incomplete routes empty)
  | refused routes complete =>
      match does with
      | .note (.note (.connect connected .nothing)) =>
          exact create_sole (.note (.note (.connect connected .nothing)))
            (.refused routes complete)
  | unlisted routes complete =>
      match does with
      | .note (.note (.connect connected (.list found .nothing))) =>
          exact create_sole (.note (.note (.connect connected
            (.list (list_reordered found) .nothing)))) (.unlisted routes complete)
  | @created route directory listed routes complete =>
      match does with
      | .note (.note (.connect connected (.list found (.note (.note .nothing))))) =>
          have sole := create_sole (c := c.reordered order) (.note (.note (.connect connected
            (.list (list_reordered found) (.note (.note .nothing)))))) (.created routes complete)
          rwa [ascendingSet_congr (same directory _ listed)] at sole

end Surroundings

theorem device_list_canonical (devices : List String) :
    (∃ sorted : List String, sorted.Perm devices ∧
      sorted.Pairwise (fun one two => utf8 one ≤ utf8 two) ∧
      renderDevices devices = ", ".intercalate sorted) ∧
    (∀ others : List String, others.Perm devices → renderDevices others = renderDevices devices) ∧
    ∀ (ω δ : Type) (c : Surroundings ω δ) (settings : SettingsMap) (registry project : String)
      (w : ω),
      (∀ order : δ → ω → List String → List String,
        (∀ directory w listed device, device ∈ order directory w listed ↔ device ∈ listed) →
        (c.reordered order).create settings registry project w =
          c.create settings registry project w) ∧
      ∃ errands, c.recorded.create settings registry project (w,[]) =
          ((c.create settings registry project w).1,(c.create settings registry project w).2,
            errands) ∧
        (∀ directory listed, .list directory (.ok listed) ∈ errands →
          Announces registry errands listed) ∧
        ∀ name text, .note (.devicesLoaded name text) ∈ errands →
          ∃ directory listed, .list directory (.ok listed) ∈ errands := by
  refine ⟨renderDevices_sorted devices,fun others same => renderDevices_congr same,?_⟩
  intro ω δ c settings registry project w
  obtain ⟨errands,recorded,creation⟩ := c.create_recorded settings registry project w
  refine ⟨fun order same => c.create_reordered settings registry project w same,errands,recorded,
    ?_,fun name text noted => creation.asked noted⟩
  exact fun directory listed asked => creation.announces asked

theorem device_list_canonical_turned :
    renderDevices ["é","b","a"] = renderDevices ["a","b","é"] ∧
    ∀ settings registry project,
      ((⟨fun event w => w ++ [event],fun _ w => (.ok (),w),fun _ w => (.ok ["b","a"],w)⟩ :
          Surroundings (List Event) Unit).reordered fun _ _ listed => listed.reverse).create
        settings registry project [] =
      (⟨fun event w => w ++ [event],fun _ w => (.ok (),w),fun _ w => (.ok ["b","a"],w)⟩ :
          Surroundings (List Event) Unit).create settings registry project [] := by
  obtain ⟨_,same,created⟩ := device_list_canonical ["a","b","é"]
  refine ⟨same _ (by decide),fun settings registry project => ?_⟩
  exact (created _ _ _ settings registry project []).1 _ fun _ _ _ _ => List.mem_reverse

end RegistryRelay
