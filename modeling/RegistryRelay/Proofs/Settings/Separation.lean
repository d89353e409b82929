import Mathlib.Data.List.Basic
import RegistryRelay.Relay

namespace RegistryRelay.Settings

def keys (registry : String) : List String := [targetKey registry,regionKey registry]

def Agree (registry : String) (settings settings' : SettingsMap) : Prop :=
  ∀ key ∈ keys registry, settings.get? key = settings'.get? key

def edited (settings : SettingsMap) (edits : List (String × Option String)) : SettingsMap :=
  edits.foldl (fun settings edit => settings.set edit.1 edit.2) settings

def Foreign (registry : String) (edits : List (String × Option String)) : Prop :=
  ∀ edit ∈ edits, ∃ other, other ≠ registry ∧ edit.1 ∈ keys other

variable {registry other key front back : String} {settings settings' : SettingsMap}
  {edits : List (String × Option String)}

-- What stands between two fixed ends can be told, even if it looks like one of the ends.
theorem enclosed_inj (same : front ++ registry ++ back = front ++ other ++ back) :
    registry = other := by
  have spelled := congrArg String.toList same
  simp only [String.toList_append] at spelled
  exact String.toList_inj.mp (List.append_cancel_left (List.append_cancel_right spelled))

theorem targetKey_inj (same : targetKey registry = targetKey other) : registry = other :=
  enclosed_inj same

theorem regionKey_inj (same : regionKey registry = regionKey other) : registry = other :=
  enclosed_inj same

-- The two endings are equally long, so a key has one of them at most.
theorem targetKey_ne_regionKey (registry other : String) : targetKey registry ≠ regionKey other := by
  intro same
  have spelled := congrArg String.toList same
  simp only [targetKey,regionKey,String.toList_append] at spelled
  have even : "_target".toList.length = "_region".toList.length := by decide
  exact absurd (List.append_inj_right' spelled even) (by decide)

theorem keys_disjoint (apart : registry ≠ other) : List.Disjoint (keys registry) (keys other) := by
  intro key mine theirs
  rcases List.mem_pair.mp mine with rfl | rfl
  · rcases List.mem_pair.mp theirs with same | same
    · exact apart (targetKey_inj same)
    · exact targetKey_ne_regionKey _ _ same
  · rcases List.mem_pair.mp theirs with same | same
    · exact targetKey_ne_regionKey _ _ same.symm
    · exact apart (regionKey_inj same)

theorem get?_edited (untouched : ∀ edit ∈ edits, edit.1 ≠ key) :
    (edited settings edits).get? key = settings.get? key := by
  induction edits generalizing settings with
  | nil => rfl
  | cons edit rest ih =>
      obtain ⟨first,others⟩ := List.forall_mem_cons.mp untouched
      have onward : (edited (settings.set edit.1 edit.2) rest).get? key = _ := ih others
      rw [Dict.get?_set,if_neg first.symm] at onward
      exact onward

theorem agree_edited (foreign : Foreign registry edits) (settings : SettingsMap) :
    Agree registry settings (edited settings edits) := by
  intro key mine
  have untouched : ∀ edit ∈ edits, edit.1 ≠ key := by
    intro edit member same
    obtain ⟨other,apart,theirs⟩ := foreign edit member
    rw [same] at theirs
    exact keys_disjoint apart theirs mine
  rw [get?_edited untouched]

theorem Agree.find (agree : Agree registry settings settings') :
    Route.find settings registry = Route.find settings' registry := by
  have target := agree (targetKey registry) List.mem_cons_self
  have region := agree (regionKey registry) (List.mem_cons_of_mem _ List.mem_cons_self)
  rw [Route.find,Route.find,target,region]

theorem Agree.create {m : Type → Type} {δ : Type} [Monad m]
    (agree : Agree registry settings settings') (note : Event → m Unit)
    (connect : DirectoryBinding → m (Except Fault δ))
    (list : δ → m (Except Fault (List String))) (project : String) :
    Relay.create note connect list settings registry project =
      Relay.create note connect list settings' registry project := by
  rw [Relay.create,Relay.create,agree.find]

end RegistryRelay.Settings
