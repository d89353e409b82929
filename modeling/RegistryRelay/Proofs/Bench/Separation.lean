import RegistryRelay.Proofs.Bench.Sequence
import RegistryRelay.Proofs.Settings.Separation

namespace RegistryRelay
open Settings

namespace Bench

def under (b : Bench) (settings : SettingsMap) : Bench := { b with settings }

def Heedless {α : Type} (action : Bench → Bench × α) : Prop :=
  ∀ b settings, action (b.under settings) = ((action b).1.under settings,(action b).2)

variable {α β : Type} {b : Bench} {settings : SettingsMap} {registry : String}
  {commands : List (Nat × Command)}

theorem heedless_done (result : α) : Heedless fun b => (b,result) := fun _ _ => rfl

theorem heedless_then {first : Bench → Bench × α} {rest : α → Bench → Bench × β}
    (one : Heedless first) (two : ∀ a, Heedless (rest a)) :
    Heedless fun b => rest (first b).2 (first b).1 := by
  intro b settings
  simp only [one b settings]
  exact two _ _ _

theorem under_place (target : Nat) : (b.under settings).place target = b.place target := rfl

theorem under_listener (name : ListenerName) :
    (b.under settings).listener? name = b.listener? name := by cases name <;> rfl

theorem heedless_begin (operation : Operation) : Heedless (·.begin operation) := by
  intro b settings
  cases operation with
  | publish target | terminate target =>
      simp only [begin,under_place]
      cases b.place target <;> rfl
  | message name | error name =>
      simp only [begin,under_listener]
      cases b.listener? name with
      | none => rfl
      | some listener =>
          simp only [under_place]
          cases b.place listener.relay <;> rfl

theorem heedless_advance (task : Task) : Heedless (·.advance task) := by
  intro b settings
  cases task with
  | answered answer => rfl
  | running target pace =>
      simp only [advance,under_place]
      cases b.place target <;> rfl

theorem heedless_operate (operation : Operation) : Heedless (·.operate operation) := by
  intro b settings
  simp only [operate,heedless_begin operation b settings]
  obtain ⟨begun,start⟩ := b.begin operation
  cases start with
  | answered answer => rfl
  | begun target call =>
      simp only [under_place]
      cases begun.place target <;> rfl

theorem heedless_create (registry project : String) (own : SettingsMap) :
    Heedless (·.create registry project own) := by
  intro b settings
  simp only [create,under]
  generalize StateT.run _ b.rig = answer
  obtain ⟨result,rig⟩ := answer
  match result with
  | .error fault => rfl
  | .ok none => rfl
  | .ok (some (relay,handle)) => rfl

-- Relays that are created under the settings of the bench are the only ones to notice other
-- settings, and they do not where both say the same about their registry.
theorem perform_under {command : Command}
    (agree : ∀ registry project, command = .create registry project none →
      Agree registry b.settings settings) :
    (b.under settings).perform command =
      ((b.perform command).1.under settings,(b.perform command).2) := by
  cases command with
  | create registry project own =>
      cases own with
      | some own => exact heedless_create registry project own b settings
      | none =>
          have same : ((b.under settings).create registry project settings) =
              (b.under settings).create registry project b.settings := by
            rw [create,create,(agree registry project rfl).create]
          exact same.trans (heedless_create registry project b.settings b settings)
  | operate operation =>
      have operates := heedless_operate operation b settings
      exact operates
  | concurrently operations =>
      exact concurrently_closed (P := Heedless) heedless_then heedless_done heedless_begin
        heedless_advance operations b settings
  | _ => rfl

theorem perform_settings (b : Bench) (command : Command) :
    (b.perform command).1.settings = b.settings := by
  have same : (b.under b.settings).perform command = _ := perform_under fun _ _ _ _ _ => rfl
  exact congrArg (fun result => result.1.settings) same

theorem observe_under {target : Nat} {command : Command}
    (agree : ∀ registry project, command = .create registry project none →
      Agree registry b.settings settings) :
    (b.under settings).observe target command =
      ((b.observe target command).1.under settings,(b.observe target command).2) := by
  simp only [observe,perform_under agree]
  rfl

theorem observeAll_under
    (agree : ∀ target registry project, (target,.create registry project none) ∈ commands →
      Agree registry b.settings settings) :
    (b.under settings).observeAll commands =
      ((b.observeAll commands).1.under settings,(b.observeAll commands).2) := by
  induction commands generalizing b with
  | nil => rfl
  | cons entry rest ih =>
      obtain ⟨target,command⟩ := entry
      have first : (b.under settings).observe target command = _ :=
        observe_under fun registry project same =>
          agree target registry project (same ▸ List.mem_cons_self)
      have kept : (b.observe target command).1.settings = b.settings := b.perform_settings command
      have others := ih (b := (b.observe target command).1) fun target registry project member => by
        rw [kept]
        exact agree target registry project (List.mem_cons_of_mem _ member)
      simp only [observeAll,first,others]

-- Registries have no entry in common, whatever their ids look like, so what is done to the entries
-- of others means nothing to a registry: its relay is created alike, step by step, and goes on
-- alike.
theorem registries_separate :
    (∀ registry other, registry ≠ other → List.Disjoint
      [targetKey registry,regionKey registry] [targetKey other,regionKey other]) ∧
    (∀ registry other, targetKey registry ≠ regionKey other) ∧
    (∀ registry settings edits,
      (∀ edit ∈ edits, ∃ other, other ≠ registry ∧
        (edit.1 = targetKey other ∨ edit.1 = regionKey other)) →
      Agree registry settings (edited settings edits)) ∧
    (∀ (m : Type → Type) [Monad m] (δ : Type) (note : Event → m Unit)
      (connect : DirectoryBinding → m (Except Fault δ))
      (list : δ → m (Except Fault (List String))) (settings settings' : SettingsMap)
      (registry project : String), Agree registry settings settings' →
      Relay.create note connect list settings registry project =
        Relay.create note connect list settings' registry project) ∧
    ∀ (b : Bench) (settings : SettingsMap) (commands : List (Nat × Command)),
      (∀ target registry project, (target,.create registry project none) ∈ commands →
        Agree registry b.settings settings) →
      ({ b with settings }).observeAll commands =
        ({ (b.observeAll commands).1 with settings },(b.observeAll commands).2) := by
  refine ⟨?_,targetKey_ne_regionKey,?_,?_,?_⟩
  · intro registry other apart
    exact keys_disjoint apart
  · intro registry settings edits foreign
    refine agree_edited (fun edit member => ?_) settings
    obtain ⟨other,apart,theirs⟩ := foreign edit member
    exact ⟨other,apart,List.mem_pair.mpr theirs⟩
  · intro m monad δ note connect list settings settings' registry project agree
    exact agree.create note connect list project
  · intro b settings commands agree
    exact observeAll_under agree

def shared : Bench :=
  { desk false with
    settings := Dict.ofPairs [(targetKey "a","project"),(regionKey "a","region"),
      (targetKey "a_target","elsewhere")]
    places := [] }

def sharedEdits : List (String × Option String) :=
  [(targetKey "a_target",none),(regionKey "a_target",some "region"),(targetKey "",some "project")]

theorem registries_separate_shared :
    (shared.perform (.create "a" "source" none)).2 =
      .created "a" (some ⟨"project","region"⟩) ["device"] ∧
    let commands : List (Nat × Command) := [(0,.create "a" "source" none),
      (0,.operate (.publish 0 "device" (some "state") "one")),(0,.operate (.terminate 0))]
    ({ shared with settings := edited shared.settings sharedEdits }).observeAll commands =
      ({ (shared.observeAll commands).1 with settings := edited shared.settings sharedEdits },
        (shared.observeAll commands).2) := by
  obtain ⟨_,_,agrees,_,runs⟩ := registries_separate
  have agree : Agree "a" shared.settings (edited shared.settings sharedEdits) := by
    refine agrees "a" shared.settings sharedEdits ?_
    simp only [sharedEdits,List.forall_mem_cons]
    exact ⟨⟨"a_target",by decide,.inl rfl⟩,⟨"a_target",by decide,.inr rfl⟩,
      ⟨"",by decide,.inl rfl⟩,nofun⟩
  have devices : ascendingSet ["device"] = ["device"] := List.mergeSort_singleton _
  refine ⟨congrArg (Answer.created "a" (some ⟨"project","region"⟩)) devices,?_⟩
  intro commands
  refine runs shared _ commands fun target registry project member => ?_
  obtain ⟨_,rfl,_⟩ : target = 0 ∧ registry = "a" ∧ project = "source" := by
    simpa [commands] using member
  exact agree

end Bench
end RegistryRelay
