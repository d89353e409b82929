import Mathlib.Data.List.Flatten
import Mathlib.Data.List.Forall2

namespace RegistryRelay

-- Two lists that agree item by item, but that neighbouring blocks may change places.
inductive Reordered {κ α : Type} (block : κ → List α) (Same : α → α → Prop) :
    List α → List α → Prop where
  | nil : Reordered block Same [] []
  | cons (first : Same one other) (rest : Reordered block Same items others) :
      Reordered block Same (one :: items) (other :: others)
  | blocks {keys keys' : List κ} (perm : keys.Perm keys')
      (rest : Reordered block Same items others) :
      Reordered block Same (keys.flatMap block ++ items) (keys'.flatMap block ++ others)

namespace Reordered

variable {κ α β : Type} {block : κ → List α} {Same : α → α → Prop}
  {items others more more' : List α}

theorem of_forall₂ (same : List.Forall₂ Same items others) : Reordered block Same items others := by
  induction same with
  | nil => exact .nil
  | cons first _ ih => exact .cons first ih

theorem append (front : Reordered block Same items others)
    (back : Reordered block Same more more') :
    Reordered block Same (items ++ more) (others ++ more') := by
  induction front with
  | nil => exact back
  | cons first _ ih => exact .cons first ih
  | blocks perm _ ih =>
      rw [List.append_assoc,List.append_assoc]
      exact .blocks perm ih

theorem flatMap {block' : κ → List β} {Same' : β → β → Prop} {read read' : α → List β}
    (each : ∀ one other, Same one other → List.Forall₂ Same' (read one) (read' other))
    (whole : ∀ key, (block key).flatMap read = block' key)
    (whole' : ∀ key, (block key).flatMap read' = block' key)
    (same : Reordered block Same items others) :
    Reordered block' Same' (items.flatMap read) (others.flatMap read') := by
  induction same with
  | nil => exact .nil
  | cons first _ ih => exact (of_forall₂ (each _ _ first)).append ih
  | blocks perm _ ih =>
      simp only [List.flatMap_append,List.flatMap_assoc,whole,whole']
      exact .blocks perm ih

end Reordered
end RegistryRelay
