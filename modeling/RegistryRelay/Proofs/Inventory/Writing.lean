import RegistryRelay.Proofs.Inventory.Grammar

namespace RegistryRelay.Inventory

def Writable (form : Form α) : Prop := ∀ value tail, ∃ s, form value s tail

variable {α : Type} {form : Form α}

theorem control_digits : ∀ n ∈ List.range 0x20,
    isHex (Nat.digitChar (n / 16)) = true ∧ isHex (Nat.digitChar (n % 16)) = true ∧
      hexNumber ['0','0',Nat.digitChar (n / 16),Nat.digitChar (n % 16)] = n := by
  decide +kernel

theorem control_spelled {c : Char} (control : c.toNat < 0x20) : ∃ written, Spelled c written := by
  obtain ⟨high,low,number⟩ := control_digits c.toNat (List.mem_range.mpr control)
  have single : units c = [hexNumber ['0','0',Nat.digitChar (c.toNat / 16),
      Nat.digitChar (c.toNat % 16)]] := by
    rw [units,if_pos (by omega),number]
  refine ⟨['\\','u','0','0',Nat.digitChar (c.toNat / 16),Nat.digitChar (c.toNat % 16)],.escaped ?_⟩
  rw [single]
  refine .unit ?_ .nothing
  intro digit member
  simp only [List.mem_cons,List.not_mem_nil,or_false] at member
  rcases member with rfl | rfl | rfl | rfl
  · decide
  · decide
  · exact high
  · exact low

theorem spelled_exists (c : Char) : ∃ written, Spelled c written := by
  by_cases control : c.toNat < 0x20
  · exact control_spelled control
  by_cases quote : c = '"'
  · exact ⟨_,.letter (show ('"',c) ∈ shorthands by rw [quote]; decide)⟩
  by_cases backslash : c = '\\'
  · exact ⟨_,.letter (show ('\\',c) ∈ shorthands by rw [backslash]; decide)⟩
  · exact ⟨[c],.plain (Nat.not_lt.mp control) quote backslash⟩

theorem body_exists (text : List Char) : ∃ written, Body text written := by
  induction text with
  | nil => exact ⟨[],.nothing⟩
  | cons c text ih =>
      obtain ⟨written,spelled⟩ := spelled_exists c
      obtain ⟨rest,body⟩ := ih
      exact ⟨written ++ rest,.char spelled body⟩

theorem mark_first (c : Char) (tail : List Char) : Mark c (c :: tail) tail := ⟨[],nofun,rfl⟩

theorem text_writable : Writable Text := by
  intro value tail
  obtain ⟨body,stands⟩ := body_exists value.toList
  exact ⟨_,[],body,nofun,stands,rfl⟩

theorem member_writable (writable : Writable form) : Writable (Member form) := by
  rintro ⟨name,value⟩ tail
  obtain ⟨next,rest⟩ := writable value tail
  obtain ⟨s,text⟩ := text_writable name (':' :: next)
  exact ⟨s,.member text (mark_first ':' next) rest⟩

theorem members_writable (writable : Writable form) (first : String × α)
    (rest : List (String × α)) (tail : List Char) : ∃ s, Members form (first :: rest) s tail := by
  induction rest generalizing first with
  | nil =>
      obtain ⟨s,member⟩ := member_writable writable first ('\x7d' :: tail)
      exact ⟨s,.last member (mark_first _ tail)⟩
  | cons second rest ih =>
      obtain ⟨next,others⟩ := ih second
      obtain ⟨s,member⟩ := member_writable writable first (',' :: next)
      exact ⟨s,.more member (mark_first _ next) others⟩

theorem object_writable (writable : Writable form) : Writable (Object form) := by
  intro members tail
  cases members with
  | nil => exact ⟨_,.empty (mark_first _ _) (mark_first _ tail)⟩
  | cons first rest =>
      obtain ⟨within,written⟩ := members_writable writable first rest tail
      exact ⟨_,.members (mark_first _ within) written⟩

theorem record_writable (writable : Writable form) (field : String) :
    Writable (Record field form) := by
  intro raw tail
  cases raw with
  | none => exact ⟨_,.empty (mark_first _ _) (mark_first _ tail)⟩
  | some value =>
      obtain ⟨within,member⟩ := member_writable writable (field,value) ('\x7d' :: tail)
      exact ⟨_,.object (mark_first _ within) member (mark_first _ tail)⟩

theorem document_writable (listing : Listing) : ∃ text : String, Document listing text.toList := by
  have registries : Writable (Object (Object Entry)) :=
    object_writable (object_writable (record_writable (object_writable text_writable) "metadata"))
  obtain ⟨s,record⟩ := record_writable registries "registries" (some listing) []
  refine ⟨String.ofList s,?_⟩
  rw [String.toList_ofList]
  exact .record record nofun

end RegistryRelay.Inventory
