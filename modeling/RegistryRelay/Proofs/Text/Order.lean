import Mathlib.Data.String.Basic
import RegistryRelay.Text.Order
namespace RegistryRelay

def utf8 (text : String) : List UInt8 := text.toUTF8.data.toList

def followers (code : Nat) : Nat :=
  if code < 0x80 then 0 else if code < 0x800 then 1 else if code < 0x10000 then 2 else 3

def mark : Nat → Nat
  | 0 => 0
  | 1 => 0xC0
  | 2 => 0xE0
  | _ => 0xF0

def leading (code : Nat) : Nat := mark (followers code) + code / 64 ^ followers code

def trailing (code : Nat) : Nat → List UInt8
  | 0 => []
  | n + 1 => UInt8.ofNat (code / 64 ^ n % 64 + 0x80) :: trailing code n

theorem ofNat_lt {m n : Nat} (less : m < n) (small : n < 256) : UInt8.ofNat m < UInt8.ofNat n := by
  have small' := Nat.lt_trans less small
  rw [UInt8.lt_iff_toNat_lt,UInt8.toNat_ofNat_of_lt' small,UInt8.toNat_ofNat_of_lt' small']
  exact less

theorem code_lt (c : Char) : c.val.toNat < 0x110000 := by
  rcases c.valid with low | high
  · exact Nat.lt_trans low (by decide)
  · exact high.2

theorem utf8EncodeChar_eq (c : Char) : String.utf8EncodeChar c =
    UInt8.ofNat (leading c.val.toNat) :: trailing c.val.toNat (followers c.val.toNat) := by
  have last := code_lt c
  unfold String.utf8EncodeChar leading followers
  generalize c.val.toNat = code at last ⊢
  dsimp only
  split
  · rw [if_pos (by omega)]
    simp [mark,trailing]
  split
  · rw [if_neg (by omega),if_pos (by omega)]
    simp only [mark,trailing,Nat.pow_one,Nat.pow_zero,Nat.div_one]
    congr 2
    omega
  split
  · rw [if_neg (by omega),if_neg (by omega),if_pos (by omega)]
    simp only [mark,trailing,Nat.reducePow,Nat.div_one]
    congr 2
    omega
  · rw [if_neg (by omega),if_neg (by omega),if_neg (by omega)]
    simp only [mark,trailing,Nat.reducePow,Nat.div_one]
    congr 2
    omega

-- A lesser code point has a lesser first byte, or as many bytes and the same one.
theorem leading_lt {m n : Nat} (less : m < n) (last : n < 0x110000) :
    leading n < 256 ∧ (leading m < leading n ∨ leading m = leading n ∧
      followers m = followers n ∧ m / 64 ^ followers n = n / 64 ^ followers n) := by
  unfold leading followers
  split <;> split <;> (try split) <;> (try split) <;> (try split) <;> (try split)
  all_goals
    simp only [mark,Nat.reducePow,Nat.div_one,true_and]
    omega

theorem trailing_lt {m n : Nat} (less : m < n) (k : Nat) (same : m / 64 ^ k = n / 64 ^ k)
    (rest rest' : List UInt8) : trailing m k ++ rest < trailing n k ++ rest' := by
  induction k with
  | zero =>
      rw [Nat.pow_zero,Nat.div_one,Nat.div_one] at same
      exact absurd same (Nat.ne_of_lt less)
  | succ k ih =>
      rw [Nat.pow_succ,← Nat.div_div_eq_div_mul,← Nat.div_div_eq_div_mul] at same
      have ordered : m / 64 ^ k ≤ n / 64 ^ k := Nat.div_le_div_right (Nat.le_of_lt less)
      simp only [trailing,List.cons_append,List.cons_lt_cons_iff]
      rcases Nat.lt_or_eq_of_le ordered with here | later
      · exact .inl (ofNat_lt (by omega) (by omega))
      · exact .inr ⟨by rw [later],ih later⟩

theorem utf8EncodeChar_lt {c d : Char} (less : c < d) (rest rest' : List UInt8) :
    String.utf8EncodeChar c ++ rest < String.utf8EncodeChar d ++ rest' := by
  have below : c.val.toNat < d.val.toNat := less
  obtain ⟨small,lead⟩ := leading_lt below (code_lt d)
  rw [utf8EncodeChar_eq,utf8EncodeChar_eq,List.cons_append,List.cons_append,List.cons_lt_cons_iff]
  rcases lead with first | ⟨first,width,same⟩
  · exact .inl (ofNat_lt first small)
  · rw [width,first]
    exact .inr ⟨rfl,trailing_lt less _ same rest rest'⟩

theorem utf8_ofList (chars : List Char) :
    utf8 (String.ofList chars) = chars.flatMap String.utf8EncodeChar := by
  rw [utf8,String.toUTF8,String.toByteArray_ofList,List.utf8Encode,List.toList_data_toByteArray]

theorem flatMap_utf8_lt {one two : List Char} (less : one < two) :
    one.flatMap String.utf8EncodeChar < two.flatMap String.utf8EncodeChar := by
  induction one generalizing two with
  | nil =>
      cases two with
      | nil => cases less
      | cons d two =>
          rw [List.flatMap_cons,utf8EncodeChar_eq]
          exact .nil
  | cons c one ih =>
      cases two with
      | nil => cases less
      | cons d two =>
          rw [List.flatMap_cons,List.flatMap_cons]
          rcases List.cons_lt_cons_iff.mp less with here | ⟨rfl,later⟩
          · exact utf8EncodeChar_lt here _ _
          · exact List.append_left_lt (ih later)

theorem utf8_lt {one two : String} (less : one < two) : utf8 one < utf8 two := by
  have chars := flatMap_utf8_lt (String.lt_iff_toList_lt.mp less)
  rwa [← utf8_ofList,← utf8_ofList,String.ofList_toList,String.ofList_toList] at chars

theorem utf8_lt_iff {one two : String} : utf8 one < utf8 two ↔ one < two := by
  refine ⟨fun less => ?_,utf8_lt⟩
  rcases lt_trichotomy one two with here | rfl | there
  · exact here
  · exact absurd less (List.lt_irrefl _)
  · exact absurd less (List.lt_asymm (utf8_lt there))

theorem utf8_le_iff {one two : String} : utf8 one ≤ utf8 two ↔ one ≤ two :=
  (not_congr utf8_lt_iff).trans String.not_lt

theorem ascending_sorted (texts : List String) : (ascending texts).Pairwise (· ≤ ·) := by
  have ordered : (ascending texts).Pairwise (fun one two => decide (one ≤ two) = true) := by
    apply List.pairwise_mergeSort
    · intro one two three first second
      simp only [decide_eq_true_eq] at first second ⊢
      exact le_trans first second
    · intro one two
      simpa only [Bool.or_eq_true,decide_eq_true_eq] using le_total one two
  exact ordered.imp of_decide_eq_true

theorem ascending_eq {texts sorted : List String} (same : sorted.Perm texts)
    (ordered : sorted.Pairwise (· ≤ ·)) : ascending texts = sorted :=
  List.Perm.eq_of_pairwise (fun _ _ _ _ => le_antisymm) (ascending_sorted texts) ordered
    ((ascending_perm texts).trans same.symm)

theorem ascending_congr {texts others : List String} (same : others.Perm texts) :
    ascending others = ascending texts :=
  ascending_eq ((ascending_perm texts).trans same.symm) (ascending_sorted texts)

theorem nodup_eraseDups (texts : List String) : texts.eraseDups.Nodup := by
  match texts with
  | [] => exact List.nodup_nil
  | text :: rest =>
      rw [List.eraseDups_cons,List.nodup_cons,List.mem_eraseDups]
      exact ⟨by simp,nodup_eraseDups _⟩
  termination_by texts.length
  decreasing_by exact Nat.lt_succ_of_le (List.length_filter_le _ _)

theorem ascendingSet_eq {texts members : List String} (once : members.Nodup)
    (same : ∀ text, text ∈ members ↔ text ∈ texts) : ascendingSet texts = ascending members := by
  refine ascending_congr ((List.perm_ext_iff_of_nodup (nodup_eraseDups texts) once).mpr ?_)
  intro text
  rw [List.mem_eraseDups,same]

theorem ascendingSet_congr {texts others : List String}
    (same : ∀ text, text ∈ others ↔ text ∈ texts) : ascendingSet others = ascendingSet texts :=
  ascendingSet_eq (nodup_eraseDups texts) fun text => by rw [List.mem_eraseDups,same]

end RegistryRelay
