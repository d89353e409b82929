import Mathlib.Algebra.GroupWithZero.Nat
import RegistryRelay.Base64

namespace RegistryRelay.Base64

def bits : Nat → Nat → List Bool
  | 0,_ => []
  | width + 1,n => n.testBit width :: bits width n

def alphabet : List UInt8 :=
  "ABCDEFGHIJKLMNOPQRSTUVWXYZabcdefghijklmnopqrstuvwxyz0123456789+/".toList.map
    fun c => UInt8.ofNat c.toNat

-- The bits of a key with as few zeros as fill up its last symbol, six to a symbol, and padding up
-- to a whole group of four.
inductive Standard (key : List UInt8) : List UInt8 → Prop where
  | padded {vs : List Nat} (small : ∀ v ∈ vs, v < 64)
      (same : vs.flatMap (bits 6) =
        key.flatMap (fun byte => bits 8 byte.toNat) ++ List.replicate zeros false)
      (fewest : zeros < 6) (short : pads < 4) (whole : (vs.length + pads) % 4 = 0) :
      Standard key (vs.map (alphabet.getD · 0) ++ List.replicate pads pad)

def sextets : List UInt8 → List Nat
  | a :: b :: c :: rest =>
      a.toNat / 4 :: (a.toNat % 4 * 16 + b.toNat / 16) :: (b.toNat % 16 * 4 + c.toNat / 64) ::
        c.toNat % 64 :: sextets rest
  | [a,b] => [a.toNat / 4,a.toNat % 4 * 16 + b.toNat / 16,b.toNat % 16 * 4]
  | [a] => [a.toNat / 4,a.toNat % 4 * 16]
  | [] => []

def missing (n : Nat) : Nat := (4 - n % 4) % 4

-- Values that may be those of a key: none stands alone, and the bits that no byte uses are zero.
def Whole : List Nat → Prop
  | _ :: _ :: _ :: _ :: rest => Whole rest
  | [_,_,c] => c % 4 = 0
  | [_,b] => b % 16 = 0
  | [_] => False
  | [] => True

variable {key text : List UInt8} {vs front back : List Nat} {byte : UInt8}

theorem encode_sextets (key : List UInt8) :
    encode key = (sextets key).map symbol ++ List.replicate (missing (sextets key).length) pad := by
  induction key using encode.induct with
  | case1 a b c rest ih =>
      have same : missing ((sextets rest).length + 1 + 1 + 1 + 1) = missing (sextets rest).length := by
        unfold missing
        omega
      simp only [encode,sextets,ih,List.map_cons,List.length_cons,List.cons_append,same]
  | case2 a b => rfl
  | case3 a => rfl
  | case4 => rfl

theorem sextets_small (key : List UInt8) : ∀ v ∈ sextets key, v < 64 := by
  induction key using sextets.induct with
  | case1 a b c rest ih =>
      have first := a.toNat_lt
      have second := b.toNat_lt
      have third := c.toNat_lt
      simp only [sextets,List.forall_mem_cons]
      exact ⟨by omega,by omega,by omega,by omega,ih⟩
  | case2 a b =>
      have first := a.toNat_lt
      have second := b.toNat_lt
      simp only [sextets,List.forall_mem_cons]
      exact ⟨by omega,by omega,by omega,nofun⟩
  | case3 a =>
      have first := a.toNat_lt
      simp only [sextets,List.forall_mem_cons]
      exact ⟨by omega,by omega,nofun⟩
  | case4 => nofun

theorem sextets_whole (key : List UInt8) : Whole (sextets key) := by
  induction key using sextets.induct with
  | case1 a b c rest ih => exact ih
  | case2 a b =>
      simp only [sextets,Whole]
      omega
  | case3 a =>
      simp only [sextets,Whole]
      omega
  | case4 => trivial

theorem Whole.length (whole : Whole vs) : vs.length % 4 ≠ 1 := by
  induction vs using Whole.induct with
  | case1 a b c d rest ih =>
      have tail := ih whole
      simp only [List.length_cons]
      omega
  | case2 | case3 | case5 => simp
  | case4 => cases whole

theorem ofNat_toNat {n : Nat} (same : n = byte.toNat) : UInt8.ofNat n = byte := by
  rw [same,UInt8.ofNat_toNat]

theorem bytes_sextets (key : List UInt8) : bytes (sextets key) = key := by
  induction key using sextets.induct with
  | case1 a b c rest ih =>
      have first := a.toNat_lt
      have second := b.toNat_lt
      have third := c.toNat_lt
      simp only [sextets,bytes,ih,List.cons.injEq,and_true]
      exact ⟨ofNat_toNat (by omega),ofNat_toNat (by omega),ofNat_toNat (by omega)⟩
  | case2 a b =>
      have first := a.toNat_lt
      have second := b.toNat_lt
      simp only [sextets,bytes,List.cons.injEq,and_true]
      exact ⟨ofNat_toNat (by omega),ofNat_toNat (by omega)⟩
  | case3 a =>
      have first := a.toNat_lt
      simp only [sextets,bytes,List.cons.injEq,and_true]
      exact ofNat_toNat (by omega)
  | case4 => rfl

theorem toNat_ofNat {n : Nat} (small : n < 256) : (UInt8.ofNat n).toNat = n :=
  UInt8.toNat_ofNat_of_lt' small

theorem sextets_bytes (small : ∀ v ∈ vs, v < 64) (whole : Whole vs) : sextets (bytes vs) = vs := by
  induction vs using Whole.induct with
  | case1 a b c d rest ih =>
      simp only [List.forall_mem_cons] at small
      obtain ⟨first,second,third,fourth,others⟩ := small
      simp only [bytes,sextets,ih others whole,List.cons.injEq,and_true]
      rw [toNat_ofNat (by omega),toNat_ofNat (by omega),toNat_ofNat (by omega)]
      omega
  | case2 a b c =>
      simp only [List.forall_mem_cons] at small
      obtain ⟨first,second,third,_⟩ := small
      have zero : c % 4 = 0 := whole
      simp only [bytes,sextets,List.cons.injEq,and_true]
      rw [toNat_ofNat (by omega),toNat_ofNat (by omega)]
      omega
  | case3 a b =>
      simp only [List.forall_mem_cons] at small
      obtain ⟨first,second,_⟩ := small
      have zero : b % 16 = 0 := whole
      simp only [bytes,sextets,List.cons.injEq,and_true]
      rw [toNat_ofNat (by omega)]
      omega
  | case4 => cases whole
  | case5 => rfl

theorem bits_length (width n : Nat) : (bits width n).length = width := by
  induction width with
  | zero => rfl
  | succ width ih => rw [bits,List.length_cons,ih]

theorem bits_congr {width m n : Nat} (same : m % 2 ^ width = n % 2 ^ width) :
    bits width m = bits width n := by
  induction width with
  | zero => rfl
  | succ width ih =>
      have lower : m % 2 ^ width = n % 2 ^ width := by
        rw [← Nat.mod_mod_of_dvd m (Nat.pow_dvd_pow 2 (Nat.le_succ width)),same,
          Nat.mod_mod_of_dvd n (Nat.pow_dvd_pow 2 (Nat.le_succ width))]
      have top := congrArg (Nat.testBit · width) same
      simp only [Nat.testBit_mod_two_pow,Nat.lt_succ_self,decide_true,Bool.true_and] at top
      rw [bits,bits,top,ih lower]

theorem bits_split (above below n : Nat) :
    bits (above + below) n = bits above (n / 2 ^ below) ++ bits below n := by
  induction above with
  | zero => rw [Nat.zero_add]; rfl
  | succ above ih =>
      rw [Nat.succ_add,bits,bits,ih,Nat.testBit_div_two_pow]
      rfl

theorem bits_injective {width m n : Nat} (left : m < 2 ^ width) (right : n < 2 ^ width)
    (same : bits width m = bits width n) : m = n := by
  induction width generalizing m n with
  | zero => omega
  | succ width ih =>
      have halves := same
      rw [bits_split width 1,bits_split width 1] at halves
      obtain ⟨upper,lower⟩ := List.append_inj halves (by rw [bits_length,bits_length])
      have high := ih (by omega) (by omega) upper
      simp only [bits,Nat.testBit_zero,List.cons.injEq,decide_eq_decide,and_true] at lower
      omega

theorem bits_join {above m n : Nat} (below : Nat) (small : n < 2 ^ below) :
    bits (above + below) (m * 2 ^ below + n) = bits above m ++ bits below n := by
  rw [bits_split,Nat.mul_comm,Nat.mul_add_div (Nat.two_pow_pos below),Nat.div_eq_of_lt small,
    Nat.add_zero,bits_congr (Nat.mul_add_mod ..)]

theorem bits_mod (width n : Nat) : bits width (n % 2 ^ width) = bits width n :=
  bits_congr (Nat.mod_mod n _)

theorem second_bits (a b : UInt8) :
    bits 6 (a.toNat % 4 * 16 + b.toNat / 16) = bits 2 a.toNat ++ bits 4 (b.toNat / 16) := by
  have high := b.toNat_lt
  have low : bits 2 (a.toNat % 4) = bits 2 a.toNat := bits_mod 2 _
  exact (bits_join 4 (by omega)).trans (by rw [low])

theorem third_bits (b c : UInt8) :
    bits 6 (b.toNat % 16 * 4 + c.toNat / 64) = bits 4 b.toNat ++ bits 2 (c.toNat / 64) := by
  have high := c.toNat_lt
  have low : bits 4 (b.toNat % 16) = bits 4 b.toNat := bits_mod 4 _
  exact (bits_join 2 (by omega)).trans (by rw [low])

theorem sextets_bits (key : List UInt8) : ∃ zeros < 6, (sextets key).flatMap (bits 6) =
    key.flatMap (fun byte => bits 8 byte.toNat) ++ List.replicate zeros false := by
  have after_six : ∀ n, bits 8 n = bits 6 (n / 4) ++ bits 2 n := bits_split 6 2
  have after_four : ∀ n, bits 8 n = bits 4 (n / 16) ++ bits 4 n := bits_split 4 4
  induction key using sextets.induct with
  | case1 a b c rest ih =>
      obtain ⟨zeros,fewest,same⟩ := ih
      have after_two : bits 8 c.toNat = bits 2 (c.toNat / 64) ++ bits 6 c.toNat := bits_split 2 6 _
      have fourth : bits 6 (c.toNat % 64) = bits 6 c.toNat := bits_mod 6 _
      refine ⟨zeros,fewest,?_⟩
      simp only [sextets,List.flatMap_cons,same,second_bits,third_bits,fourth,after_six a.toNat,
        after_four b.toNat,after_two,List.append_assoc]
  | case2 a b =>
      have last : bits 6 (b.toNat % 16 * 4) = bits 4 b.toNat ++ List.replicate 2 false :=
        third_bits b 0
      refine ⟨2,by decide,?_⟩
      simp only [sextets,List.flatMap_cons,List.flatMap_nil,second_bits,last,after_six a.toNat,
        after_four b.toNat,List.append_assoc,List.append_nil]
  | case3 a =>
      have last : bits 6 (a.toNat % 4 * 16) = bits 2 a.toNat ++ List.replicate 4 false :=
        second_bits a 0
      refine ⟨4,by decide,?_⟩
      simp only [sextets,List.flatMap_cons,List.flatMap_nil,last,after_six a.toNat,
        List.append_assoc,List.append_nil]
  | case4 => exact ⟨0,by decide,rfl⟩

theorem bits_flatMap_length (width : Nat) (ns : List Nat) :
    (ns.flatMap (bits width)).length = width * ns.length := by
  induction ns with
  | nil => rfl
  | cons n ns ih =>
      rw [List.flatMap_cons,List.length_append,bits_length,ih,List.length_cons,Nat.mul_succ,Nat.add_comm]

theorem flatMap_bits_injective {width : Nat} {one two : List Nat} (small : ∀ v ∈ one, v < 2 ^ width)
    (small' : ∀ v ∈ two, v < 2 ^ width) (length : one.length = two.length)
    (same : one.flatMap (bits width) = two.flatMap (bits width)) : one = two := by
  induction one generalizing two with
  | nil => exact (List.length_eq_zero_iff.mp length.symm).symm
  | cons v one ih =>
      cases two with
      | nil => cases length
      | cons w two =>
          rw [List.forall_mem_cons] at small small'
          rw [List.flatMap_cons,List.flatMap_cons] at same
          obtain ⟨here,rest⟩ := List.append_inj same (by rw [bits_length,bits_length])
          rw [bits_injective small.1 small'.1 here,ih small.2 small'.2 (Nat.succ.inj length) rest]

theorem symbol_alphabet : ∀ v < 64, symbol v = alphabet.getD v 0 := by decide

theorem map_symbol (small : ∀ v ∈ vs, v < 64) : vs.map symbol = vs.map (alphabet.getD · 0) :=
  List.map_congr_left fun v member => symbol_alphabet v (small v member)

theorem standard_iff : Standard key text ↔ text = encode key := by
  obtain ⟨zeros,fewest,same⟩ := sextets_bits key
  have small := sextets_small key
  rw [encode_sextets,map_symbol small]
  constructor
  · intro standard
    cases standard with
    | padded small' same' fewest' short whole =>
        rename_i zeros' pads vs
        have total := congrArg List.length same
        have total' := congrArg List.length same'
        simp only [bits_flatMap_length,List.length_append,List.length_replicate] at total total'
        have length : vs.length = (sextets key).length := by omega
        have filled : zeros' = zeros := by omega
        rw [filled,← same] at same'
        rw [flatMap_bits_injective small' small length same']
        congr 2
        unfold missing
        omega
  · rintro rfl
    refine .padded small same fewest ?_ ?_
    · exact Nat.mod_lt _ (by decide)
    · unfold missing
      omega

end RegistryRelay.Base64
