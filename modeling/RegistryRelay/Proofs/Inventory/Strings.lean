import RegistryRelay.Inventory.Lexeme

namespace RegistryRelay.Inventory

def units (c : Char) : List Nat :=
  if c.toNat < 0x10000 then [c.toNat]
  else [0xD800 + (c.toNat - 0x10000) / 0x400,0xDC00 + (c.toNat - 0x10000) % 0x400]

inductive Escaped : List Nat → List Char → Prop where
  | nothing : Escaped [] []
  | unit (digits : ∀ digit ∈ [a,b,c,d], isHex digit = true) (more : Escaped others rest) :
      Escaped (hexNumber [a,b,c,d] :: others) ('\\' :: 'u' :: a :: b :: c :: d :: rest)

def shorthands : List (Char × Char) :=
  [('"','"'),('\\','\\'),('/','/'),('b','\x08'),('f','\x0c'),('n','\n'),('r','\r'),('t','\t')]

-- The ways to write a character inside a string. Control characters have to be escaped.
inductive Spelled (c : Char) : List Char → Prop where
  | plain (printable : 0x20 ≤ c.toNat) (inner : c ≠ '"') (bare : c ≠ '\\') : Spelled c [c]
  | letter (short : (letter,c) ∈ shorthands) : Spelled c ['\\',letter]
  | escaped (escaped : Escaped (units c) written) : Spelled c written

inductive Body : List Char → List Char → Prop where
  | nothing : Body [] []
  | char (spelled : Spelled c written) (more : Body text rest) : Body (c :: text) (written ++ rest)

variable {a b c d : Char} {unit lead trail : Nat} {s rest written text : List Char}

theorem unit?_eq_some_iff : unit? a b c d = some unit ↔
    (∀ digit ∈ [a,b,c,d], isHex digit = true) ∧ hexNumber [a,b,c,d] = unit := by
  unfold unit?
  split
  · rename_i digits
    simp_all
  · rename_i digits
    simp_all

theorem hexDigit?_lt {digit : Nat} (found : hexDigit? c = some digit) : digit < 16 := by
  unfold hexDigit? at found
  split at found
  · rename_i decimal
    simp only [Char.isDigit,Bool.and_eq_true,decide_eq_true_eq] at decimal
    change 48 ≤ c.toNat ∧ c.toNat ≤ 57 at decimal
    cases found
    omega
  split at found
  · rename_i between
    change 97 ≤ c.toNat ∧ c.toNat ≤ 102 at between
    cases found
    omega
  split at found
  · rename_i between
    change 65 ≤ c.toNat ∧ c.toNat ≤ 70 at between
    cases found
    omega
  · cases found

theorem hexNumber_lt (digits : ∀ digit ∈ [a,b,c,d], isHex digit = true) :
    hexNumber [a,b,c,d] < 0x10000 := by
  have small : ∀ digit ∈ [a,b,c,d], (hexDigit? digit).getD 0 < 16 := by
    intro digit member
    obtain ⟨value,found⟩ := Option.isSome_iff_exists.mp (digits digit member)
    rw [found]
    exact hexDigit?_lt found
  simp only [List.forall_mem_cons] at small
  simp only [hexNumber,List.foldl_cons,List.foldl_nil]
  omega

theorem toNat_ofNat_valid (valid : unit.isValidChar) : (Char.ofNat unit).toNat = unit := by
  rw [Char.ofNat,dif_pos valid]
  rfl

theorem units_ofNat (small : unit < 0x10000) (lone : (isLead unit || isTrail unit) = false) :
    units (Char.ofNat unit) = [unit] := by
  have valid : unit.isValidChar := by
    simp only [isLead,isTrail,Bool.or_eq_false_iff,Bool.and_eq_false_iff,decide_eq_false_iff_not] at lone
    unfold Nat.isValidChar
    omega
  rw [units,toNat_ofNat_valid valid,if_pos small]

theorem units_pairChar (leads : isLead lead = true) (trails : isTrail trail = true) :
    units (pairChar lead trail) = [lead,trail] := by
  simp only [isLead,isTrail,Bool.and_eq_true,decide_eq_true_eq] at leads trails
  have valid : (0x10000 + (lead - 0xD800) * 0x400 + (trail - 0xDC00)).isValidChar := by
    unfold Nat.isValidChar
    omega
  rw [units,pairChar,toNat_ofNat_valid valid,if_neg (by omega)]
  simp only [List.cons.injEq,and_true]
  omega

theorem escaped_unit (found : unit? a b c d = some unit) (more : Escaped others rest) :
    Escaped (unit :: others) ('\\' :: 'u' :: a :: b :: c :: d :: rest) := by
  obtain ⟨digits,rfl⟩ := unit?_eq_some_iff.mp found
  exact .unit digits more

theorem spelled_unit (found : unit? a b c d = some unit)
    (lone : (isLead unit || isTrail unit) = false) :
    Spelled (Char.ofNat unit) ['\\','u',a,b,c,d] := by
  have escaped := escaped_unit found .nothing
  obtain ⟨digits,rfl⟩ := unit?_eq_some_iff.mp found
  apply Spelled.escaped
  rw [units_ofNat (hexNumber_lt digits) lone]
  exact escaped

theorem spelled_shorthand (found : escapedChar? a = some c) : Spelled c ['\\',a] := by
  apply Spelled.letter
  unfold escapedChar? at found
  repeat' split at found
  all_goals cases found
  all_goals rename_i same; subst same; decide

theorem sound_char {found : List Char × List Char} (spelled : Spelled c written)
    (read : ((readText s).map fun more => (c :: more.1,more.2)) = some found)
    (sound : ∀ {more}, readText s = some more →
      ∃ body, s = body ++ '"' :: more.2 ∧ Body more.1 body) :
    ∃ body, written ++ s = body ++ '"' :: found.2 ∧ Body found.1 body := by
  obtain ⟨more,sub,eq⟩ := Option.map_eq_some_iff.mp read
  cases eq
  obtain ⟨body,rfl,stands⟩ := sound sub
  exact ⟨written ++ body,(List.append_assoc ..).symm,.char spelled stands⟩

theorem readText_sound {found : List Char × List Char} (read : readText s = some found) :
    ∃ body, s = body ++ '"' :: found.2 ∧ Body found.1 body := by
  fun_induction readText s generalizing found with
  | case1 => cases read
  | case2 rest =>
      cases read
      exact ⟨[],rfl,.nothing⟩
  | case3 => cases read
  | case4 => cases read
  | case5 => cases read
  | case6 a b c d e f g h rest lead ofLead _ leads trail ofTrail trails ih =>
      have escaped := escaped_unit ofLead (escaped_unit ofTrail .nothing)
      rw [← units_pairChar leads trails] at escaped
      exact sound_char (.escaped escaped) read ih
  | case7 => cases read
  | case8 a b c d e f g h rest unit ofUnit notTrail notLead ih =>
      -- The escape that follows has been looked at, but is read on its own.
      exact sound_char (spelled_unit ofUnit (by simp [notLead,notTrail])) read ih
  | case9 => cases read
  | case10 => cases read
  | case11 a b c d rest _ unit ofUnit lone ih =>
      exact sound_char (spelled_unit ofUnit (Bool.eq_false_iff.mpr lone)) read ih
  | case12 => cases read
  | case13 letter rest _ _ c short ih => exact sound_char (spelled_shorthand short) read ih
  | case14 => cases read
  | case15 c rest inner _ _ bare plain ih =>
      have spelled : Spelled c [c] := .plain (by omega) inner (fun same => plain (.inr same))
      exact sound_char spelled read ih

-- A unit that is a character of its own is read as such, whatever escape may follow.
theorem readText_unit (found : unit? a b c d = some unit)
    (lone : (isLead unit || isTrail unit) = false) (rest : List Char) :
    readText ('\\' :: 'u' :: a :: b :: c :: d :: rest) =
      (readText rest).map fun found => (Char.ofNat unit :: found.1,found.2) := by
  obtain ⟨notLead,notTrail⟩ := Bool.or_eq_false_iff.mp lone
  by_cases escape : ∃ e f g h tail, rest = '\\' :: 'u' :: e :: f :: g :: h :: tail
  · obtain ⟨e,f,g,h,tail,rfl⟩ := escape
    rw [readText.eq_3]
    simp only [found,notLead,notTrail,Bool.false_eq_true,↓reduceIte]
  · rw [readText.eq_4 _ _ _ _ _ (fun e f g h tail same => escape ⟨e,f,g,h,tail,same⟩)]
    simp only [found,lone,Bool.false_eq_true,↓reduceIte]

theorem shorthand_facts : ∀ short ∈ shorthands,
    escapedChar? short.1 = some short.2 ∧ short.1 ≠ 'u' := by
  decide

theorem lone_small (small : c.toNat < 0x10000) : (isLead c.toNat || isTrail c.toNat) = false := by
  have valid : c.toNat.isValidChar := c.valid
  unfold Nat.isValidChar at valid
  simp only [isLead,isTrail,Bool.or_eq_false_iff,Bool.and_eq_false_iff,decide_eq_false_iff_not]
  omega

theorem pairChar_units (large : 0x10000 ≤ c.toNat) :
    ∃ lead trail, units c = [lead,trail] ∧ isLead lead = true ∧ isTrail lead = false ∧
      isTrail trail = true ∧ pairChar lead trail = c := by
  have valid : c.toNat.isValidChar := c.valid
  unfold Nat.isValidChar at valid
  refine ⟨_,_,if_neg (by omega),?_,?_,?_,?_⟩
  · simp only [isLead,Bool.and_eq_true,decide_eq_true_eq]
    omega
  · simp only [isTrail,Bool.and_eq_false_iff,decide_eq_false_iff_not]
    omega
  · simp only [isTrail,Bool.and_eq_true,decide_eq_true_eq]
    omega
  · have number : 0x10000 + (0xD800 + (c.toNat - 0x10000) / 0x400 - 0xD800) * 0x400 +
        (0xDC00 + (c.toNat - 0x10000) % 0x400 - 0xDC00) = c.toNat := by
      omega
    rw [pairChar,number,Char.ofNat_toNat]

theorem escaped_cons (escaped : Escaped (unit :: others) s) :
    ∃ a b c d rest, s = '\\' :: 'u' :: a :: b :: c :: d :: rest ∧
      unit? a b c d = some unit ∧ Escaped others rest := by
  cases escaped with
  | unit digits more => exact ⟨_,_,_,_,_,rfl,unit?_eq_some_iff.mpr ⟨digits,rfl⟩,more⟩

theorem readText_escaped (escaped : Escaped (units c) written) (rest : List Char) :
    readText (written ++ rest) = (readText rest).map fun found => (c :: found.1,found.2) := by
  by_cases small : c.toNat < 0x10000
  · rw [units,if_pos small] at escaped
    obtain ⟨_,_,_,_,_,rfl,found,more⟩ := escaped_cons escaped
    cases more
    have read := readText_unit found (lone_small small) rest
    rwa [Char.ofNat_toNat] at read
  · obtain ⟨lead,trail,pair,leads,notTrail,trails,char⟩ := pairChar_units (Nat.not_lt.mp small)
    rw [pair] at escaped
    obtain ⟨_,_,_,_,_,rfl,ofLead,more⟩ := escaped_cons escaped
    obtain ⟨_,_,_,_,_,rfl,ofTrail,more⟩ := escaped_cons more
    cases more
    simp only [List.cons_append,List.nil_append]
    rw [readText.eq_3]
    simp only [ofLead,ofTrail,leads,notTrail,trails,char,Bool.false_eq_true,↓reduceIte]

theorem readText_spelled (spelled : Spelled c written) (rest : List Char) :
    readText (written ++ rest) = (readText rest).map fun found => (c :: found.1,found.2) := by
  cases spelled with
  | plain printable inner bare =>
      rw [List.singleton_append,readText.eq_6 _ _ inner (fun _ _ _ _ _ _ _ _ _ same _ => bare same)
        (fun _ _ _ _ _ same _ => bare same) (fun _ _ same _ => bare same)]
      rw [if_neg (by simp only [bare,or_false]; omega)]
  | letter short =>
      obtain ⟨denotes,notUnit⟩ := shorthand_facts _ short
      rw [List.cons_append,List.singleton_append,
        readText.eq_5 _ _ (fun _ _ _ _ _ _ _ _ _ same _ => notUnit same)
          (fun _ _ _ _ _ same _ => notUnit same)]
      simp only [denotes]
  | escaped escaped => exact readText_escaped escaped rest

theorem readText_complete (body : Body text written) (rest : List Char) :
    readText (written ++ '"' :: rest) = some (text,rest) := by
  induction body with
  | nothing => exact readText.eq_2 rest
  | char spelled _ ih =>
      rw [List.append_assoc,readText_spelled spelled,ih]
      rfl

end RegistryRelay.Inventory
