import RegistryRelay.Inventory.Number
import RegistryRelay.Text.Units

namespace RegistryRelay.Inventory

-- The lexemes of a registry file. `bad` stands where a text stops being one; nothing
-- follows it.
inductive Lexeme where
  | openBrace
  | closeBrace
  | openBracket
  | closeBracket
  | colon
  | comma
  | null
  | bool (value : Bool)
  | number (value : Number)
  | text (value : String)
  | bad
deriving DecidableEq, Repr

def isBlank (c : Char) : Bool := c == ' ' || c == '\t' || c == '\n' || c == '\r'

def unit? (a b c d : Char) : Option Nat :=
  if isHex a && isHex b && isHex c && isHex d then some (hexNumber [a,b,c,d]) else none

def pairChar (lead trail : Nat) : Char :=
  Char.ofNat (0x10000 + (lead - 0xD800) * 0x400 + (trail - 0xDC00))

def escapedChar? (c : Char) : Option Char :=
  if c = '"' then some '"'
  else if c = '\\' then some '\\'
  else if c = '/' then some '/'
  else if c = 'b' then some '\x08'
  else if c = 'f' then some '\x0c'
  else if c = 'n' then some '\n'
  else if c = 'r' then some '\r'
  else if c = 't' then some '\t'
  else none

-- A string up to its closing quote, and what follows. Escaped units denote characters:
-- a lead is followed by an escaped trail, and no trail stands alone.
def readText : List Char → Option (List Char × List Char)
  | [] => none
  | '"' :: rest => some ([],rest)
  | '\\' :: 'u' :: a :: b :: c :: d :: '\\' :: 'u' :: e :: f :: g :: h :: rest =>
      match unit? a b c d with
      | none => none
      | some first =>
          if isTrail first then none
          else if isLead first then
            match unit? e f g h with
            | none => none
            | some second =>
                if isTrail second then
                  (readText rest).map fun found => (pairChar first second :: found.1,found.2)
                else none
          else
            (readText ('\\' :: 'u' :: e :: f :: g :: h :: rest)).map
              fun found => (Char.ofNat first :: found.1,found.2)
  | '\\' :: 'u' :: a :: b :: c :: d :: rest =>
      match unit? a b c d with
      | none => none
      | some unit =>
          if isLead unit || isTrail unit then none
          else (readText rest).map fun found => (Char.ofNat unit :: found.1,found.2)
  | '\\' :: c :: rest =>
      match escapedChar? c with
      | none => none
      | some escaped => (readText rest).map fun found => (escaped :: found.1,found.2)
  | c :: rest =>
      if c.toNat < 0x20 ∨ c = '\\' then none
      else (readText rest).map fun found => (c :: found.1,found.2)

theorem readText_length {s r : List Char} {text : List Char}
    (read : readText s = some (text,r)) : r.length < s.length := by
  fun_induction readText s generalizing text with
  | case1 => cases read
  | case2 => cases read; simp
  | case3 => cases read
  | case4 => cases read
  | case5 => cases read
  | case6 _ _ _ _ _ _ _ _ _ _ _ _ _ _ _ _ ih =>
      obtain ⟨found,sub,eq⟩ := Option.map_eq_some_iff.mp read
      cases eq
      have := ih sub
      simp only [List.length_cons]; omega
  | case7 => cases read
  | case8 _ _ _ _ _ _ _ _ _ _ _ _ _ ih =>
      obtain ⟨found,sub,eq⟩ := Option.map_eq_some_iff.mp read
      cases eq
      have := ih sub
      simp only [List.length_cons] at this ⊢; omega
  | case9 => cases read
  | case10 => cases read
  | case11 _ _ _ _ _ _ _ _ _ ih =>
      obtain ⟨found,sub,eq⟩ := Option.map_eq_some_iff.mp read
      cases eq
      have := ih sub
      simp only [List.length_cons]; omega
  | case12 => cases read
  | case13 _ _ _ _ _ _ ih =>
      obtain ⟨found,sub,eq⟩ := Option.map_eq_some_iff.mp read
      cases eq
      have := ih sub
      simp only [List.length_cons]; omega
  | case14 => cases read
  | case15 _ _ _ _ _ _ _ ih =>
      obtain ⟨found,sub,eq⟩ := Option.map_eq_some_iff.mp read
      cases eq
      have := ih sub
      simp only [List.length_cons]; omega

def skipMinus : List Char → List Char
  | '-' :: rest => rest
  | s => s

def skipSign : List Char → List Char
  | '+' :: rest => rest
  | s => skipMinus s

def readDigits (s : List Char) : List Nat × List Char :=
  ((s.takeWhile Char.isDigit).map (fun c => c.toNat - 48),s.dropWhile Char.isDigit)

def readFraction : List Char → Option (List Nat × List Char)
  | '.' :: rest =>
      let found := readDigits rest
      if found.1.isEmpty then none else some found
  | s => some ([],s)

def readExponent : List Char → Option (Option (Bool × List Nat) × List Char)
  | [] => some (none,[])
  | c :: rest =>
      if c = 'e' ∨ c = 'E' then
        let found := readDigits (skipSign rest)
        if found.1.isEmpty then none
        else some (some (rest.head? == some '-',found.1),found.2)
      else some (none,c :: rest)

-- A number and what follows. Its whole part has a digit and no superfluous zero, and a
-- number that binary64 cannot hold is none.
def readNumber (s : List Char) : Option (Number × List Char) :=
  let negative := s.head? == some '-'
  let (whole,s) := readDigits (skipMinus s)
  if whole.isEmpty || (whole.length != 1 && whole.head? == some 0) then none
  else
    match readFraction s with
    | none => none
    | some (fraction,s) =>
        match readExponent s with
        | none => none
        | some (exponent,s) =>
            (Number.ofParts negative whole fraction exponent).map fun number => (number,s)

theorem skipMinus_length (s : List Char) : (skipMinus s).length ≤ s.length := by
  unfold skipMinus; split <;> simp

theorem skipSign_length (s : List Char) : (skipSign s).length ≤ s.length := by
  unfold skipSign
  split
  · simp
  · exact skipMinus_length _

theorem readDigits_length (s : List Char) :
    (readDigits s).2.length + (readDigits s).1.length = s.length := by
  have whole := congrArg List.length (List.takeWhile_append_dropWhile (p := Char.isDigit) (l := s))
  simp only [List.length_append] at whole
  simp only [readDigits,List.length_map]; omega

theorem readFraction_length {s r : List Char} {digits : List Nat}
    (read : readFraction s = some (digits,r)) : r.length ≤ s.length := by
  unfold readFraction at read
  split at read
  · rename_i rest
    have := readDigits_length rest
    dsimp only at read
    split at read
    · cases read
    · rw [Option.some.inj read] at this
      simp only [List.length_cons] at this ⊢; omega
  · cases read; exact Nat.le_refl _

theorem readExponent_length {s r : List Char} {exponent : Option (Bool × List Nat)}
    (read : readExponent s = some (exponent,r)) : r.length ≤ s.length := by
  unfold readExponent at read
  split at read
  · cases read; exact Nat.le_refl _
  · rename_i c rest
    split at read
    · have digits := readDigits_length (skipSign rest)
      have sign := skipSign_length rest
      dsimp only at read
      split at read
      · cases read
      · cases read
        simp only [List.length_cons]; omega
    · cases read; exact Nat.le_refl _

theorem readNumber_length {s r : List Char} {number : Number}
    (read : readNumber s = some (number,r)) : r.length < s.length := by
  have digits := readDigits_length (skipMinus s)
  have sign := skipMinus_length s
  unfold readNumber at read
  dsimp only at read
  split at read
  · cases read
  · rename_i wellFormed
    split at read
    · cases read
    · rename_i readF
      split at read
      · cases read
      · rename_i readE
        obtain ⟨_,_,eq⟩ := Option.map_eq_some_iff.mp read
        cases eq
        have fraction := readFraction_length readF
        have exponent := readExponent_length readE
        simp only [Bool.or_eq_true,not_or,List.isEmpty_iff] at wellFormed
        have := List.length_pos_iff.mpr wellFormed.1
        omega

def readWord (word : String) (lexeme : Lexeme) (s : List Char) : Option (Lexeme × List Char) :=
  if word.toList.isPrefixOf s then some (lexeme,s.drop word.length) else none

def readLexeme (s : List Char) : Option (Lexeme × List Char) :=
  match s with
  | [] => none
  | c :: rest =>
      if c = '\x7b' then some (.openBrace,rest)
      else if c = '\x7d' then some (.closeBrace,rest)
      else if c = '[' then some (.openBracket,rest)
      else if c = ']' then some (.closeBracket,rest)
      else if c = ':' then some (.colon,rest)
      else if c = ',' then some (.comma,rest)
      else if c = '"' then
        (readText rest).map fun found => (.text (String.ofList found.1),found.2)
      else if c = 'n' then readWord "null" .null s
      else if c = 't' then readWord "true" (.bool true) s
      else if c = 'f' then readWord "false" (.bool false) s
      else (readNumber s).map fun found => (.number found.1,found.2)

theorem readWord_length {word : String} {lexeme found : Lexeme} {s r : List Char}
    (long : 0 < word.length) (read : readWord word lexeme s = some (found,r)) :
    r.length < s.length := by
  unfold readWord at read
  split at read
  · rename_i starts
    cases read
    have bound := (List.isPrefixOf_iff_prefix.mp starts).length_le
    simp only [String.length_toList] at bound
    simp only [List.length_drop]; omega
  · cases read

theorem readLexeme_length {s r : List Char} {lexeme : Lexeme}
    (read : readLexeme s = some (lexeme,r)) : r.length < s.length := by
  unfold readLexeme at read
  split at read
  · cases read
  · rename_i c rest
    iterate 6 (split at read; · cases read; simp)
    split at read
    · obtain ⟨found,sub,eq⟩ := Option.map_eq_some_iff.mp read
      cases eq
      have := readText_length sub
      simp only [List.length_cons]; omega
    · iterate 3 (split at read; · exact readWord_length (by decide) read)
      obtain ⟨found,sub,eq⟩ := Option.map_eq_some_iff.mp read
      cases eq
      exact readNumber_length sub

def lexemes (s : List Char) : List Lexeme :=
  match _trimmed : s.dropWhile isBlank with
  | [] => []
  | c :: rest =>
      match _read : readLexeme (c :: rest) with
      | none => [.bad]
      | some (lexeme,after) => lexeme :: lexemes after
termination_by s.length
decreasing_by
  have shorter := readLexeme_length _read
  have bound := (List.dropWhile_sublist isBlank (l := s)).length_le
  rw [_trimmed] at bound
  omega

end RegistryRelay.Inventory
