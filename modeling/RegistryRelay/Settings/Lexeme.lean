import RegistryRelay.Text.Letter
import RegistryRelay.Text.Units
import RegistryRelay.Text.WordMark

namespace RegistryRelay.Settings

-- One character of a string or word as it is written. `byte` and `unit` keep their
-- hexadecimal digits; an escaped line end is no piece at all.
inductive Piece where
  | plain (c : Char)
  | escaped (c : Char)
  | byte (high low : Char)
  | unit (a b c d : Char)
deriving DecidableEq, Repr

inductive Lexeme where
  | mark (c : Char)
  | word (pieces : List Piece)
  | text (pieces : List Piece)
  | number (digits : List Char)
deriving DecidableEq, Repr

def isLineEnd (c : Char) : Bool :=
  c == '\n' || c == '\r' || c == '\u2028' || c == '\u2029'

def isBlank (c : Char) : Bool :=
  c == ' ' || c == '\t' || c == '\x0b' || c == '\x0c' || isLineEnd c || c == '\ufeff' ||
    c == '\xa0' || c == '\u1680' || ('\u2000' ≤ c && c ≤ '\u200a') || c == '\u202f' ||
    c == '\u205f' || c == '\u3000'

def startsWord (c : Char) : Bool :=
  c.isAlpha || c == '$' || c == '_' || letters.contains c

def continuesWord (c : Char) : Bool :=
  startsWord c || c.isDigit || wordMarks.contains c || c == '\u200c' || c == '\u200d'

def isMark (c : Char) : Bool :=
  c == '\x7b' || c == '\x7d' || c == '[' || c == ']' || c == ':' || c == ','

def afterBlock : List Char → Option (List Char)
  | '*' :: '/' :: rest => some rest
  | _ :: rest => afterBlock rest
  | [] => none

theorem afterBlock_length {s r : List Char} (found : afterBlock s = some r) :
    r.length < s.length := by
  fun_induction afterBlock s with
  | case1 rest => cases found; simp only [List.length_cons]; omega
  | case2 c rest _ ih => have := ih found; simp only [List.length_cons]; omega
  | case3 => cases found

-- Blanks and comments. A block comment without an end is left standing, as no lexeme
-- begins like it. A line comment stops before the line end, which is blank itself.
def skipBlank (s : List Char) : List Char :=
  match s with
  | [] => []
  | c :: rest =>
      if isBlank c then skipBlank rest
      else
        match c,rest with
        | '/','*' :: inner =>
            match _ended : afterBlock inner with
            | some after => skipBlank after
            | none => c :: rest
        | '/','/' :: inner => skipBlank (inner.dropWhile (fun c => !isLineEnd c))
        | _,_ => c :: rest
termination_by s.length
decreasing_by
  · simp
  · have := afterBlock_length _ended
    simp only [List.length_cons]; omega
  · have := (List.dropWhile_sublist (fun c => !isLineEnd c) (l := inner)).length_le
    simp only [List.length_cons]; omega

theorem skipBlank_length (s : List Char) : (skipBlank s).length ≤ s.length := by
  fun_induction skipBlank s with
  | case1 => simp
  | case2 c rest blank ih => simp only [List.length_cons]; omega
  | case3 inner after ended blank ih =>
      have := afterBlock_length ended
      simp only [List.length_cons]; omega
  | case4 => simp
  | case5 inner h ih =>
      have := (List.dropWhile_sublist (fun c => !isLineEnd c) (l := inner)).length_le
      simp only [List.length_cons]; omega
  | case6 => simp

-- The pieces up to the closing quote and what follows it. A string may not hold a bare
-- line end. After a backslash a line end vanishes (a pair of CR and LF as one), x and u
-- take two and four hexadecimal digits, 1 to 9 are refused, and anything else is escaped.
def readText (quote : Char) : List Char → Option (List Piece × List Char)
  | [] => none
  | '\\' :: '\r' :: '\n' :: rest => readText quote rest
  | '\\' :: 'x' :: a :: b :: rest =>
      if isHex a && isHex b then
        (readText quote rest).map fun found => (.byte a b :: found.1,found.2)
      else none
  | '\\' :: 'u' :: a :: b :: c :: d :: rest =>
      if isHex a && isHex b && isHex c && isHex d then
        (readText quote rest).map fun found => (.unit a b c d :: found.1,found.2)
      else none
  | '\\' :: c :: rest =>
      if isLineEnd c then readText quote rest
      else if c = 'x' ∨ c = 'u' ∨ ('1' ≤ c ∧ c ≤ '9') then none
      else (readText quote rest).map fun found => (.escaped c :: found.1,found.2)
  | c :: rest =>
      if c = quote then some ([],rest)
      else if c = '\\' ∨ isLineEnd c then none
      else (readText quote rest).map fun found => (.plain c :: found.1,found.2)

theorem readText_length {quote : Char} {s r : List Char} {pieces : List Piece}
    (read : readText quote s = some (pieces,r)) : r.length < s.length := by
  fun_induction readText quote s generalizing pieces with
  | case1 => cases read
  | case2 rest ih => have := ih read; simp only [List.length_cons]; omega
  | case3 a b rest hex ih =>
      obtain ⟨found,sub,eq⟩ := Option.map_eq_some_iff.mp read
      cases eq
      have := ih sub
      simp only [List.length_cons]; omega
  | case4 => cases read
  | case5 a b c d rest hex ih =>
      obtain ⟨found,sub,eq⟩ := Option.map_eq_some_iff.mp read
      cases eq
      have := ih sub
      simp only [List.length_cons]; omega
  | case6 => cases read
  | case7 c rest _ _ _ ended ih => have := ih read; simp only [List.length_cons]; omega
  | case8 => cases read
  | case9 c rest _ _ _ _ _ ih =>
      obtain ⟨found,sub,eq⟩ := Option.map_eq_some_iff.mp read
      cases eq
      have := ih sub
      simp only [List.length_cons]; omega
  | case10 => cases read; simp
  | case11 => cases read
  | case12 c rest _ _ _ _ _ _ ih =>
      obtain ⟨found,sub,eq⟩ := Option.map_eq_some_iff.mp read
      cases eq
      have := ih sub
      simp only [List.length_cons]; omega

def readWord : List Char → List Piece × List Char
  | '\\' :: 'u' :: a :: b :: c :: d :: rest =>
      if isHex a && isHex b && isHex c && isHex d then
        let found := readWord rest
        (.unit a b c d :: found.1,found.2)
      else ([],'\\' :: 'u' :: a :: b :: c :: d :: rest)
  | c :: rest =>
      if continuesWord c then
        let found := readWord rest
        (.plain c :: found.1,found.2)
      else ([],c :: rest)
  | [] => ([],[])

theorem readWord_length (s : List Char) : (readWord s).2.length ≤ s.length := by
  fun_induction readWord s with
  | case1 a b c d rest hex found ih => simp only [found,List.length_cons]; omega
  | case2 => simp
  | case3 c rest _ continues found ih => simp only [found,List.length_cons]; omega
  | case4 => simp
  | case5 => simp

def digitRun (s : List Char) : Nat := (s.takeWhile Char.isDigit).length

def exponentLength : List Char → Nat
  | [] => 0
  | e :: rest =>
      let sign := if rest.head? == some '+' || rest.head? == some '-' then 1 else 0
      let digits := digitRun (rest.drop sign)
      if (e = 'e' ∨ e = 'E') ∧ 0 < digits then 1 + sign + digits else 0

def decimalLength (s : List Char) : Nat :=
  let whole := if s.head? == some '0' then 1 else digitRun s
  let pointed := (s.drop whole).head? == some '.'
  let fraction := if pointed then digitRun (s.drop (whole + 1)) else 0
  let length := whole + fraction + (if pointed then 1 else 0)
  if whole + fraction = 0 then 0 else length + exponentLength (s.drop length)

def unsignedLength (s : List Char) : Nat :=
  let hex := ((s.drop 2).takeWhile isHex).length
  if s.head? == some '0' && ((s.drop 1).head? == some 'x' || (s.drop 1).head? == some 'X') &&
      hex != 0 then 2 + hex
  else if decimalLength s ≠ 0 then decimalLength s
  else if "Infinity".toList.isPrefixOf s then 8
  else if "NaN".toList.isPrefixOf s then 3
  else 0

def numberLength (s : List Char) : Nat :=
  if s.head? == some '+' || s.head? == some '-' then
    if unsignedLength (s.drop 1) = 0 then 0 else 1 + unsignedLength (s.drop 1)
  else unsignedLength s

def readLexeme (s : List Char) : Option (Lexeme × List Char) :=
  match s with
  | [] => none
  | c :: rest =>
      if isMark c then some (.mark c,rest)
      else if c = '"' ∨ c = '\'' then
        (readText c rest).map fun found => (.text found.1,found.2)
      else if startsWord c ∨ c = '\\' then
        let found := readWord s
        if found.1.isEmpty then none else some (.word found.1,found.2)
      else
        let length := numberLength s
        if length = 0 then none else some (.number (s.take length),s.drop length)

theorem readWord_shorter {s : List Char} (found : (readWord s).1 ≠ []) :
    (readWord s).2.length < s.length := by
  unfold readWord at found ⊢
  split
  · rename_i a b c d rest
    split
    · have := readWord_length rest
      simp only [List.length_cons]; omega
    · rename_i plain
      simp [plain] at found
  · rename_i c rest _
    split
    · have := readWord_length rest
      simp only [List.length_cons]; omega
    · rename_i ended
      simp [ended] at found
  · simp at found

theorem readLexeme_length {s r : List Char} {lexeme : Lexeme}
    (read : readLexeme s = some (lexeme,r)) : r.length < s.length := by
  unfold readLexeme at read
  split at read
  · cases read
  · rename_i c rest
    split at read
    · cases read; simp
    · split at read
      · obtain ⟨found,sub,eq⟩ := Option.map_eq_some_iff.mp read
        cases eq
        have := readText_length sub
        simp only [List.length_cons]; omega
      · split at read
        · dsimp only at read
          split at read
          · cases read
          · rename_i filled
            cases read
            exact readWord_shorter (fun empty => filled (by simp [empty]))
        · dsimp only at read
          split at read
          · cases read
          · cases read
            simp only [List.length_drop,List.length_cons]; omega

def lexemes (s : List Char) : Option (List Lexeme) :=
  match _trimmed : skipBlank s with
  | [] => some []
  | c :: rest =>
      match _read : readLexeme (c :: rest) with
      | none => none
      | some (lexeme,after) => (lexemes after).map (lexeme :: ·)
termination_by s.length
decreasing_by
  have shorter := readLexeme_length _read
  have bound := skipBlank_length s
  rw [_trimmed] at bound
  omega

end RegistryRelay.Settings
