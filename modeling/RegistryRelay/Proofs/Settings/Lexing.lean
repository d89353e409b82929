import Mathlib.Data.List.TakeWhile
import RegistryRelay.Settings.Decode

namespace RegistryRelay.Settings

def blankCodes : List Nat :=
  [0x9,0xB,0xC,0xFEFF,
    0xA,0xD,0x2028,0x2029,
    0x20,0xA0,0x1680,0x2000,0x2001,0x2002,0x2003,0x2004,0x2005,0x2006,0x2007,0x2008,0x2009,0x200A,
    0x202F,0x205F,0x3000]

def lineEndCodes : List Nat := [0xA,0xD,0x2028,0x2029]

def Blank (c : Char) : Prop := c.toNat ∈ blankCodes

def EndsLine (c : Char) : Prop := c.toNat ∈ lineEndCodes

instance : DecidablePred Blank := fun _ => inferInstanceAs (Decidable (_ ∈ blankCodes))
instance : DecidablePred EndsLine := fun _ => inferInstanceAs (Decidable (_ ∈ lineEndCodes))

inductive Gap : List Char → Prop where
  | nothing : Gap []
  | blank (blank : Blank c) (more : Gap rest) : Gap (c :: rest)
  | block (inside : ¬['*','/'] <:+: body) (more : Gap rest) :
      Gap ('/' :: '*' :: (body ++ '*' :: '/' :: rest))
  | line (inside : ∀ c ∈ body, ¬EndsLine c) (ends : EndsLine ending) (more : Gap rest) :
      Gap ('/' :: '/' :: (body ++ ending :: rest))

inductive Ending : List Char → Prop where
  | gap (gap : Gap g) : Ending g
  | line (gap : Gap g) (inside : ∀ c ∈ body, ¬EndsLine c) : Ending (g ++ '/' :: '/' :: body)

def escape (quote c : Char) : List Char :=
  if c = '\\' ∨ c = quote then ['\\',c]
  else if c = '\n' then ['\\','n']
  else if c = '\r' then ['\\','r']
  else if c = '\u2028' then ['\\','u','2','0','2','8']
  else if c = '\u2029' then ['\\','u','2','0','2','9']
  else [c]

def quoted (quote : Char) (text : String) : List Char :=
  quote :: (text.toList.flatMap (escape quote) ++ [quote])

inductive Literal (text : String) : List Char → Prop where
  | double : Literal text (quoted '"' text)
  | single : Literal text (quoted '\'' text)

def startsBare (c : Char) : Bool := c.isAlpha || c == '_' || c == '$'

def Bare (text : String) : Prop :=
  ∃ first rest, text.toList = first :: rest ∧ startsBare first = true ∧
    ∀ c ∈ rest, (startsBare c || c.isDigit) = true

inductive Name (text : String) : List Char → Prop where
  | literal (literal : Literal text written) : Name text written
  | bare (bare : Bare text) : Name text text.toList

variable {c quote : Char} {codes : List Nat} {g rest body written : List Char} {text : String}

theorem of_code {P : Char → Prop} (all : ∀ n ∈ codes, P (Char.ofNat n)) (member : c.toNat ∈ codes) :
    P c := by
  have here := all c.toNat member
  rwa [Char.ofNat_toNat] at here

theorem isBlank_of (blank : Blank c) : isBlank c = true :=
  of_code (P := fun c => isBlank c = true) (by decide) blank

theorem isLineEnd_iff : isLineEnd c = true ↔ EndsLine c := by
  constructor
  · intro ends
    simp only [isLineEnd,Bool.or_eq_true,beq_iff_eq] at ends
    rcases ends with ((rfl | rfl) | rfl) | rfl <;> decide
  · exact of_code (P := fun c => isLineEnd c = true) (by decide)

theorem isLineEnd_eq_false (inside : ¬EndsLine c) : isLineEnd c = false :=
  Bool.eq_false_iff.mpr (fun ends => inside (isLineEnd_iff.mp ends))

theorem blank_of_endsLine (ends : EndsLine c) : Blank c :=
  of_code (P := Blank) (by decide) ends

theorem slash_not_blank : isBlank '/' = false := by decide

theorem afterBlock_append (inside : ¬['*','/'] <:+: body) :
    afterBlock (body ++ '*' :: '/' :: rest) = some rest := by
  induction body with
  | nil => rfl
  | cons c body ih =>
      have later := ih (fun within => inside (within.trans (List.suffix_cons c body).isInfix))
      have notYet : ∀ after, c = '*' → body ++ '*' :: '/' :: rest = '/' :: after → False := by
        intro after star slash
        apply inside
        cases body with
        | nil => cases slash -- the star of the end mark follows, no slash
        | cons next body =>
            rw [star,(List.cons.inj slash).1]
            exact ⟨[],body,rfl⟩
      rw [List.cons_append,afterBlock.eq_2 _ _ notYet,later]

theorem within_line (inside : ∀ c ∈ body, ¬EndsLine c) : ∀ c ∈ body, (!isLineEnd c) = true := by
  intro c member
  rw [isLineEnd_eq_false (inside c member)]
  rfl

-- The equations of `skipBlank` by pattern take too long to derive, so each way on is taken from
-- the one that holds of all texts.
theorem skipBlank_nil : skipBlank [] = [] := by
  rw [skipBlank.eq_def]

theorem skipBlank_blank (blank : Blank c) : skipBlank (c :: rest) = skipBlank rest := by
  rw [skipBlank.eq_def]
  simp only [isBlank_of blank,↓reduceIte]

theorem skipBlank_block (ended : afterBlock body = some rest) :
    skipBlank ('/' :: '*' :: body) = skipBlank rest := by
  rw [skipBlank.eq_def]
  simp only [slash_not_blank,Bool.false_eq_true,↓reduceIte]
  split
  · rename_i found
    rw [ended] at found
    cases found
    rfl
  · rename_i missing
    rw [ended] at missing
    cases missing

theorem skipBlank_line : skipBlank ('/' :: '/' :: rest) =
    skipBlank (rest.dropWhile (fun c => !isLineEnd c)) := by
  rw [skipBlank.eq_def]
  simp only [slash_not_blank,Bool.false_eq_true,↓reduceIte]

theorem skipBlank_other (blank : isBlank c = false) (slash : c ≠ '/') :
    skipBlank (c :: rest) = c :: rest := by
  rw [skipBlank.eq_def]
  simp only [blank,Bool.false_eq_true,↓reduceIte]
  split
  · exact absurd rfl slash
  · exact absurd rfl slash
  · rfl

theorem skipBlank_gap (gap : Gap g) : skipBlank (g ++ rest) = skipBlank rest := by
  induction gap with
  | nothing => rfl
  | blank blank _ ih =>
      rw [List.cons_append,skipBlank_blank blank,ih]
  | block inside _ ih =>
      simp only [List.cons_append,List.append_assoc]
      rw [skipBlank_block (afterBlock_append inside),ih]
  | line inside ends _ ih =>
      simp only [List.cons_append,List.append_assoc]
      rw [skipBlank_line,List.dropWhile_append_of_pos (within_line inside),
        List.dropWhile_cons_of_neg (by simp [isLineEnd_iff.mpr ends]),
        skipBlank_blank (blank_of_endsLine ends),ih]

theorem skipBlank_ending (ending : Ending g) : skipBlank g = [] := by
  cases ending with
  | gap gap => rw [← List.append_nil g,skipBlank_gap gap,skipBlank_nil]
  | line gap inside =>
      rw [skipBlank_gap gap,skipBlank_line,List.dropWhile_eq_nil_iff.mpr (within_line inside),
        skipBlank_nil]

-- A character that is written out is read as one piece, whatever follows, and the piece stands
-- for the character.
structure Spells (quote : Char) (written : List Char) (c : Char) (piece : Piece) : Prop where
  read : ∀ rest, readText quote (written ++ rest) =
    (readText quote rest).map fun found => (piece :: found.1,found.2)
  decoded : ∀ more, decodePieces (piece :: more) = (decodePieces more).map (c :: ·)

theorem readText_bare (bare : c ≠ '\\') (rest : List Char) :
    readText quote (c :: rest) =
      if c = quote then some ([],rest)
      else if c = '\\' ∨ isLineEnd c = true then none
      else (readText quote rest).map fun found => (.plain c :: found.1,found.2) :=
  readText.eq_6 _ _ _ (fun _ same _ => bare same) (fun _ _ _ same _ => bare same)
    (fun _ _ _ _ _ same _ => bare same) (fun _ _ same _ => bare same)

theorem spells_plain (inner : c ≠ quote) (bare : c ≠ '\\') (inside : isLineEnd c = false) :
    Spells quote [c] c (.plain c) := by
  constructor
  case read =>
    intro rest
    rw [List.singleton_append,readText_bare bare,if_neg inner,if_neg (by simp [bare,inside])]
  case decoded =>
    intro more
    rfl

theorem spells_letter (inside : isLineEnd c = false)
    (allowed : ¬(c = 'x' ∨ c = 'u' ∨ ('1' ≤ c ∧ c ≤ '9'))) :
    Spells quote ['\\',c] (escapedChar c) (.escaped c) := by
  constructor
  case read =>
    intro rest
    have ordinary : ¬c = '\x0d' := by
      intro same
      rw [same] at inside
      cases inside
    rw [List.cons_append,List.singleton_append,readText.eq_5 _ _ _ (fun _ same _ => ordinary same)
      (fun _ _ _ same _ => allowed (.inl same))
      (fun _ _ _ _ _ same _ => allowed (.inr (.inl same)))]
    rw [if_neg (by simp [inside]),if_neg allowed]
  case decoded =>
    intro more
    rfl

theorem spells_unit (a b c d : Char) (digits : (isHex a && isHex b && isHex c && isHex d) = true)
    (trail : isTrail (hexNumber [a,b,c,d]) = false) (lead : isLead (hexNumber [a,b,c,d]) = false) :
    Spells quote ['\\','u',a,b,c,d] (Char.ofNat (hexNumber [a,b,c,d])) (.unit a b c d) := by
  constructor
  case read =>
    intro rest
    simp only [List.cons_append,List.nil_append]
    rw [readText.eq_4,if_pos digits]
  case decoded =>
    intro more
    rw [decodePieces.eq_def]
    simp only [trail,lead,Bool.false_eq_true,↓reduceIte]

theorem spells_escape (closing : quote = '"' ∨ quote = '\'') (c : Char) :
    ∃ piece, Spells quote (escape quote c) c piece := by
  unfold escape
  split
  · rename_i marked
    have own : c = '\\' ∨ c = '"' ∨ c = '\'' := by
      rcases marked with same | rfl
      · exact .inl same
      · exact .inr closing
    rcases own with rfl | rfl | rfl
    all_goals exact ⟨_,spells_letter (by decide) (by decide)⟩
  split
  · rename_i same
    subst same
    exact ⟨_,spells_letter (c := 'n') (by decide) (by decide)⟩
  split
  · rename_i same
    subst same
    exact ⟨_,spells_letter (c := 'r') (by decide) (by decide)⟩
  split
  · rename_i same
    subst same
    exact ⟨_,spells_unit '2' '0' '2' '8' (by decide) (by decide) (by decide)⟩
  split
  · rename_i same
    subst same
    exact ⟨_,spells_unit '2' '0' '2' '9' (by decide) (by decide) (by decide)⟩
  · rename_i unmarked feed carriage line paragraph
    have inside : isLineEnd c = false := by
      simp [isLineEnd,feed,carriage,line,paragraph]
    exact ⟨_,spells_plain (fun same => unmarked (.inr same)) (fun same => unmarked (.inl same)) inside⟩

theorem readText_escaped (closing : quote = '"' ∨ quote = '\'') (text : List Char) :
    ∃ pieces, decodePieces pieces = .ok text ∧
      ∀ rest, readText quote (text.flatMap (escape quote) ++ quote :: rest) = some (pieces,rest) := by
  induction text with
  | nil =>
      refine ⟨[],rfl,?_⟩
      intro rest
      have bare : quote ≠ '\\' := by rcases closing with rfl | rfl <;> decide
      rw [List.flatMap_nil,List.nil_append,readText_bare bare,if_pos rfl]
  | cons c text ih =>
      obtain ⟨pieces,decoded,read⟩ := ih
      obtain ⟨piece,spells⟩ := spells_escape closing c
      refine ⟨piece :: pieces,?_,?_⟩
      · rw [spells.decoded,decoded]
        rfl
      · intro rest
        rw [List.flatMap_cons,List.append_assoc,spells.read,read]
        rfl

structure Stands (written : List Char) (lexeme : Lexeme) (rest : List Char) : Prop where
  filled : skipBlank (written ++ rest) = written ++ rest
  read : readLexeme (written ++ rest) = some (lexeme,rest)

theorem lexemes_stands (gap : Gap g) {lexeme : Lexeme} (stands : Stands written lexeme rest) :
    lexemes (g ++ (written ++ rest)) = (lexemes rest).map (lexeme :: ·) := by
  have skipped : skipBlank (g ++ (written ++ rest)) = written ++ rest := by
    rw [skipBlank_gap gap,stands.filled]
  have read := stands.read
  rw [lexemes.eq_def]
  split
  · rename_i ended
    rw [skipped] at ended
    rw [ended] at read
    cases read
  · rename_i c after begins
    rw [← begins,skipped]
    split
    · rename_i missing
      rw [read] at missing
      cases missing
    · rename_i found
      rw [read] at found
      cases found
      rfl

theorem lexemes_ending (ending : Ending g) : lexemes g = some [] := by
  have skipped := skipBlank_ending ending
  rw [lexemes.eq_def]
  split
  · rfl
  · rename_i begins
    rw [skipped] at begins
    cases begins

theorem mark_facts (mark : c ∈ ['\x7b','\x7d','[',']',':',',']) :
    isMark c = true ∧ isBlank c = false ∧ c ≠ '/' := by
  simp only [List.mem_cons,List.not_mem_nil,or_false] at mark
  rcases mark with rfl | rfl | rfl | rfl | rfl | rfl <;> decide

theorem stands_mark (mark : c ∈ ['\x7b','\x7d','[',']',':',',']) (rest : List Char) :
    Stands [c] (.mark c) rest := by
  obtain ⟨isMark,blank,slash⟩ := mark_facts mark
  constructor
  case filled => exact skipBlank_other blank slash
  case read => simp only [List.singleton_append,readLexeme,isMark,↓reduceIte]

theorem quote_facts (closing : quote = '"' ∨ quote = '\'') :
    isMark quote = false ∧ isBlank quote = false ∧ quote ≠ '/' := by
  rcases closing with rfl | rfl <;> decide

theorem stands_quoted (closing : quote = '"' ∨ quote = '\'') (text : String) :
    ∃ pieces, decodeText pieces = .ok text ∧
      ∀ rest, Stands (quoted quote text) (.text pieces) rest := by
  obtain ⟨isMark,blank,slash⟩ := quote_facts closing
  obtain ⟨pieces,decoded,read⟩ := readText_escaped closing text.toList
  refine ⟨pieces,?_,?_⟩
  · rw [decodeText,decoded]
    exact congrArg Except.ok String.ofList_toList
  intro rest
  constructor
  case filled => exact skipBlank_other blank slash
  case read =>
    rw [quoted,List.cons_append,List.append_assoc,List.singleton_append,readLexeme]
    simp only [isMark,Bool.false_eq_true,↓reduceIte,closing,read]
    rfl

theorem stands_literal (literal : Literal text written) :
    ∃ pieces, decodeText pieces = .ok text ∧ ∀ rest, Stands written (.text pieces) rest := by
  cases literal with
  | double => exact stands_quoted (.inl rfl) text
  | single => exact stands_quoted (.inr rfl) text

theorem outside_word (member : c.toNat ∈ 0x2F :: 0x3A :: 0x5C :: blankCodes) :
    continuesWord c = false := by
  have tables : ∀ n ∈ 0x2F :: 0x3A :: 0x5C :: blankCodes,
      letters.ranges.any (CharTable.inRange n) = false ∧
        wordMarks.ranges.any (CharTable.inRange n) = false := by
    decide +kernel
  obtain ⟨letter,mark⟩ := tables c.toNat member
  have others := of_code (P := fun c => (c.isAlpha || c == '$' || c == '_' || c.isDigit ||
    c == '\u200c' || c == '\u200d') = false) (by decide) member
  simp only [Bool.or_eq_false_iff] at others
  simp only [continuesWord,startsWord,CharTable.contains,letter,mark,others,Bool.or_self]

def Apart (rest : List Char) : Prop :=
  ∀ c ∈ rest.head?, continuesWord c = false ∧ c ≠ '\\'

theorem apart_mark (gap : Gap g) : Apart (g ++ ':' :: rest) := by
  intro c head
  cases gap with
  | nothing =>
      cases head
      exact ⟨outside_word (by decide),by decide⟩
  | blank blank more =>
      cases head
      refine ⟨outside_word ?_,of_code (P := fun c => c ≠ '\\') (by decide) blank⟩
      iterate 3 apply List.mem_cons_of_mem
      exact blank
  | block | line =>
      cases head
      exact ⟨outside_word (by decide),by decide⟩

theorem readWord_bare (bare : c ≠ '\\') (rest : List Char) :
    readWord (c :: rest) =
      if continuesWord c = true then (.plain c :: (readWord rest).1,(readWord rest).2)
      else ([],c :: rest) :=
  readWord.eq_2 _ _ (fun _ _ _ _ _ same _ => bare same)

theorem readWord_plain (continues : ∀ c ∈ body, continuesWord c = true) (apart : Apart rest) :
    readWord (body ++ rest) = (body.map .plain,rest) := by
  induction body with
  | nil =>
      cases rest with
      | nil => exact readWord.eq_3
      | cons c rest =>
          obtain ⟨ends,bare⟩ := apart c rfl
          rw [List.nil_append,readWord_bare bare,if_neg (by simp [ends])]
          rfl
  | cons c body ih =>
      have here := continues c List.mem_cons_self
      have bare : c ≠ '\\' := by
        intro same
        rw [same,outside_word (by decide)] at here
        cases here
      rw [List.cons_append,readWord_bare bare,if_pos here,
        ih (fun c member => continues c (List.mem_cons_of_mem _ member))]
      rfl

theorem startsBare_ascii (starts : startsBare c = true) : c.toNat < 128 := by
  simp only [startsBare,Bool.or_eq_true,beq_iff_eq] at starts
  rcases starts with (alpha | rfl) | rfl
  · rcases Bool.or_eq_true_iff.mp alpha with upper | lower
    · have between : 65 ≤ c.toNat ∧ c.toNat ≤ 90 := of_decide_eq_true upper
      omega
    · have high : c.toNat ≤ 122 := of_decide_eq_true (Bool.and_eq_true_iff.mp lower).2
      omega
  · decide
  · decide

theorem startsWord_of_bare (starts : startsBare c = true) : startsWord c = true := by
  simp only [startsBare,Bool.or_eq_true,beq_iff_eq] at starts
  rcases starts with (alpha | rfl) | rfl
  · simp only [startsWord,alpha,Bool.true_or]
  · rfl
  · rfl

theorem startsBare_facts (starts : startsBare c = true) :
    isMark c = false ∧ isBlank c = false ∧ c ≠ '/' ∧ ¬(c = '"' ∨ c = '\'') := by
  have codes : ∀ n ∈ List.range 128, startsBare (Char.ofNat n) = true →
      isMark (Char.ofNat n) = false ∧ isBlank (Char.ofNat n) = false ∧ Char.ofNat n ≠ '/' ∧
        ¬(Char.ofNat n = '"' ∨ Char.ofNat n = '\'') := by
    decide +kernel
  have facts := codes c.toNat (List.mem_range.mpr (startsBare_ascii starts))
  rw [Char.ofNat_toNat] at facts
  exact facts starts

theorem decodePieces_plain (body : List Char) : decodePieces (body.map .plain) = .ok body := by
  induction body with
  | nil => rfl
  | cons c body ih =>
      rw [List.map_cons,decodePieces,ih]
      rfl

theorem stands_bare (bare : Bare text) (apart : Apart rest) :
    Stands text.toList (.word (text.toList.map .plain)) rest := by
  obtain ⟨first,more,spelled,starts,continues⟩ := bare
  have word := startsWord_of_bare starts
  obtain ⟨mark,blank,slash,quote⟩ := startsBare_facts starts
  have within : ∀ c ∈ first :: more, continuesWord c = true := by
    intro c member
    cases member with
    | head => simp only [continuesWord,word,Bool.true_or]
    | tail _ member =>
        rcases Bool.or_eq_true_iff.mp (continues c member) with starts | digit
        · simp only [continuesWord,startsWord_of_bare starts,Bool.true_or]
        · simp only [continuesWord,digit,Bool.or_true,Bool.true_or]
  rw [spelled]
  constructor
  case filled => exact skipBlank_other blank slash
  case read =>
    have read := readWord_plain within apart
    rw [List.cons_append] at read ⊢
    simp only [readLexeme,mark,quote,word,Bool.false_eq_true,↓reduceIte,true_or,read]
    rfl

theorem stands_name (name : Name text written) :
    ∃ pieces, decodeText pieces = .ok text ∧
      ∃ lexeme, (lexeme = .text pieces ∨ lexeme = .word pieces) ∧
        ∀ rest, Apart rest → Stands written lexeme rest := by
  cases name with
  | literal literal =>
      obtain ⟨pieces,decoded,stands⟩ := stands_literal literal
      exact ⟨pieces,decoded,_,.inl rfl,fun rest _ => stands rest⟩
  | bare bare =>
      refine ⟨_,?_,_,.inr rfl,fun rest apart => stands_bare bare apart⟩
      rw [decodeText,decodePieces_plain]
      exact congrArg Except.ok String.ofList_toList

end RegistryRelay.Settings
