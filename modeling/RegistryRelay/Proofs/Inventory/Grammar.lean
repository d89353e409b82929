import Mathlib.Data.List.TakeWhile
import RegistryRelay.Proofs.Inventory.Strings

namespace RegistryRelay.Inventory

def Blank (s : List Char) : Prop := ∀ c ∈ s, c ∈ [' ','\t','\n','\r']

-- The ways to write a value: a text that begins with it, perhaps after blanks, and what follows.
abbrev Form (α : Type) := α → List Char → List Char → Prop

def Mark (c : Char) (s tail : List Char) : Prop := ∃ b, Blank b ∧ s = b ++ c :: tail

def Text : Form String := fun value s tail =>
  ∃ b body, Blank b ∧ Body value.toList body ∧ s = b ++ '"' :: (body ++ '"' :: tail)

inductive Member (form : Form α) : Form (String × α) where
  | member (text : Text name s named) (colon : Mark ':' named next) (rest : form value next tail) :
      Member form (name,value) s tail

inductive Members (form : Form α) : Form (List (String × α)) where
  | last (member : Member form first s after) (closes : Mark '\x7d' after tail) :
      Members form [first] s tail
  | more (member : Member form first s after) (comma : Mark ',' after next)
      (others : Members form rest next tail) : Members form (first :: rest) s tail

inductive Object (form : Form α) : Form (List (String × α)) where
  | empty (opens : Mark '\x7b' s within) (closes : Mark '\x7d' within tail) : Object form [] s tail
  | members (opens : Mark '\x7b' s within) (members : Members form all within tail) :
      Object form all s tail

inductive Record (field : String) (form : Form α) : Form (Option α) where
  | empty (opens : Mark '\x7b' s within) (closes : Mark '\x7d' within tail) :
      Record field form none s tail
  | object (opens : Mark '\x7b' s within) (member : Member form (field,value) within after)
      (closes : Mark '\x7d' after tail) : Record field form (some value) s tail
  | nothing (opens : Mark '[' s within) (closes : Mark ']' within tail) :
      Record field form none s tail
  | array (opens : Mark '[' s within) (item : form value within after)
      (closes : Mark ']' after tail) : Record field form (some value) s tail

-- What a file says, in the order of the text and with repetitions: its registries, their devices,
-- and the metadata of each device if it has any.
abbrev Metadata := List (String × String)
abbrev Listing := List (String × List (String × Option Metadata))

abbrev Entry : Form (Option Metadata) := Record "metadata" (Object Text)

inductive Document (listing : Listing) (s : List Char) : Prop where
  | record (record : Record "registries" (Object (Object Entry)) (some listing) s tail)
      (blank : Blank tail)

def marks : List (Char × Lexeme) :=
  [('\x7b',.openBrace),('\x7d',.closeBrace),('[',.openBracket),(']',.closeBracket),(':',.colon),
    (',',.comma)]

def Lexeme.scalar : Lexeme → Bool
  | .null | .bool _ | .number _ => true
  | _ => false

variable {c : Char} {lexeme : Lexeme} {s b rest tail : List Char} {more : List Lexeme}
  {value : String}

theorem isBlank_iff : isBlank c = true ↔ c ∈ [' ','\t','\n','\r'] := by
  simp [isBlank,or_assoc]

theorem dropWhile_blank (blank : Blank b) : (b ++ s).dropWhile isBlank = s.dropWhile isBlank :=
  List.dropWhile_append_of_pos (fun c member => isBlank_iff.mpr (blank c member))

theorem takeWhile_blank (s : List Char) : Blank (s.takeWhile isBlank) := by
  intro c member
  exact isBlank_iff.mp (List.mem_takeWhile_imp member)

theorem mark_reads : ∀ mark ∈ marks, isBlank mark.1 = false ∧
    ∀ rest, readLexeme (mark.1 :: rest) = some (mark.2,rest) := by
  simp [marks,readLexeme,isBlank]

theorem quote_reads (rest : List Char) : readLexeme ('"' :: rest) =
    (readText rest).map fun found => (.text (String.ofList found.1),found.2) := by
  simp [readLexeme]

theorem mark_only : ∀ mark ∈ marks, mark.2 ≠ .bad ∧ mark.2.scalar = false ∧
    (∀ value, mark.2 ≠ .text value) ∧ ∀ other ∈ marks, other.2 = mark.2 → other.1 = mark.1 := by
  simp [marks,Lexeme.scalar]

theorem readLexeme_sound (read : readLexeme s = some (lexeme,tail)) :
    (∃ c, (c,lexeme) ∈ marks ∧ s = c :: tail) ∨
    (∃ body value, s = '"' :: body ∧ readText body = some (value,tail) ∧
      lexeme = .text (String.ofList value)) ∨ lexeme.scalar = true := by
  unfold readLexeme at read
  split at read
  · cases read
  iterate 6
    rcases ite_eq_iff.mp read with ⟨same,found⟩ | ⟨_,read⟩
    · subst same
      cases found
      exact .inl ⟨_,by decide,rfl⟩
  rcases ite_eq_iff.mp read with ⟨same,read⟩ | ⟨_,read⟩
  · subst same
    obtain ⟨found,sub,eq⟩ := Option.map_eq_some_iff.mp read
    cases eq
    exact .inr (.inl ⟨_,found.1,rfl,sub,rfl⟩)
  refine .inr (.inr ?_)
  iterate 3
    rcases ite_eq_iff.mp read with ⟨_,word⟩ | ⟨_,read⟩
    · obtain ⟨_,found⟩ | ⟨_,missing⟩ := ite_eq_iff.mp word
      · cases found
        rfl
      · cases missing
  obtain ⟨found,sub,eq⟩ := Option.map_eq_some_iff.mp read
  cases eq
  rfl

theorem lexemes_nil_iff : lexemes s = [] ↔ Blank s := by
  have ends : s.dropWhile isBlank = [] ↔ Blank s := by
    simp only [List.dropWhile_eq_nil_iff,isBlank_iff,Blank]
  rw [← ends,lexemes.eq_def]
  constructor
  · intro read
    split at read
    · assumption
    · split at read <;> cases read
  · intro ended
    split
    · rfl
    · rename_i begins
      rw [ended] at begins
      cases begins

theorem lexemes_sound (read : lexemes s = lexeme :: more) : lexeme = .bad ∨
    ∃ b start tail, Blank b ∧ s = b ++ start ∧ readLexeme start = some (lexeme,tail) ∧
      lexemes tail = more := by
  rw [lexemes.eq_def] at read
  split at read
  · cases read
  rename_i c rest begins
  split at read
  · cases read
    exact .inl rfl
  · rename_i lexeme after reads
    cases read
    refine .inr ⟨s.takeWhile isBlank,c :: rest,after,takeWhile_blank s,?_,reads,rfl⟩
    rw [← begins,List.takeWhile_append_dropWhile]

theorem lexemes_complete (blank : Blank b) (filled : isBlank c = false)
    (read : readLexeme (c :: rest) = some (lexeme,tail)) :
    lexemes (b ++ c :: rest) = lexeme :: lexemes tail := by
  have begins : (b ++ c :: rest).dropWhile isBlank = c :: rest := by
    rw [dropWhile_blank blank,List.dropWhile_cons_of_neg (by simp [filled])]
  rw [lexemes.eq_def]
  split
  · rename_i ended
    rw [begins] at ended
    cases ended
  · rename_i begins'
    rw [begins] at begins'
    cases begins'
    split
    · rename_i missing
      rw [read] at missing
      cases missing
    · rename_i found
      rw [read] at found
      cases found
      rfl

theorem mark_read (c : Char) (mark : (c,lexeme) ∈ marks) (read : lexemes s = lexeme :: more) :
    ∃ tail, Mark c s tail ∧ lexemes tail = more := by
  obtain ⟨good,structural,named,only⟩ := mark_only _ mark
  rcases lexemes_sound read with bad | ⟨b,start,tail,blank,rfl,found,after⟩
  · exact absurd bad good
  refine ⟨tail,⟨b,blank,?_⟩,after⟩
  rcases readLexeme_sound found with ⟨other,also,rfl⟩ | ⟨_,text,_,_,same⟩ | scalar
  · have same : other = c := only _ also rfl
    rw [same]
  · exact absurd same (named _)
  · rw [structural] at scalar
    cases scalar

theorem Mark.lexemes (written : Mark c s tail) (lexeme : Lexeme) (mark : (c,lexeme) ∈ marks) :
    lexemes s = lexeme :: lexemes tail := by
  obtain ⟨filled,reads⟩ := mark_reads _ mark
  obtain ⟨b,blank,rfl⟩ := written
  exact lexemes_complete blank filled (reads tail)

theorem text_read (read : lexemes s = .text value :: more) :
    ∃ tail, Text value s tail ∧ lexemes tail = more := by
  rcases lexemes_sound read with bad | ⟨b,start,tail,blank,rfl,found,after⟩
  · cases bad
  refine ⟨tail,?_,after⟩
  rcases readLexeme_sound found with ⟨c,mark,_⟩ | ⟨rest,text,rfl,sub,same⟩ | scalar
  · exact absurd rfl ((mark_only _ mark).2.2.1 value)
  · obtain ⟨body,rfl,stands⟩ := readText_sound sub
    cases same
    refine ⟨b,body,blank,?_,rfl⟩
    rw [String.toList_ofList]
    exact stands
  · cases scalar

theorem Text.lexemes (written : Text value s tail) : lexemes s = .text value :: lexemes tail := by
  obtain ⟨b,body,blank,stands,rfl⟩ := written
  apply lexemes_complete blank (by decide)
  rw [quote_reads,readText_complete stands,Option.map_some,String.ofList_toList]

end RegistryRelay.Inventory
