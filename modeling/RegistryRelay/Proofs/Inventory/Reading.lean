import RegistryRelay.Inventory.Reader
import RegistryRelay.Proofs.Inventory.Grammar

namespace RegistryRelay.Inventory.Reader

-- The reader takes exactly the values of a form, and gives their meaning. None of them begins
-- like the end of an array.
structure Reads (reader : Reader α) (form : Form β) (meaning : β → α) : Prop where
  sound : ∀ {s value more}, reader.run (lexemes s) = .ok (value,more) →
    ∃ raw tail, form raw s tail ∧ meaning raw = value ∧ lexemes tail = more
  complete : ∀ {s raw tail}, form raw s tail →
    reader.run (lexemes s) = .ok (meaning raw,lexemes tail)
  begins : ∀ {s raw tail more}, form raw s tail → lexemes s ≠ .closeBracket :: more

variable {α β : Type} {reader : Reader α} {form : Form β} {meaning : β → α} {field name : String}
  {s tail : List Char} {more after : List Lexeme} {value : α}

theorem text_reads : Reads .text Text id := by
  constructor
  case sound =>
    intro s value more read
    change readText (lexemes s) = _ at read
    unfold readText at read
    split at read
    · rename_i here
      cases read
      obtain ⟨tail,text,follows⟩ := text_read here
      exact ⟨value,tail,text,rfl,follows⟩
    · cases read
    · cases read
  case complete =>
    intro s value tail text
    change readText (lexemes s) = _
    rw [text.lexemes]
    rfl
  case begins =>
    intro s value tail more text same
    rw [text.lexemes] at same
    cases same

def Valued (meaning : β → α) (raw : String × β) : String × α := (raw.1,meaning raw.2)

theorem member_sound (reads : Reads reader form meaning) {rest : List Lexeme}
    (spelled : lexemes s = .text name :: .colon :: rest) (ran : reader.run rest = .ok (value,more)) :
    ∃ raw tail, Member form (name,raw) s tail ∧ meaning raw = value ∧ lexemes tail = more := by
  obtain ⟨named,text,follows⟩ := text_read spelled
  obtain ⟨next,colon,rfl⟩ := mark_read ':' (by decide) follows
  obtain ⟨raw,tail,written,means,follows⟩ := reads.sound ran
  exact ⟨raw,tail,.member text colon written,means,follows⟩

theorem member_complete (reads : Reads reader form meaning) {member : String × β}
    (written : Member form member s tail) :
    ∃ rest, lexemes s = .text member.1 :: .colon :: rest ∧
      reader.run rest = .ok (meaning member.2,lexemes tail) := by
  cases written with
  | member text colon value =>
      rw [text.lexemes,colon.lexemes .colon (by decide)]
      exact ⟨_,rfl,reads.complete value⟩

theorem readMembers_sound (reads : Reads reader form meaning) {members : List (String × α)}
    (read : readMembers reader (lexemes s) = .ok (members,more)) :
    ∃ raw tail, Members form raw s tail ∧ raw.map (Valued meaning) = members ∧
      lexemes tail = more := by
  generalize spelled : lexemes s = front at read
  fun_induction readMembers reader front generalizing s members with
  | case1 => cases read
  | case2 key rest value after ran =>
      cases read
      obtain ⟨raw,next,member,rfl,follows⟩ := member_sound reads spelled ran
      obtain ⟨tail,closes,follows⟩ := mark_read '\x7d' (by decide) follows
      exact ⟨[(key,raw)],tail,.last member closes,rfl,follows⟩
  | case3 => cases read
  | case4 key rest value after ran others last sub ih =>
      cases read
      obtain ⟨raw,next,member,rfl,follows⟩ := member_sound reads spelled ran
      obtain ⟨next,comma,follows⟩ := mark_read ',' (by decide) follows
      obtain ⟨rawOthers,tail,members,rfl,follows⟩ := ih follows sub
      exact ⟨(key,raw) :: rawOthers,tail,.more member comma members,rfl,follows⟩
  | case5 => cases read
  | case6 => cases read

theorem readMembers_last {rest : List Lexeme} (ran : reader.run rest = .ok (value,.closeBrace :: after)) :
    readMembers reader (.text name :: .colon :: rest) = .ok ([(name,value)],after) := by
  rw [readMembers.eq_def]
  dsimp only
  split <;> rename_i found <;> rw [ran] at found <;> cases found
  · rfl
  · rename_i closes _
    exact absurd rfl (closes value after)

theorem readMembers_more {rest : List Lexeme} {members : List (String × α)}
    (ran : reader.run rest = .ok (value,.comma :: after))
    (sub : readMembers reader after = .ok (members,more)) :
    readMembers reader (.text name :: .colon :: rest) = .ok ((name,value) :: members,more) := by
  rw [readMembers.eq_def]
  dsimp only
  split <;> rename_i found <;> rw [ran] at found <;> cases found
  · simp only [sub]
  · rename_i comma
    exact absurd rfl (comma value after)

-- What is read begins with a name, which an object without members does not.
theorem readMembers_complete (reads : Reads reader form meaning) {raw : List (String × β)}
    (members : Members form raw s tail) :
    ∃ name rest, lexemes s = .text name :: rest ∧
      readMembers reader (.text name :: rest) = .ok (raw.map (Valued meaning),lexemes tail) := by
  induction members with
  | last member closes =>
      obtain ⟨rest,spelled,ran⟩ := member_complete reads member
      rw [closes.lexemes .closeBrace (by decide)] at ran
      exact ⟨_,_,spelled,readMembers_last ran⟩
  | more member comma _ ih =>
      obtain ⟨rest,spelled,ran⟩ := member_complete reads member
      obtain ⟨name,others,following,sub⟩ := ih
      rw [comma.lexemes .comma (by decide),following] at ran
      exact ⟨_,_,spelled,readMembers_more ran sub⟩

theorem readObject_sound (reads : Reads reader form meaning) {members : List (String × α)}
    (read : readObject reader (lexemes s) = .ok (members,more)) :
    ∃ raw tail, Object form raw s tail ∧ raw.map (Valued meaning) = members ∧
      lexemes tail = more := by
  unfold readObject at read
  split at read
  · rename_i here
    cases read
    obtain ⟨inner,opens,follows⟩ := mark_read '\x7b' (by decide) here
    obtain ⟨tail,closes,follows⟩ := mark_read '\x7d' (by decide) follows
    exact ⟨[],tail,.empty opens closes,rfl,follows⟩
  · rename_i here
    obtain ⟨inner,opens,rfl⟩ := mark_read '\x7b' (by decide) here
    obtain ⟨raw,tail,members,means,follows⟩ := readMembers_sound reads read
    exact ⟨raw,tail,.members opens members,means,follows⟩
  · cases read
  · cases read

theorem readObject_complete (reads : Reads reader form meaning) {raw : List (String × β)}
    (object : Object form raw s tail) :
    readObject reader (lexemes s) = .ok (raw.map (Valued meaning),lexemes tail) := by
  cases object with
  | empty opens closes =>
      rw [opens.lexemes .openBrace (by decide),closes.lexemes .closeBrace (by decide)]
      rfl
  | members opens members =>
      obtain ⟨name,rest,spelled,read⟩ := readMembers_complete reads members
      rw [opens.lexemes .openBrace (by decide),spelled]
      exact read

theorem map_reads (reads : Reads reader form meaning) :
    Reads reader.map (Object form) (fun raw => Dict.ofPairs (raw.map (Valued meaning))) := by
  constructor
  case sound =>
    intro s value more read
    change (readObject reader (lexemes s)).map _ = _ at read
    cases ran : readObject reader (lexemes s) with
    | error error =>
        rw [ran] at read
        cases read
    | ok found =>
        rw [ran] at read
        cases read
        obtain ⟨raw,tail,object,means,follows⟩ := readObject_sound reads ran
        exact ⟨raw,tail,object,congrArg Dict.ofPairs means,follows⟩
  case complete =>
    intro s raw tail object
    change (readObject reader (lexemes s)).map _ = _
    rw [readObject_complete reads object]
    rfl
  case begins =>
    intro s raw tail more object same
    cases object with
    | empty opens | members opens =>
        rw [opens.lexemes .openBrace (by decide)] at same
        cases same

theorem readFields_seen (reader : Reader α) (value : α) (front : List Lexeme) :
    ∃ error, readFields field reader (some value) front = .error error := by
  rw [readFields.eq_def]
  split
  · split
    · exact ⟨_,rfl⟩
    · exact ⟨_,rfl⟩
  · exact ⟨_,rfl⟩

theorem readFields_sound (reads : Reads reader form meaning) {found : Option α}
    (read : readFields field reader none (lexemes s) = .ok (found,more)) :
    ∃ raw after tail, Member form (field,raw) s after ∧ Mark '\x7d' after tail ∧
      found = some (meaning raw) ∧ lexemes tail = more := by
  rw [readFields.eq_def] at read
  split at read
  case h_2 => cases read
  rename_i key rest spelled
  split at read
  · cases read
  rename_i same
  obtain rfl := Decidable.not_not.mp same
  rw [if_neg (by simp)] at read
  split at read
  case h_2 => cases read
  rename_i rest
  split at read
  · cases read
  · rename_i value after ran
    cases read
    obtain ⟨raw,inner,member,rfl,follows⟩ := member_sound reads spelled ran
    obtain ⟨tail,closes,follows⟩ := mark_read '\x7d' (by decide) follows
    exact ⟨raw,inner,tail,member,closes,rfl,follows⟩
  · rename_i value after ran
    obtain ⟨error,refused⟩ := readFields_seen reader value after
    rw [refused] at read
    cases read
  · cases read

theorem readFields_complete (reads : Reads reader form meaning) {raw : β} {inner : List Char}
    (member : Member form (field,raw) s inner) (closes : Mark '\x7d' inner tail) :
    ∃ rest, lexemes s = .text field :: rest ∧
      readFields field reader none (.text field :: rest) =
        .ok (some (meaning raw),lexemes tail) := by
  obtain ⟨rest,spelled,ran⟩ := member_complete reads member
  rw [closes.lexemes .closeBrace (by decide)] at ran
  refine ⟨_,spelled,?_⟩
  rw [readFields.eq_def]
  simp only [ne_eq,not_true_eq_false,↓reduceIte,Option.isSome_none,Bool.false_eq_true]
  split <;> rename_i found <;> rw [ran] at found <;> cases found
  · rfl
  · rename_i closes _
    exact absurd rfl (closes _ _)

variable {absent : Bool → Except Error α}

theorem map_settled {answer : Except Error α} {rest : List Lexeme}
    (read : answer.map (·,rest) = .ok (value,more)) : answer = .ok value ∧ rest = more := by
  cases answer with
  | error error => cases read
  | ok found =>
      cases read
      exact ⟨rfl,rfl⟩

theorem readRecord_sound (reads : Reads reader form meaning)
    (read : readRecord name field reader absent (lexemes s) = .ok (value,more)) :
    ∃ raw tail, Record field form raw s tail ∧ lexemes tail = more ∧
      ((∃ given, raw = some given ∧ meaning given = value) ∨
        (raw = none ∧ ∃ sequence, absent sequence = .ok value)) := by
  unfold readRecord at read
  split at read
  · rename_i here
    obtain ⟨inner,opens,follows⟩ := mark_read '\x7b' (by decide) here
    obtain ⟨tail,closes,rfl⟩ := mark_read '\x7d' (by decide) follows
    obtain ⟨settled,follows⟩ := map_settled read
    exact ⟨none,tail,.empty opens closes,follows,.inr ⟨rfl,false,settled⟩⟩
  · rename_i here
    obtain ⟨inner,opens,rfl⟩ := mark_read '\x7b' (by decide) here
    split at read
    · cases read
    · rename_i ran
      cases read
      obtain ⟨raw,after,tail,member,closes,means,follows⟩ := readFields_sound reads ran
      cases means
      exact ⟨some raw,tail,.object opens member closes,follows,.inl ⟨raw,rfl,rfl⟩⟩
    · -- Members that were read hold the field.
      rename_i ran
      obtain ⟨_,_,_,_,_,means,_⟩ := readFields_sound reads ran
      cases means
  · rename_i here
    obtain ⟨inner,opens,follows⟩ := mark_read '[' (by decide) here
    obtain ⟨tail,closes,rfl⟩ := mark_read ']' (by decide) follows
    obtain ⟨settled,follows⟩ := map_settled read
    exact ⟨none,tail,.nothing opens closes,follows,.inr ⟨rfl,true,settled⟩⟩
  · rename_i here
    obtain ⟨inner,opens,rfl⟩ := mark_read '[' (by decide) here
    split at read
    · cases read
    · rename_i ran
      cases read
      obtain ⟨raw,after,item,rfl,follows⟩ := reads.sound ran
      obtain ⟨tail,closes,follows⟩ := mark_read ']' (by decide) follows
      exact ⟨some raw,tail,.array opens item closes,follows,.inl ⟨raw,rfl,rfl⟩⟩
    · cases read
  · cases read
  · cases read

theorem readRecord_some (reads : Reads reader form meaning) {raw : β}
    (record : Record field form (some raw) s tail) :
    readRecord name field reader absent (lexemes s) = .ok (meaning raw,lexemes tail) := by
  cases record with
  | object opens member closes =>
      obtain ⟨rest,spelled,read⟩ := readFields_complete reads member closes
      rw [opens.lexemes .openBrace (by decide),spelled]
      simp only [readRecord,read]
  | array opens item closes =>
      rw [opens.lexemes .openBracket (by decide),readRecord.eq_4 _ _ _ _ _ (fun _ => reads.begins item),
        reads.complete item,closes.lexemes .closeBracket (by decide)]

theorem readRecord_none (record : Record field form none s tail)
    (settled : ∀ sequence, absent sequence = .ok value) :
    readRecord name field reader absent (lexemes s) = .ok (value,lexemes tail) := by
  cases record with
  | empty opens closes =>
      rw [opens.lexemes .openBrace (by decide),closes.lexemes .closeBrace (by decide),readRecord,settled]
      rfl
  | nothing opens closes =>
      rw [opens.lexemes .openBracket (by decide),closes.lexemes .closeBracket (by decide),readRecord,settled]
      rfl

theorem record_begins {raw : Option β} (record : Record field form raw s tail) :
    lexemes s ≠ .closeBracket :: more := by
  intro same
  cases record with
  | empty opens | object opens =>
      rw [opens.lexemes .openBrace (by decide)] at same
      cases same
  | nothing opens | array opens =>
      rw [opens.lexemes .openBracket (by decide)] at same
      cases same

theorem optional_reads (reads : Reads reader form meaning) (name field : String) (fallback : α) :
    Reads (.record name field reader fun _ => .ok fallback) (Record field form)
      (fun raw => (raw.map meaning).getD fallback) := by
  constructor
  case sound =>
    intro s value more read
    change readRecord name field reader (fun _ => .ok fallback) (lexemes s) = _ at read
    obtain ⟨raw,tail,record,follows,⟨given,rfl,means⟩ | ⟨rfl,_,settled⟩⟩ :=
      readRecord_sound reads read
    · exact ⟨some given,tail,record,means,follows⟩
    · cases settled
      exact ⟨none,tail,record,rfl,follows⟩
  case complete =>
    intro s raw tail record
    change readRecord name field reader (fun _ => .ok fallback) (lexemes s) = _
    cases raw with
    | some given => exact readRecord_some reads record
    | none => exact readRecord_none record (fun _ => rfl)
  case begins => exact record_begins

theorem required_reads (reads : Reads reader form meaning) (name field : String)
    (refused : ∀ sequence, ∃ error, absent sequence = .error error) :
    Reads (.record name field reader absent) (fun raw => Record field form (some raw)) meaning := by
  constructor
  case sound =>
    intro s value more read
    change readRecord name field reader _ (lexemes s) = _ at read
    obtain ⟨raw,tail,record,follows,⟨given,rfl,means⟩ | ⟨_,sequence,settled⟩⟩ :=
      readRecord_sound reads read
    · exact ⟨given,tail,record,means,follows⟩
    · obtain ⟨error,fails⟩ := refused sequence
      rw [fails] at settled
      cases settled
  case complete =>
    intro s raw tail record
    change readRecord name field reader _ (lexemes s) = _
    exact readRecord_some reads record
  case begins => exact record_begins

end RegistryRelay.Inventory.Reader
