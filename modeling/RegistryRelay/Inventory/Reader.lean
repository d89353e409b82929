import RegistryRelay.Dict
import RegistryRelay.Inventory.Lexeme
import RegistryRelay.Text.Quoted

namespace RegistryRelay.Inventory

inductive Error where
  | syntaxError
  | mismatch (found expected : String)
  | tooFewElements (expected : String)
  | unknownField (field expected : String)
  | duplicateField (field : String)
  | missingField (field : String)
deriving DecidableEq, Repr

def Error.message : Error → String
  | .syntaxError => "<syntax>"
  | .mismatch found expected =>
      Quoted.flatten ("invalid type: " ++ found ++ ", expected " ++ expected)
  | .tooFewElements expected =>
      Quoted.flatten ("invalid length 0, expected " ++ expected ++ " with 1 element")
  | .unknownField field expected =>
      Quoted.flatten ("unknown field `" ++ field ++ "`, expected `" ++ expected ++ "`")
  | .duplicateField field => Quoted.flatten ("duplicate field `" ++ field ++ "`")
  | .missingField field => Quoted.flatten ("missing field `" ++ field ++ "`")

-- The complaint about a lexeme where a value of another kind should begin. Brackets are
-- reported as they open, and what cannot begin a value is an error of syntax.
def mismatch (expected : String) : Lexeme → Error
  | .null => .mismatch "null" expected
  | .bool value => .mismatch ("boolean `" ++ toString value ++ "`") expected
  | .number value => .mismatch value.describe expected
  | .text value => .mismatch ("string " ++ Quoted.quote value) expected
  | .openBracket => .mismatch "sequence" expected
  | .openBrace => .mismatch "map" expected
  | _ => .syntaxError

-- Reads one value from the front and returns what follows; every value takes a lexeme.
structure Reader (α : Type) where
  run : List Lexeme → Except Error (α × List Lexeme)
  shrinks : ∀ {lexemes value rest}, run lexemes = .ok (value,rest) → rest.length < lexemes.length

namespace Reader
variable {α : Type}

def readText : List Lexeme → Except Error (String × List Lexeme)
  | .text value :: rest => .ok (value,rest)
  | lexeme :: _ => .error (mismatch "a string" lexeme)
  | [] => .error .syntaxError

def text : Reader String where
  run := readText
  shrinks := by
    intro lexemes value rest read
    unfold readText at read
    split at read
    · cases read; simp
    · cases read
    · cases read

def readMembers (reader : Reader α) (lexemes : List Lexeme) :
    Except Error (List (String × α) × List Lexeme) :=
  match lexemes with
  | .text key :: .colon :: rest =>
      match _read : reader.run rest with
      | .error error => .error error
      | .ok (value,.closeBrace :: after) => .ok ([(key,value)],after)
      | .ok (value,.comma :: after) =>
          match readMembers reader after with
          | .error error => .error error
          | .ok (members,after) => .ok ((key,value) :: members,after)
      | .ok _ => .error .syntaxError
  | _ => .error .syntaxError
termination_by lexemes.length
decreasing_by
  have := reader.shrinks _read
  simp only [List.length_cons] at this ⊢; omega

theorem readMembers_length (reader : Reader α) {lexemes rest : List Lexeme}
    {members : List (String × α)} (read : readMembers reader lexemes = .ok (members,rest)) :
    rest.length < lexemes.length := by
  fun_induction readMembers reader lexemes generalizing members with
  | case1 => cases read
  | case2 key rest value after ran =>
      cases read
      have := reader.shrinks ran
      simp only [List.length_cons] at this ⊢; omega
  | case3 => cases read
  | case4 key rest value after ran more after' sub ih =>
      cases read
      have := ih sub
      have := reader.shrinks ran
      simp only [List.length_cons] at this ⊢; omega
  | case5 => cases read
  | case6 => cases read

def readObject (reader : Reader α) : List Lexeme → Except Error (List (String × α) × List Lexeme)
  | .openBrace :: .closeBrace :: rest => .ok ([],rest)
  | .openBrace :: rest => readMembers reader rest
  | lexeme :: _ => .error (mismatch "a map" lexeme)
  | [] => .error .syntaxError

def map (reader : Reader α) : Reader (Dict α) where
  run lexemes := (readObject reader lexemes).map fun found => (Dict.ofPairs found.1,found.2)
  shrinks := by
    intro lexemes value rest read
    cases ran : readObject reader lexemes with
    | error error => rw [ran] at read; cases read
    | ok found =>
        rw [ran] at read
        cases read
        unfold readObject at ran
        split at ran
        · cases ran; simp only [List.length_cons]; omega
        · have := readMembers_length reader ran
          simp only [List.length_cons]; omega
        · cases ran
        · cases ran

def readFields (field : String) (reader : Reader α) (seen : Option α) (lexemes : List Lexeme) :
    Except Error (Option α × List Lexeme) :=
  match lexemes with
  | .text key :: rest =>
      if key ≠ field then .error (.unknownField key field)
      else if seen.isSome then .error (.duplicateField field)
      else
        match rest with
        | .colon :: rest =>
            match _read : reader.run rest with
            | .error error => .error error
            | .ok (value,.closeBrace :: after) => .ok (some value,after)
            | .ok (value,.comma :: after) => readFields field reader (some value) after
            | .ok _ => .error .syntaxError
        | _ => .error .syntaxError
  | _ => .error .syntaxError
termination_by lexemes.length
decreasing_by
  have := reader.shrinks _read
  simp only [List.length_cons] at this ⊢; omega

theorem readFields_length (field : String) (reader : Reader α) {seen found : Option α}
    {lexemes rest : List Lexeme} (read : readFields field reader seen lexemes = .ok (found,rest)) :
    rest.length < lexemes.length := by
  fun_induction readFields field reader seen lexemes with
  | case1 => cases read
  | case2 => cases read
  | case3 => cases read
  | case4 =>
      rename_i ran
      cases read
      have := reader.shrinks ran
      simp only [List.length_cons] at this ⊢; omega
  | case5 =>
      rename_i ran ih
      have := ih read
      have := reader.shrinks ran
      simp only [List.length_cons] at this ⊢; omega
  | case6 => cases read
  | case7 => cases read
  | case8 => cases read

-- A record with one field: an object, or an array of the value alone. The answer says
-- whether the field was there; `absent` settles what an empty object or array means.
def readRecord (name field : String) (reader : Reader α) (absent : Bool → Except Error α) :
    List Lexeme → Except Error (α × List Lexeme)
  | .openBrace :: .closeBrace :: rest => (absent false).map (·,rest)
  | .openBrace :: rest =>
      match readFields field reader none rest with
      | .error error => .error error
      | .ok (some value,after) => .ok (value,after)
      | .ok (none,after) => (absent false).map (·,after)
  | .openBracket :: .closeBracket :: rest => (absent true).map (·,rest)
  | .openBracket :: rest =>
      match reader.run rest with
      | .error error => .error error
      | .ok (value,.closeBracket :: after) => .ok (value,after)
      | .ok _ => .error .syntaxError
  | lexeme :: _ => .error (mismatch ("struct " ++ name) lexeme)
  | [] => .error .syntaxError

def record (name field : String) (reader : Reader α) (absent : Bool → Except Error α) :
    Reader α where
  run := readRecord name field reader absent
  shrinks := by
    intro lexemes value rest read
    unfold readRecord at read
    split at read
    · cases missing : absent false with
      | error error => rw [missing] at read; cases read
      | ok value => rw [missing] at read; cases read; simp only [List.length_cons]; omega
    · split at read
      · cases read
      · rename_i ran
        cases read
        have := readFields_length field reader ran
        simp only [List.length_cons]; omega
      · rename_i ran
        have := readFields_length field reader ran
        cases missing : absent false with
        | error error => rw [missing] at read; cases read
        | ok value => rw [missing] at read; cases read; simp only [List.length_cons]; omega
    · cases missing : absent true with
      | error error => rw [missing] at read; cases read
      | ok value => rw [missing] at read; cases read; simp only [List.length_cons]; omega
    · split at read
      · cases read
      · rename_i ran
        cases read
        have := reader.shrinks ran
        simp only [List.length_cons] at this ⊢; omega
      · cases read
    · cases read
    · cases read

end Reader
end RegistryRelay.Inventory
