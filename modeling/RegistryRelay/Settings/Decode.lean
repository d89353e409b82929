import RegistryRelay.Dict
import RegistryRelay.Fault
import RegistryRelay.Number.Shortest
import RegistryRelay.Settings.Value
import RegistryRelay.Text.Quoted

namespace RegistryRelay.Settings

-- What keeps a document from being a map of texts. `syntaxError` is a document that cannot be
-- read at all; the others are found in the order of the text.
inductive Error where
  | syntaxError
  | unexpectedTrail
  | missingTrail
  | expectedTrail
  | hex
  | integer
  | number
  | tooLarge
  | mismatch (found expected : String)
deriving DecidableEq, Repr

def Error.message : Error → String
  | .syntaxError => "<syntax>"
  | .unexpectedTrail => "unexpected unicode trail surrogate"
  | .missingTrail => "missing unicode trail surrogate"
  | .expectedTrail => "expecting unicode trail surrogate"
  | .hex => "error parsing hex"
  | .integer => "error parsing integer"
  | .number => "error parsing number"
  | .tooLarge => "error parsing number: too large"
  | .mismatch found expected => "invalid type: " ++ found ++ ", expected " ++ expected

def Piece.body : Piece → List Char
  | .plain c => [c]
  | .escaped c => [c]
  | .byte a b => [a,b]
  | .unit a b c d => [a,b,c,d]

def escapedChar (c : Char) : Char :=
  if c = 'b' then '\x08'
  else if c = 'f' then '\x0c'
  else if c = 'n' then '\n'
  else if c = 'r' then '\r'
  else if c = 't' then '\t'
  else if c = 'v' then '\x0b'
  else if c = '0' then '\x00'
  else c

-- Two units make one character. Their bits are merged with "or", so a lead unit whose
-- bit 6 is set meets the offset 0x10000 in one bit and the two do not add up.
def pairChar (lead trail : Nat) : Char :=
  Char.ofNat (((lead - 0xD800) <<< 10) ||| ((trail - 0xDC00) + 0x10000))

def Piece.trail (piece : Piece) : Except Error Nat :=
  if !piece.body.all isHex then .error .hex
  else if !isTrail (hexNumber piece.body) then .error .expectedTrail
  else .ok (hexNumber piece.body)

def decodePieces : List Piece → Except Error (List Char)
  | [] => .ok []
  | .plain c :: rest => (decodePieces rest).map (c :: ·)
  | .escaped c :: rest => (decodePieces rest).map (escapedChar c :: ·)
  | .byte a b :: rest => (decodePieces rest).map (Char.ofNat (hexNumber [a,b]) :: ·)
  | .unit a b c d :: rest =>
      let unit := hexNumber [a,b,c,d]
      if isTrail unit then .error .unexpectedTrail
      else if isLead unit then
        match rest with
        | [] => .error .missingTrail
        | piece :: rest =>
            match piece.trail with
            | .error error => .error error
            | .ok trail => (decodePieces rest).map (pairChar unit trail :: ·)
      else (decodePieces rest).map (Char.ofNat unit :: ·)

def decodeText (pieces : List Piece) : Except Error String :=
  (decodePieces pieces).map String.ofList

def layout : Layout := ⟨none,true⟩

def digitsValue (digits : List Char) : Nat :=
  digits.foldl (fun n c => n * 10 + (c.toNat - 48)) 0

def signed (digits : List Char) : Bool × List Char :=
  match digits with
  | '-' :: rest => (true,rest)
  | '+' :: rest => (false,rest)
  | _ => (false,digits)

def decimal? (digits : List Char) : Option Decimal :=
  let whole := digits.takeWhile Char.isDigit
  let rest := digits.drop whole.length
  let fraction := match rest with
    | '.' :: after => after.takeWhile Char.isDigit
    | _ => []
  let rest := match rest with
    | '.' :: after => after.drop fraction.length
    | _ => rest
  let mantissa := digitsValue (whole ++ fraction)
  let shift : Int := -fraction.length
  match rest with
  | [] => if (whole ++ fraction).isEmpty then none else some ⟨mantissa,shift⟩
  | e :: power =>
      let (negative,power) := signed power
      if (whole ++ fraction).isEmpty || !(e == 'e' || e == 'E') || power.isEmpty
          || !power.all Char.isDigit then none
      else
        let exponent : Int := digitsValue power
        some ⟨mantissa,shift + (if negative then -exponent else exponent)⟩

-- How a number that is out of place is described. It is an integer when it has no point
-- and, unless it is hexadecimal, no exponent; hexadecimal numbers carry no sign and have
-- at most 32 bits, the others at most 64 with their sign.
def describeNumber (digits : List Char) : Except Error String :=
  let hexadecimal := "0x".toList.isPrefixOf digits || "0X".toList.isPrefixOf digits
  let named := digits == "Infinity".toList || digits == "-Infinity".toList ||
    digits == "NaN".toList || digits == "-NaN".toList
  let exponent := digits.contains 'e' || digits.contains 'E'
  let (negative,unsigned) := signed digits
  let integer (n : Int) : Except Error String := .ok ("integer `" ++ toString n ++ "`")
  let floating (text : String) : Except Error String := .ok ("floating point `" ++ text ++ "`")
  if !digits.contains '.' && (hexadecimal || !exponent) && !named then
    if hexadecimal then
      let n := hexNumber (digits.drop 2)
      if n < Nat.pow 2 32 then integer n else .error .hex
    else if unsigned.isEmpty || !unsigned.all Char.isDigit then .error .integer
    else
      let n : Int := if negative then -digitsValue unsigned else digitsValue unsigned
      if -Int.pow 2 63 ≤ n ∧ n < Int.pow 2 63 then integer n else .error .integer
  else if digits == "Infinity".toList then floating "inf"
  else if digits == "-Infinity".toList then floating "-inf"
  else if named then floating "NaN"
  else
    match decimal? unsigned with
    | none => .error .number
    | some d =>
        match Binary64.ofDecimal d with
        | none => .error .tooLarge
        | some x => floating (x.render negative layout)

-- The complaint about a value that should have been something else. What an array or
-- object holds is not looked at, but a string or number must be readable itself.
def mismatch (value : Value) (expected : String) : Error :=
  match value with
  | .null => .mismatch "unit value" expected
  | .bool b => .mismatch ("boolean `" ++ toString b ++ "`") expected
  | .array _ => .mismatch "sequence" expected
  | .object _ => .mismatch "map" expected
  | .text pieces =>
      match decodeText pieces with
      | .error error => error
      | .ok text => .mismatch ("string " ++ Quoted.quote text) expected
  | .number digits =>
      match describeNumber digits with
      | .error error => error
      | .ok found => .mismatch found expected

def decodeMembers : List (List Piece × Value) → Except Error (List (String × String))
  | [] => .ok []
  | (key,value) :: rest =>
      match decodeText key with
      | .error error => .error error
      | .ok key =>
          match value with
          | .text pieces =>
              match decodeText pieces with
              | .error error => .error error
              | .ok text => (decodeMembers rest).map ((key,text) :: ·)
          | _ => .error (mismatch value "a string")

def decode (document : Value) : Except Error (List (String × String)) :=
  match document with
  | .object members => decodeMembers members
  | _ => .error (mismatch document "a map")

def readPairs (text : String) : Except Error (List (String × String)) :=
  match Value.read? text with
  | none => .error .syntaxError
  | some document => decode document

end RegistryRelay.Settings
