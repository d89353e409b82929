namespace RegistryRelay.Base64

-- Padded base64 over A-Z, a-z, 0-9, + and /. A text has one reading or none: padding is
-- required, and the bits that no byte uses are zero.

def pad : UInt8 := 61

def value? (symbol : UInt8) : Option Nat :=
  let s := symbol.toNat
  if 65 ≤ s ∧ s ≤ 90 then some (s - 65)
  else if 97 ≤ s ∧ s ≤ 122 then some (s - 71)
  else if 48 ≤ s ∧ s ≤ 57 then some (s + 4)
  else if s = 43 then some 62
  else if s = 47 then some 63
  else none

def symbol (value : Nat) : UInt8 :=
  if value < 26 then UInt8.ofNat (value + 65)
  else if value < 52 then UInt8.ofNat (value + 71)
  else if value < 62 then UInt8.ofNat (value - 4)
  else if value = 62 then 43
  else 47

inductive Error where
  | symbol (offset : Nat) (byte : UInt8)
  | length (bytes : Nat)
  | lastSymbol (offset : Nat) (byte : UInt8)
  | padding
deriving DecidableEq, Repr

def Error.message : Error → String
  | .symbol offset byte => s!"Invalid symbol {byte.toNat}, offset {offset}."
  | .length bytes => s!"Invalid input length: {bytes}"
  | .lastSymbol offset byte => s!"Invalid last symbol {byte.toNat}, offset {offset}."
  | .padding => "Invalid padding"

def encode : List UInt8 → List UInt8
  | a :: b :: c :: rest =>
      symbol (a.toNat / 4) :: symbol (a.toNat % 4 * 16 + b.toNat / 16) ::
        symbol (b.toNat % 16 * 4 + c.toNat / 64) :: symbol (c.toNat % 64) :: encode rest
  | [a,b] => [symbol (a.toNat / 4),symbol (a.toNat % 4 * 16 + b.toNat / 16),
      symbol (b.toNat % 16 * 4),pad]
  | [a] => [symbol (a.toNat / 4),symbol (a.toNat % 4 * 16),pad,pad]
  | [] => []

def values (offset : Nat) : List UInt8 → Except Error (List Nat)
  | [] => .ok []
  | byte :: rest =>
      match value? byte with
      | none => .error (.symbol offset byte)
      | some value =>
          match values (offset + 1) rest with
          | .error error => .error error
          | .ok more => .ok (value :: more)

-- The end of a text: symbols, then padding. `start` is where the end begins, `offset` where
-- reading stands. Padding may not come before the third place, nor a symbol after it; then
-- the first padding is at fault.
def ending (start offset pads : Nat) : List UInt8 → Except Error (List Nat × Nat)
  | [] => .ok ([],pads)
  | byte :: rest =>
      if byte = pad then
        if offset < start + 2 then .error (.symbol offset byte)
        else ending start (offset + 1) (pads + 1) rest
      else if 0 < pads then .error (.symbol (offset - pads) pad)
      else
        match value? byte with
        | none => .error (.symbol offset byte)
        | some value =>
            match ending start (offset + 1) 0 rest with
            | .error error => .error error
            | .ok (more,padding) => .ok (value :: more,padding)

def bytes : List Nat → List UInt8
  | a :: b :: c :: d :: rest =>
      UInt8.ofNat (a * 4 + b / 16) :: UInt8.ofNat (b % 16 * 16 + c / 4) ::
        UInt8.ofNat (c % 4 * 64 + d) :: bytes rest
  | [a,b,c] => [UInt8.ofNat (a * 4 + b / 16),UInt8.ofNat (b % 16 * 16 + c / 4)]
  | [a,b] => [UInt8.ofNat (a * 4 + b / 16)]
  | _ => []

def spare : List Nat → Nat
  | [_,b] => b % 16
  | [_,_,c] => c % 4
  | _ => 0

def endStart (n : Nat) : Nat := if n % 4 = 0 then n - 4 else n - n % 4

-- A lone last byte that is no symbol is reported before anything else, since the text was
-- most likely cut or carries a line end. Then faults are found from left to right, and
-- only a text of symbols and padding is measured.
def decode (text : List UInt8) : Except Error (List UInt8) :=
  let n := text.length
  let start := endStart n
  match text.getLast? with
  | none => .ok []
  | some last =>
      if n % 4 = 1 ∧ last ≠ pad ∧ value? last = none then .error (.symbol (n - 1) last)
      else
        match values 0 (text.take start) with
        | .error error => .error error
        | .ok front =>
            match ending start start 0 (text.drop start) with
            | .error error => .error error
            | .ok (back,pads) =>
                if back.length < 2 then .error (.length (start + back.length))
                else if (back.length + pads) % 4 ≠ 0 then .error .padding
                else if spare back ≠ 0 then
                  .error (.lastSymbol (start + back.length - 1)
                    (text.getD (start + back.length - 1) 0))
                else .ok (bytes front ++ bytes back)

end RegistryRelay.Base64
