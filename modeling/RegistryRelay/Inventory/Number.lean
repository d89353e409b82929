import RegistryRelay.Number.Shortest

namespace RegistryRelay.Inventory

-- A number of a registry file. Whole numbers of at most 64 bits stay whole; all others,
-- and minus zero, are binary64 with a sign.
inductive Number where
  | whole (value : Int)
  | float (negative : Bool) (value : Binary64)
deriving DecidableEq, Repr

namespace Number

def bound : Nat := Nat.pow 2 64

def absorb (significand : Nat) : List Nat → Nat × List Nat
  | [] => (significand,[])
  | digit :: rest =>
      if significand * 10 + digit < bound then absorb (significand * 10 + digit) rest
      else (significand,digit :: rest)

def powerOfTen (n : Nat) : Binary64 := (Binary64.nearest (Nat.pow 10 n) 1).getD .zero

-- The significand times a power of ten, each factor and the result rounded on its own.
-- Powers below 10^-308 are divided out in two steps, and nothing is left below 10^-616.
def scaled (significand : Nat) (exponent : Int) : Option Binary64 :=
  let start := (Binary64.nearest significand 1).getD .zero
  if significand = 0 then some .zero
  else if 308 < exponent then none
  else if 0 ≤ exponent then start.mul (powerOfTen exponent.toNat)
  else if -308 ≤ exponent then start.div (powerOfTen (-exponent).toNat)
  else if -616 ≤ exponent then
    (start.div (powerOfTen 308)).bind (·.div (powerOfTen (-exponent - 308).toNat))
  else some .zero

def decimalValue (digits : List Nat) : Nat := digits.foldl (fun n d => n * 10 + d) 0

-- A number from its digits; the exponent comes with its sign. Digits beyond 64 bits only
-- count for their place. `none` is a number too large for binary64.
def ofParts (negative : Bool) (whole fraction : List Nat)
    (exponent : Option (Bool × List Nat)) : Option Number :=
  let (front,dropped) := absorb 0 whole
  if dropped.isEmpty && fraction.isEmpty && exponent.isNone then
    if !negative then some (.whole front)
    else if front = 0 ∨ Nat.pow 2 63 < front then
      (Binary64.nearest front 1).map (.float true)
    else some (.whole (-front))
  else
    let (significand,left) := absorb front fraction
    let place : Int := dropped.length - (fraction.length - left.length : Nat)
    let power : Int := match exponent with
      | none => 0
      | some (true,digits) => -decimalValue digits
      | some (false,digits) => decimalValue digits
    (scaled significand (place + power)).map (.float negative)

def layout : Layout := ⟨some (-4,16),false⟩

def describe : Number → String
  | .whole value => "integer `" ++ toString value ++ "`"
  | .float negative value => "floating point `" ++ value.render negative layout ++ "`"

end Number
end RegistryRelay.Inventory
