import RegistryRelay.Number.Binary64

namespace RegistryRelay

-- How a number is laid out. Within `positional` the digits are written out around the
-- point; outside it there is one digit before the point and a power of ten after it. The
-- first bound is the least place of the first digit, the second the greatest; no bounds
-- means that every number is written out.
structure Layout where
  positional : Option (Int × Int)
  tieUp : Bool

namespace Binary64

def scale (x : Binary64) : Int :=
  let (num,den) := x.ratio
  let digits (n : Nat) : Int := (Nat.toDigits 10 n).length
  let guess := digits num - digits den
  if num * Nat.pow 10 (-guess).toNat < den * Nat.pow 10 guess.toNat then guess else guess + 1

-- The decimal of so many digits that is nearest to the value among those that read back to
-- it. On the grid of that many digits only the two neighbours of the value can do so.
def onGrid (x : Binary64) (tieUp : Bool) (count : Nat) : Option Decimal :=
  let (num,den) := x.ratio
  let exponent := x.scale - count
  let num := num * Nat.pow 10 (-exponent).toNat
  let den := den * Nat.pow 10 exponent.toNat
  let below : Decimal := ⟨num / den,exponent⟩
  let above : Decimal := ⟨num / den + 1,exponent⟩
  let twice := 2 * (num % den)
  match ofDecimal below == some x,ofDecimal above == some x with
  | false,false => none
  | true,false => some below
  | false,true => some above
  | true,true =>
      if den < twice ∨ (twice = den ∧ (tieUp ∨ num / den % 2 = 1)) then some above
      else some below

def shortest (x : Binary64) (tieUp : Bool) : Decimal :=
  match (List.range' 1 17).findSome? (x.onGrid tieUp) with
  | some d => d
  | none => ⟨x.ratio.1,0⟩

end Binary64

namespace Decimal

def stripped (digits : List Char) (exponent : Int) : List Char × Int :=
  let zeros := (digits.reverse.takeWhile (· = '0')).length
  (digits.take (digits.length - zeros),exponent + zeros)

def zeros (n : Int) : List Char := List.replicate n.toNat '0'

def signedPower (power : Int) : List Char :=
  (if power < 0 then '-' else '+') :: Nat.toDigits 10 power.natAbs

def render (d : Decimal) (layout : Layout) : List Char :=
  let (digits,exponent) := stripped (Nat.toDigits 10 d.digits) d.exponent
  let point : Int := digits.length + exponent
  let positional := match layout.positional with
    | none => true
    | some (least,greatest) => decide (least ≤ point) && decide (point ≤ greatest)
  if positional then
    if 0 ≤ exponent then digits ++ zeros exponent ++ ['.','0']
    else if 0 < point then digits.take point.toNat ++ '.' :: digits.drop point.toNat
    else ['0','.'] ++ zeros (-point) ++ digits
  else
    let power := signedPower (point - 1)
    match digits with
    | [] => []
    | [first] => first :: 'e' :: power
    | first :: rest => first :: '.' :: rest ++ 'e' :: power

end Decimal

def Binary64.render (negative : Bool) (x : Binary64) (layout : Layout) : String :=
  let body := if x.mantissa = 0 then ['0','.','0'] else (x.shortest layout.tieUp).render layout
  String.ofList (if negative then '-' :: body else body)

end RegistryRelay
