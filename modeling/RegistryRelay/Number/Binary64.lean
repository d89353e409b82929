namespace RegistryRelay

structure Decimal where
  digits : Nat
  exponent : Int
deriving DecidableEq, Repr

-- A finite binary64 number without its sign, mantissa times two to the exponent. Values
-- built here have the mantissa below 2^53, and below 2^52 only at exponent -1074.
structure Binary64 where
  mantissa : Nat
  exponent : Int
deriving DecidableEq, Repr

namespace Binary64

def zero : Binary64 := ⟨0,-1074⟩

def roundHalfEven (num den : Nat) : Nat :=
  let floor := num / den
  let twice := 2 * (num % den)
  if den < twice ∨ (twice = den ∧ floor % 2 = 1) then floor + 1 else floor

def nearest (num den : Nat) : Option Binary64 :=
  if num = 0 then some zero
  else
    let scaled (q : Int) : Nat × Nat := (num * Nat.pow 2 (-q).toNat,den * Nat.pow 2 q.toNat)
    let guess : Int := (Nat.log2 num : Int) - (Nat.log2 den : Int) - 53
    let fine := scaled guess
    let exponent := max (-1074) (if Nat.pow 2 53 ≤ fine.1 / fine.2 then guess + 1 else guess)
    let final := scaled exponent
    let mantissa := roundHalfEven final.1 final.2
    let result : Binary64 :=
      if mantissa = Nat.pow 2 53 then ⟨Nat.pow 2 52,exponent + 1⟩ else ⟨mantissa,exponent⟩
    if 971 < result.exponent then none else some result

def ratio (x : Binary64) : Nat × Nat :=
  (x.mantissa * Nat.pow 2 x.exponent.toNat,Nat.pow 2 (-x.exponent).toNat)

def mul (x y : Binary64) : Option Binary64 :=
  nearest (x.ratio.1 * y.ratio.1) (x.ratio.2 * y.ratio.2)

def div (x y : Binary64) : Option Binary64 :=
  nearest (x.ratio.1 * y.ratio.2) (x.ratio.2 * y.ratio.1)

-- The nearest binary64 to a decimal. Exponents far outside the range are settled by the
-- place of the first digit alone.
def ofDecimal (d : Decimal) : Option Binary64 :=
  if d.digits = 0 then some zero
  else
    let place := (Nat.toDigits 10 d.digits).length + d.exponent
    if 400 < place then none
    else if place < -400 then some zero
    else nearest (d.digits * Nat.pow 10 d.exponent.toNat) (Nat.pow 10 (-d.exponent).toNat)

end Binary64
end RegistryRelay
