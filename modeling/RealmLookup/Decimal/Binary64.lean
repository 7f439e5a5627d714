import RealmLookup.Power

/-!
# Numbers of 64 bits in base two

The finite numbers of the IEEE 754 format binary64, held as sign, mantissa and exponent, and
rounding of exact quotients to them.  All arithmetic is that of natural numbers.

## Main definitions

* `Binary64` : a finite number, `± mantissa · 2 ^ exponent`.
* `Magnitude.nearest?` : the number nearest to a quotient, a tie going to the even mantissa.
* `Magnitude.times?`, `Magnitude.dividedBy` : product and quotient, rounded.
* `Magnitude.ofDecimal?` : the number nearest to a decimal.
-/

namespace RealmLookup.Decimal

/-- The number `mantissa · 2 ^ exponent`. -/
structure Magnitude where
  mantissa : Nat
  exponent : Int
deriving DecidableEq

/-- A finite number of 64 bits; zero has both signs. -/
structure Binary64 where
  negative : Bool
  magnitude : Magnitude
deriving DecidableEq

namespace Magnitude

/-- The least exponent, that of zero and of the subnormal numbers. -/
def minExponent : Int := -1074

/-- The greatest exponent. -/
def maxExponent : Int := 971

/-- Zero. -/
def zero : Magnitude := ⟨0, minExponent⟩

/-- The integer nearest to a quotient, a tie going to the even one. -/
def roundDiv (num den : Nat) : Nat :=
  if 2 * (num % den) < den then num / den
  else if den < 2 * (num % den) then num / den + 1
  else if num / den % 2 = 0 then num / den
  else num / den + 1

/-- The quotient divided by `2 ^ exponent`. -/
def unscale (num den : Nat) (exponent : Int) : Nat × Nat :=
  if 0 ≤ exponent then (num, den * twoTo exponent.toNat) else (num * twoTo (-exponent).toNat, den)

/-- The exponent at which a positive quotient has a mantissa of 53 bits, or the least one. -/
def exponentOf (num den : Nat) : Int :=
  let first : Int := (num.log2 : Int) - den.log2 - 53
  let parts := unscale num den first
  max minExponent (if parts.1 / parts.2 < twoTo 53 then first else first + 1)

/-- The number nearest to `num / den`, a tie going to the even mantissa; none above the
greatest number. -/
def nearest? (num den : Nat) : Option Magnitude :=
  if num = 0 then some zero
  else
    let exponent := exponentOf num den
    let parts := unscale num den exponent
    let mantissa := roundDiv parts.1 parts.2
    let rounded : Magnitude :=
      if mantissa = twoTo 53 then ⟨twoTo 52, exponent + 1⟩ else ⟨mantissa, exponent⟩
    if maxExponent < rounded.exponent then none else some rounded

/-- The number as a quotient. -/
def ratio (x : Magnitude) : Nat × Nat :=
  if 0 ≤ x.exponent then (x.mantissa * twoTo x.exponent.toNat, 1)
  else (x.mantissa, twoTo (-x.exponent).toNat)

/-- The rounded product; none above the greatest number. -/
def times? (x y : Magnitude) : Option Magnitude :=
  nearest? (x.ratio.1 * y.ratio.1) (x.ratio.2 * y.ratio.2)

/-- The rounded quotient by a number of at least one. -/
def dividedBy (x y : Magnitude) : Magnitude :=
  (nearest? (x.ratio.1 * y.ratio.2) (x.ratio.2 * y.ratio.1)).getD zero

/-- The number nearest to `digits · 10 ^ exponent`; none above the greatest number. -/
def ofDecimal? (digits : Nat) (exponent : Int) : Option Magnitude :=
  if digits = 0 then some zero
  else if 400 < exponent then none
  else if 0 ≤ exponent then nearest? (digits * tenTo exponent.toNat) 1
  else if exponent + digits.log2 < -1200 then some zero
  else nearest? digits (tenTo (-exponent).toNat)

end Magnitude

/-- Zero with a sign. -/
def Binary64.zero (negative : Bool) : Binary64 := ⟨negative, .zero⟩

end RealmLookup.Decimal
