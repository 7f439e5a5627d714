import RealmLookup.Decimal.Binary64

/-!
# Shortest decimals

The decimal of fewest digits that reads back as a given number of 64 bits, and of those the
nearest one.

## Main definitions

* `Decimal.Scientific` : a decimal as an integer and a power of ten.
* `Decimal.shortest` : the shortest decimal of a number.
* `Decimal.Style`, `Decimal.Style.write` : how a decimal is written out.
-/

namespace RealmLookup.Decimal

/-- The decimal `digits · 10 ^ exponent`. -/
structure Scientific where
  digits : Nat
  exponent : Int
deriving DecidableEq

/-- The quotient divided by `10 ^ exponent`. -/
def unscaleTen (num den : Nat) (exponent : Int) : Nat × Nat :=
  if 0 ≤ exponent then (num, den * tenTo exponent.toNat) else (num * tenTo (-exponent).toNat, den)

/-- The exponent of ten of the first digit of a positive quotient, searched downwards from
zero for at most `fuel` places. -/
def leadingBelow (num den : Nat) : Nat → Nat → Int
  | 0, place => -(place : Int)
  | fuel + 1, place =>
      if den ≤ num * tenTo place then -(place : Int) else leadingBelow num den fuel (place + 1)

/-- The exponent of ten of the first digit of a positive quotient. -/
def leadingExponent (num den : Nat) : Int :=
  if den ≤ num then ((Nat.toDigits 10 (num / den)).length : Int) - 1
  else leadingBelow num den 330 0

namespace Magnitude

/-- Four times the mantissas of the ends of the interval of reals that round to a number. -/
def bounds (x : Magnitude) : Nat × Nat :=
  (4 * x.mantissa - (if x.mantissa = twoTo 52 ∧ minExponent < x.exponent then 1 else 2),
    4 * x.mantissa + 2)

/-- Whether `digits · 10 ^ exponent` rounds to the number; the ends of the interval do so for
an even mantissa. -/
def accepts (x : Magnitude) (digits : Nat) (exponent : Int) : Bool :=
  let quarter : Magnitude := ⟨1, x.exponent - 2⟩
  let left := digits * quarter.ratio.2 * (if 0 ≤ exponent then tenTo exponent.toNat else 1)
  let right := quarter.ratio.1 * (if 0 ≤ exponent then 1 else tenTo (-exponent).toNat)
  let ends := x.bounds
  if x.mantissa % 2 = 0 then ends.1 * right ≤ left && left ≤ ends.2 * right
  else ends.1 * right < left && left < ends.2 * right

/-- The decimal on the grid `10 ^ exponent` that rounds to the number: of the two neighbours
the nearer one, and of two equally near ones the even one. -/
def onGrid? (x : Magnitude) (exponent : Int) : Option Nat :=
  let parts := unscaleTen x.ratio.1 x.ratio.2 exponent
  let below := parts.1 / parts.2
  let twice := 2 * (parts.1 % parts.2)
  let lowerFirst := twice < parts.2 || (twice == parts.2 && below % 2 == 0)
  let first := if lowerFirst then below else below + 1
  let second := if lowerFirst then below + 1 else below
  if x.accepts first exponent then some first
  else if x.accepts second exponent then some second
  else none

end Magnitude

/-- The decimal without its trailing zeros. -/
def Scientific.trim : Nat → Scientific → Scientific
  | 0, s => s
  | fuel + 1, s =>
      if s.digits ≠ 0 ∧ s.digits % 10 = 0 then trim fuel ⟨s.digits / 10, s.exponent + 1⟩ else s

/-- The decimal of fewest digits that reads back as the number. -/
def shortest (x : Magnitude) : Scientific :=
  if x.mantissa = 0 then ⟨0, 0⟩
  else
    let leading := leadingExponent x.ratio.1 x.ratio.2
    let found := (List.range 17).findSome? fun (count : Nat) =>
      let exponent := leading - (count : Int)
      (x.onGrid? exponent).map fun digits => (⟨digits, exponent⟩ : Scientific)
    (found.getD ⟨0, 0⟩).trim 17

/-- How decimals are written: the exponents of the first digit that are written positionally,
and the mark of a positive exponent otherwise. -/
structure Style where
  least : Int
  greatest : Int
  plus : List Char

/-- A decimal written with a point and, outside the positional range, an exponent; an integer
written positionally keeps one zero behind the point. -/
def Style.write (style : Style) (s : Scientific) : List Char :=
  let digits := Nat.toDigits 10 s.digits
  let leading := s.exponent + digits.length - 1
  if s.digits = 0 then ['0', '.', '0']
  else if style.least ≤ leading ∧ leading ≤ style.greatest then
    if 0 ≤ s.exponent then digits ++ List.replicate s.exponent.toNat '0' ++ ['.', '0']
    else if 0 ≤ leading then
      digits.take (leading + 1).toNat ++ '.' :: digits.drop (leading + 1).toNat
    else '0' :: '.' :: (List.replicate (-leading - 1).toNat '0' ++ digits)
  else
    let mantissa := match digits with
      | first :: second :: rest => first :: '.' :: second :: rest
      | short => short
    let exponent :=
      if 0 ≤ leading then style.plus ++ Nat.toDigits 10 leading.toNat
      else '-' :: Nat.toDigits 10 (-leading).toNat
    mantissa ++ 'e' :: exponent

end RealmLookup.Decimal
