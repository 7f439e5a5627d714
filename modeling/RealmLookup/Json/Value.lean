import RealmLookup.Decimal.Binary64
import RealmLookup.Json.Tree
import RealmLookup.Table

/-!
# JSON values

The values that JSON texts denote.  An integer that fits 64 bits, with or without a sign, is
an integer; any other number is a number of 64 bits in base two, computed from the leading
digits that fit 64 bits and one or two rounded steps for the power of ten.

## Main definitions

* `Json.Number`, `Json.Value` : numbers and values; the members of an object form a table.
* `Json.Literal.number?` : the number that was written.
* `Json.Tree.value?` : the value of a tree, within a number of nested containers.
* `Json.Value.read?` : the value of a text.
-/

namespace RealmLookup.Json

open RealmLookup.Decimal

/-- A number: an integer of 64 bits, or a number in base two. -/
inductive Number
  | integer (value : Int)
  | real (value : Binary64)
deriving DecidableEq

/-- A JSON value; the members of an object are a table. -/
inductive Value
  | null
  | bool (value : Bool)
  | number (value : Number)
  | string (text : String)
  | array (items : List Value)
  | object (members : List (String × Value))
deriving Inhabited

/-- The greatest integer. -/
def maxInteger : Nat := twoTo 64 - 1

/-! ### Numbers -/

/-- The leading digits of a number while they fit 64 bits, and the digits that do not. -/
def leadingDigits : Nat → List Char → Nat × List Char
  | found, [] => (found, [])
  | found, digit :: rest =>
      if found * 10 + (digit.toNat - '0'.toNat) ≤ maxInteger then
        leadingDigits (found * 10 + (digit.toNat - '0'.toNat)) rest
      else (found, digit :: rest)

/-- The number nearest to a power of ten. -/
def powerOfTen (exponent : Nat) : Magnitude :=
  (Magnitude.ofDecimal? 1 exponent).getD .zero

/-- The greatest power of ten in one step. -/
def maxPower : Nat := 308

/-- Scales by a power of ten, in steps that the format can hold; none above the greatest
number. -/
def scale? (x : Magnitude) (exponent : Int) : Option Magnitude :=
  if exponent.natAbs ≤ maxPower then
    if 0 ≤ exponent then x.times? (powerOfTen exponent.natAbs)
    else some (x.dividedBy (powerOfTen exponent.natAbs))
  else if x.mantissa = 0 then some x
  else if 0 ≤ exponent then none
  else scale? (x.dividedBy (powerOfTen maxPower)) (exponent + maxPower)
termination_by exponent.natAbs
decreasing_by
  have : maxPower = 308 := rfl
  omega

/-- The largest exponent that is looked at. -/
def maxExponentText : Nat := twoTo 31 - 1

/-- The number in base two that was written. -/
def Literal.real? (literal : Literal) : Option Binary64 :=
  let whole := leadingDigits 0 literal.whole
  let fraction := leadingDigits whole.1 literal.fraction
  let shift : Int :=
    (whole.2.length : Int) - (literal.fraction.length - fraction.2.length : Nat)
  let scaled (exponent : Int) : Option Binary64 :=
    ((Magnitude.nearest? fraction.1 1).bind fun x => scale? x exponent).map fun x =>
      ⟨literal.negative, x⟩
  match literal.exponent with
  | none => scaled shift
  | some (minus, digits) =>
      let size := Nat.ofDigitChars 10 digits 0
      if size ≤ maxExponentText then scaled (if minus then shift - size else shift + size)
      else if fraction.1 ≠ 0 ∧ !minus then none
      else some (.zero literal.negative)

/-- The number that was written; none if its size exceeds the greatest number. -/
def Literal.number? (literal : Literal) : Option Number :=
  let size := Nat.ofDigitChars 10 literal.whole 0
  if literal.fraction = [] ∧ literal.exponent = none then
    if !literal.negative ∧ size ≤ maxInteger then some (.integer size)
    else if literal.negative ∧ 0 < size ∧ size ≤ twoTo 63 then some (.integer (-size))
    else literal.real?.map .real
  else literal.real?.map .real

/-! ### Values -/

/-- The number of containers that may be open at once. -/
def nesting : Nat := 127

mutual

/-- The value of a tree with at most the given number of containers inside each other. -/
def Tree.value? : Nat → Tree → Option Value
  | _, .null => some .null
  | _, .bool value => some (.bool value)
  | _, .number literal => literal.number?.map .number
  | _, .string text => (text? text).map fun text => .string (String.ofList text)
  | 0, .array _ => none
  | depth + 1, .array items => (valuesOf? depth items).map .array
  | 0, .object _ => none
  | depth + 1, .object members =>
      (membersOf? depth members).map fun members => .object (Table.ofEntries members)

/-- The values of a list of trees. -/
def valuesOf? : Nat → List Tree → Option (List Value)
  | _, [] => some []
  | depth, tree :: rest =>
      match tree.value? depth, valuesOf? depth rest with
      | some value, some values => some (value :: values)
      | _, _ => none

/-- The entries of a list of members. -/
def membersOf? : Nat → List (List Piece × Tree) → Option (List (String × Value))
  | _, [] => some []
  | depth, (key, tree) :: rest =>
      match text? key, tree.value? depth, membersOf? depth rest with
      | some key, some value, some entries => some ((String.ofList key, value) :: entries)
      | _, _, _ => none

end

/-- The value of a JSON text. -/
def Value.read? (text : List Char) : Option Value :=
  (Tree.read? text).bind (Tree.value? nesting)

/-- The members of a JSON text that denotes an object. -/
def readObject? (text : List Char) : Option (Table Value) :=
  match Value.read? text with
  | some (.object members) => some members
  | _ => none

end RealmLookup.Json
