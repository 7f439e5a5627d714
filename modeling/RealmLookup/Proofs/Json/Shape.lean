import RealmLookup.Proofs.Json.Grammar
import RealmLookup.Proofs.Table.Entries
import RealmLookup.Json.Value
import Mathlib.Data.List.Forall2

/-!
# The shapes of values

Which trees show a value.  Strings may be escaped in any way, the members of an object that shows a
table come in any order, and of several members of one name the last one counts; an integer is shown
by its decimal digits.  A shape is given for each number of containers that may still be opened.

## Main definitions

* `Json.Shape` : the trees that show the values of a type.
* `Json.TextShape`, `Json.FlagShape`, `Json.IntegerShape` : the shapes of texts, flags and integers.
* `Json.Signed32Shape`, `Json.Unsigned32Shape` : the shapes of integers of 32 bits.
* `Json.NullableShape`, `Json.ListShape`, `Json.TableShape` : the shapes of values that may be null,
  of lists and of tables.

## Main results

* `Json.number?_of_decimal` : an integer of 64 bits is read from its decimal digits.
-/

namespace RealmLookup.Json

/-- The trees that show a value, with at most the given number of its containers inside each
other. -/
abbrev Shape (α : Type) : Type := Nat → α → Tree → Prop

/-- A text is shown by a string that stands for its characters. -/
inductive TextShape : Shape String
  | intro {depth : Nat} {text : String} {pieces : List Piece}
      (denotes : Denotes pieces text.toList) : TextShape depth text (.string pieces)

/-- A flag is shown by its name. -/
inductive FlagShape : Shape Bool
  | intro (depth : Nat) (flag : Bool) : FlagShape depth flag (.bool flag)

/-- An integer of a range is shown by its decimal digits. -/
inductive IntegerShape (least greatest : Int) : Shape Int
  | intro {depth : Nat} {value : Int} (lower : least ≤ value) (upper : value ≤ greatest) :
      IntegerShape least greatest depth value
        (.number ⟨decide (value < 0), Nat.toDigits 10 value.natAbs, [], none⟩)

/-- An integer of 64 bits is read from its decimal digits. -/
theorem number?_of_decimal {value : Int} (low : -(twoTo 63 : Int) ≤ value)
    (high : value ≤ maxInteger) :
    Literal.number? ⟨decide (value < 0), Nat.toDigits 10 value.natAbs, [], none⟩ =
      some (.integer value) := by
  have size : Nat.ofDigitChars 10 (Nat.toDigits 10 value.natAbs) 0 = value.natAbs :=
    Nat.ofDigitChars_ten_toDigits
  unfold Literal.number?
  dsimp only
  rw [size, if_pos ⟨rfl, rfl⟩]
  by_cases negative : value < 0
  · have fits : 0 < value.natAbs ∧ value.natAbs ≤ twoTo 63 := by omega
    have same : -(value.natAbs : Int) = value := by omega
    rw [decide_eq_true negative, if_neg (by simp), if_pos ⟨rfl, fits⟩, same]
  · have fits : value.natAbs ≤ maxInteger := by omega
    have same : (value.natAbs : Int) = value := by omega
    rw [decide_eq_false negative, if_pos ⟨rfl, fits⟩, same]

/-- The integers of 32 bits with a sign. -/
abbrev Signed32Shape : Shape Int :=
  IntegerShape (-twoTo 31) (twoTo 31 - 1)

/-- The integers of 32 bits without a sign. -/
def Unsigned32Shape : Shape Nat :=
  fun depth value tree => IntegerShape 0 (twoTo 32 - 1) depth value tree

section Compound

variable {α : Type}

/-- The absence of a value is shown by null. -/
inductive NullableShape (shape : Shape α) : Shape (Option α)
  | null (depth : Nat) : NullableShape shape depth none .null
  | some {depth : Nat} {value : α} {tree : Tree} (shows : shape depth value tree) :
      NullableShape shape depth (some value) tree

/-- A list is shown by an array that shows its items. -/
inductive ListShape (shape : Shape α) : Shape (List α)
  | intro {depth : Nat} {values : List α} {items : List Tree}
      (shows : List.Forall₂ (shape depth) values items) :
      ListShape shape (depth + 1) values (.array items)

/-- An entry is shown by a member whose name and value show its own. -/
structure EntryShape (shape : Shape α) (depth : Nat) (entry : String × α)
    (member : List Piece × Tree) : Prop where
  name : Denotes member.1 entry.1.toList
  value : shape depth entry.2 member.2

/-- A table is shown by an object of members that have the last value of every key. -/
inductive TableShape (shape : Shape α) : Shape (Table α)
  | intro {depth : Nat} {table : Table α} {entries : List (String × α)}
      {members : List (List Piece × Tree)}
      (shows : List.Forall₂ (EntryShape shape depth) entries members)
      (gathers : Table.Gathers entries table) :
      TableShape shape (depth + 1) table (.object members)

end Compound

end RealmLookup.Json
