import RealmLookup.Json.Value
import Mathlib.Tactic.Common

/-!
# Representable values

The integers of the values that are read from JSON texts fit 64 bits, with or without a sign.
Numbers that are larger are read as numbers in base two.

## Main definitions

* `Json.Representable` : values whose integers fit 64 bits.

## Main results

* `Json.representable_of_read` : the values that are read are representable.
-/

namespace RealmLookup.Json

/-- Values whose integers fit 64 bits, with or without a sign. -/
inductive Representable : Value → Prop
  | null : Representable .null
  | bool (value : Bool) : Representable (.bool value)
  | integer {value : Int} (least : -(twoTo 63 : Int) ≤ value) (greatest : value ≤ maxInteger) :
      Representable (.number (.integer value))
  | real (value : Decimal.Binary64) : Representable (.number (.real value))
  | string (text : String) : Representable (.string text)
  | array {items : List Value} (every : ∀ item ∈ items, Representable item) :
      Representable (.array items)
  | object {members : Table Value} (every : ∀ member ∈ members, Representable member.2) :
      Representable (.object members)

/-- A number that is written is representable. -/
theorem representable_of_number? {literal : Literal} {number : Number}
    (written : literal.number? = some number) : Representable (.number number) := by
  unfold Literal.number? at written
  dsimp only at written
  split at written
  · split at written
    · rename_i plain
      cases written
      refine .integer ?_ (Int.ofNat_le.2 plain.2)
      exact Int.le_trans (Int.neg_nonpos_of_nonneg (Int.natCast_nonneg _)) (Int.natCast_nonneg _)
    · split at written
      · rename_i signed
        cases written
        refine .integer (Int.neg_le_neg (Int.ofNat_le.2 signed.2.2)) ?_
        exact Int.le_trans (Int.neg_nonpos_of_nonneg (Int.natCast_nonneg _)) (Int.natCast_nonneg _)
      · obtain ⟨value, -, rfl⟩ := Option.map_eq_some_iff.1 written
        exact .real value
  · obtain ⟨value, -, rfl⟩ := Option.map_eq_some_iff.1 written
    exact .real value

mutual

/-- The value of a tree is representable. -/
theorem representable_of_value? {depth : Nat} {value : Value} :
    ∀ {tree : Tree}, tree.value? depth = some value → Representable value
  | .null, read => by
    cases depth <;> cases read <;> exact .null
  | .bool flag, read => by
    cases depth <;> cases read <;> exact .bool flag
  | .number literal, read => by
    rw [Tree.value?] at read
    obtain ⟨number, written, rfl⟩ := Option.map_eq_some_iff.1 read
    exact representable_of_number? written
  | .string text, read => by
    rw [Tree.value?] at read
    obtain ⟨text, -, rfl⟩ := Option.map_eq_some_iff.1 read
    exact .string _
  | .array trees, read => by
    cases depth with
    | zero => cases read
    | succ depth =>
      rw [Tree.value?] at read
      obtain ⟨items, listed, rfl⟩ := Option.map_eq_some_iff.1 read
      exact .array (representable_of_valuesOf? listed)
  | .object trees, read => by
    cases depth with
    | zero => cases read
    | succ depth =>
      rw [Tree.value?] at read
      obtain ⟨entries, listed, rfl⟩ := Option.map_eq_some_iff.1 read
      exact .object fun member kept =>
        representable_of_membersOf? listed member (Table.mem_of_mem_ofEntries kept)

/-- The values of a list of trees are representable. -/
theorem representable_of_valuesOf? {depth : Nat} {values : List Value} :
    ∀ {trees : List Tree}, valuesOf? depth trees = some values →
      ∀ value ∈ values, Representable value
  | [], read => by
    rw [valuesOf?] at read
    cases read
    exact List.forall_mem_nil _
  | tree :: rest, read => by
    rw [valuesOf?] at read
    split at read
    · rename_i value others first later
      cases read
      exact List.forall_mem_cons.2
        ⟨representable_of_value? first, representable_of_valuesOf? later⟩
    · cases read

/-- The values of a list of members are representable. -/
theorem representable_of_membersOf? {depth : Nat} {entries : List (String × Value)} :
    ∀ {trees : List (List Piece × Tree)}, membersOf? depth trees = some entries →
      ∀ entry ∈ entries, Representable entry.2
  | [], read => by
    rw [membersOf?] at read
    cases read
    exact List.forall_mem_nil _
  | (key, tree) :: rest, read => by
    rw [membersOf?] at read
    split at read
    · rename_i name value others named first later
      cases read
      exact List.forall_mem_cons.2
        ⟨representable_of_value? first, representable_of_membersOf? later⟩
    · cases read

end

/-- The values that are read from texts are representable. -/
theorem representable_of_read {text : List Char} {value : Value}
    (read : Value.read? text = some value) : Representable value := by
  obtain ⟨tree, -, read⟩ := Option.bind_eq_some_iff.1 read
  exact representable_of_value? read

theorem representable_of_readObject? {text : List Char} {members : Table Value}
    (read : readObject? text = some members) : Representable (.object members) := by
  unfold readObject? at read
  split at read
  · rename_i object
    cases read
    exact representable_of_read object
  · cases read

end RealmLookup.Json
