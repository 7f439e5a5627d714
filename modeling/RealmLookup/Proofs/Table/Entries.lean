import RealmLookup.Table
import Mathlib.Data.List.Induction
import Mathlib.Data.List.Nodup
import Mathlib.Tactic.Common

/-!
# Tables of entries

A table is determined by its values, so the table of a list of entries is the one that has the last
value of every key.  The order of the entries does not matter as long as no key occurs twice.

## Main definitions

* `Table.Gathers` : the table that has the last value of every key of a list of entries.

## Main results

* `Table.Sorted.ext` : tables with the same values are equal.
* `Table.Gathers.ofEntries_eq` : the table of a list of entries has the last value of every key.
* `Table.gathers_of_perm` : a table is the one of its entries in any order.
-/

namespace RealmLookup.Table

variable {α β : Type} {key : String} {value : α} {entries : List (String × α)}
  {table other : Table α}

/-! ### Values at keys -/

theorem get?_eq_none_iff : get? key entries = none ↔ key ∉ keys entries := by
  induction entries with
  | nil => exact iff_of_true rfl List.not_mem_nil
  | cons entry rest ih =>
    obtain ⟨first, v⟩ := entry
    rw [get?]
    split
    · rename_i same
      exact iff_of_false (Option.some_ne_none v) fun absent => absent (by simp [keys, same])
    · rename_i different
      rw [ih]
      simp [keys, Ne.symm different]

/-- An entry has the value at its key if no other entry has this key. -/
theorem get?_of_mem (distinct : (keys entries).Nodup) (member : (key, value) ∈ entries) :
    get? key entries = some value := by
  induction entries with
  | nil => cases member
  | cons entry rest ih =>
    obtain ⟨first, v⟩ := entry
    obtain ⟨fresh, distinct⟩ := List.nodup_cons.1 distinct
    rcases List.mem_cons.1 member with same | member
    · cases same
      exact if_pos rfl
    · have listed : key ∈ keys rest := List.mem_map.2 ⟨_, member, rfl⟩
      have different : first ≠ key := fun same => fresh (same ▸ listed)
      exact (if_neg different).trans (ih distinct member)

theorem mem_iff_get? {entry : String × α} (distinct : (keys entries).Nodup) :
    entry ∈ entries ↔ get? entry.1 entries = some entry.2 :=
  ⟨get?_of_mem distinct, mem_of_get?⟩

/-- The first entry of a key has its value. -/
theorem get?_eq_some_iff : get? key entries = some value ↔
    ∃ before after, entries = before ++ (key, value) :: after ∧ key ∉ keys before := by
  constructor
  · intro found
    induction entries with
    | nil => cases found
    | cons entry rest ih =>
      obtain ⟨first, v⟩ := entry
      rw [get?] at found
      split at found
      · rename_i same
        obtain rfl := Option.some.inj found
        exact ⟨[], rest, same ▸ rfl, List.not_mem_nil⟩
      · rename_i different
        obtain ⟨before, after, rfl, fresh⟩ := ih found
        exact ⟨(first, v) :: before, after, rfl,
          List.not_mem_cons_of_ne_of_not_mem (Ne.symm different) fresh⟩
  · rintro ⟨before, after, rfl, fresh⟩
    induction before with
    | nil => exact if_pos rfl
    | cons entry rest ih =>
      have different : entry.1 ≠ key := (List.ne_of_not_mem_cons fresh).symm
      exact (if_neg different).trans (ih (List.not_mem_of_not_mem_cons fresh))

/-- Entries in another order have the same values, if no key occurs twice. -/
theorem get?_of_perm {others : List (String × α)} (distinct : (keys entries).Nodup)
    (same : entries.Perm others) (key : String) : get? key others = get? key entries := by
  have unique : (keys others).Nodup := (same.map Prod.fst).nodup_iff.1 distinct
  cases found : get? key entries with
  | none =>
    rw [get?_eq_none_iff] at found ⊢
    exact fun listed => found ((same.map Prod.fst).mem_iff.2 listed)
  | some value => exact get?_of_mem unique (same.mem_iff.1 (mem_of_get? found))

theorem get?_mapValues (f : α → β) (key : String) (entries : List (String × α)) :
    get? key (mapValues f entries) = (get? key entries).map f := by
  induction entries with
  | nil => rfl
  | cons entry rest ih =>
    rw [mapValues, List.map_cons, get?, get?]
    split
    · rfl
    · exact ih

theorem keys_mapValues (f : α → β) (entries : List (String × α)) :
    keys (mapValues f entries) = keys entries := by
  rw [keys, mapValues, List.map_map]
  rfl

/-! ### Tables -/

theorem Sorted.nodup (sorted : table.Sorted) : (keys table).Nodup := by
  refine List.Pairwise.imp ?_ sorted
  rintro key _ less rfl
  exact String.lt_irrefl key less

theorem Sorted.pairwise (sorted : table.Sorted) :
    table.Pairwise fun entry other => entry.1 < other.1 :=
  List.Pairwise.of_map Prod.fst (fun _ _ less => less) sorted

/-- Tables with the same values are equal. -/
theorem Sorted.ext (sorted : table.Sorted) (ascending : other.Sorted)
    (same : ∀ key, get? key table = get? key other) : table = other := by
  have perm : table.Perm other :=
    (List.perm_ext_iff_of_nodup (List.Nodup.of_map _ sorted.nodup)
      (List.Nodup.of_map _ ascending.nodup)).2 fun entry => by
        rw [mem_iff_get? sorted.nodup, mem_iff_get? ascending.nodup, same]
  exact perm.eq_of_pairwise
    (fun _ _ _ _ less greater => absurd (String.lt_trans less greater) (String.lt_irrefl _))
    sorted.pairwise ascending.pairwise

/-! ### The table of a list of entries -/

/-- The table that has the last value of every key of a list of entries. -/
structure Gathers (entries : List (String × α)) (table : Table α) : Prop where
  sorted : table.Sorted
  latest : ∀ key, get? key table = get? key entries.reverse

/-- Entries that are inserted replace the values of their keys; of several ones of a key the last
one counts. -/
theorem get?_foldl_insert (key : String) (entries : List (String × α)) (table : Table α) :
    get? key (entries.foldl (fun table entry => insert entry.1 entry.2 table) table) =
      (get? key entries.reverse).or (get? key table) := by
  induction entries using List.reverseRecOn with
  | nil => rfl
  | append_singleton front entry ih =>
    rw [List.foldl_concat, get?_insert, ih, List.reverse_concat, get?]
    split <;> rfl

/-- The last value of a key counts. -/
theorem get?_ofEntries (key : String) (entries : List (String × α)) :
    get? key (ofEntries entries) = get? key entries.reverse :=
  (get?_foldl_insert key entries []).trans (Option.or_none)

/-- Insertions keep the ascending order. -/
theorem Sorted.foldl_insert (sorted : table.Sorted) (entries : List (String × α)) :
    Sorted (entries.foldl (fun table entry => insert entry.1 entry.2 table) table) :=
  List.foldlRecOn entries _ sorted fun _ h entry _ => sorted_insert entry.1 entry.2 h

/-- The value of a key is that of the entries of this key. -/
theorem get?_filter (key : String) (entries : List (String × α)) :
    get? key (entries.filter fun entry => entry.1 == key) = get? key entries := by
  induction entries with
  | nil => rfl
  | cons entry rest ih =>
    obtain ⟨first, v⟩ := entry
    by_cases same : first = key
    · simp [get?, same]
    · simp [get?, same, ih]

theorem mem_keys_ofEntries : key ∈ keys (ofEntries entries) ↔ key ∈ keys entries := by
  rw [← not_iff_not, ← get?_eq_none_iff, get?_ofEntries, get?_eq_none_iff]
  simp [keys]

/-- The last entry of a key counts. -/
theorem get?_ofEntries_eq_some_iff : get? key (ofEntries entries) = some value ↔
    ∃ before after, entries = before ++ (key, value) :: after ∧ key ∉ keys after := by
  have turned (front : List (String × α)) : key ∉ keys front.reverse ↔ key ∉ keys front := by
    simp [keys]
  rw [get?_ofEntries, get?_eq_some_iff]
  constructor
  · rintro ⟨after, before, split, fresh⟩
    refine ⟨before.reverse, after.reverse, ?_, (turned after).2 fresh⟩
    rw [← List.reverse_reverse entries, split]
    simp
  · rintro ⟨before, after, rfl, fresh⟩
    exact ⟨after.reverse, before.reverse, by simp, (turned after).2 fresh⟩

/-- The table of a list of entries has the last value of every key. -/
theorem Gathers.ofEntries_eq (gathers : Gathers entries table) : ofEntries entries = table :=
  (sorted_ofEntries entries).ext gathers.sorted fun key =>
    (get?_ofEntries key entries).trans (gathers.latest key).symm

/-- A table is the one of its entries in any order. -/
theorem gathers_of_perm (sorted : table.Sorted) (same : entries.Perm table) :
    Gathers entries table where
  sorted := sorted
  latest key :=
    (get?_of_perm sorted.nodup (same.symm.trans (List.reverse_perm entries).symm) key).symm

/-- So it is with the values replaced by their images. -/
theorem Gathers.mapValues (f : α → β) (gathers : Gathers entries table) :
    Gathers (mapValues f entries) (mapValues f table) where
  sorted := by
    rw [Sorted, keys_mapValues]
    exact gathers.sorted
  latest key := by
    have turned : (Table.mapValues f entries).reverse = Table.mapValues f entries.reverse :=
      List.map_reverse.symm
    rw [turned, get?_mapValues, get?_mapValues, gathers.latest]

end RealmLookup.Table
