/-!
# Tables

A table maps texts to values.  It is the list of its entries, each key once, in ascending
order of the keys; texts are compared character by character, which is the byte order of
their UTF-8 form.

## Main definitions

* `Table` : the type of tables.
* `Table.insert`, `Table.get?`, `Table.keys` : replacing an entry, looking one up, listing
  the keys.
* `Table.ofEntries` : the table of a list of entries, of which the last one of a key counts.

## Main results

* `Table.sorted_ofEntries` : tables are in ascending order of the keys.
* `Table.get?_insert` : the value at a key after an insertion.
-/

namespace RealmLookup

/-- A list of entries that `Table.insert` keeps in ascending order of the keys. -/
abbrev Table (α : Type) : Type := List (String × α)

namespace Table

variable {α β : Type}

/-- The table with `value` at `key`, replacing any earlier value there. -/
def insert (key : String) (value : α) : Table α → Table α
  | [] => [(key, value)]
  | (k, v) :: rest =>
      if key < k then (key, value) :: (k, v) :: rest
      else if key = k then (key, value) :: rest
      else (k, v) :: insert key value rest

/-- The value at a key. -/
def get? (key : String) : Table α → Option α
  | [] => none
  | (k, v) :: rest => if k = key then some v else get? key rest

/-- The keys in ascending order. -/
def keys (table : Table α) : List String :=
  table.map Prod.fst

/-- The table of a list of entries; of several entries with one key the last one counts. -/
def ofEntries (entries : List (String × α)) : Table α :=
  entries.foldl (fun table entry => insert entry.1 entry.2 table) []

/-- The table with every value replaced by its image. -/
def mapValues (f : α → β) (table : Table α) : Table β :=
  table.map fun entry => (entry.1, f entry.2)

/-- Keys that ascend strictly. -/
def Sorted (table : Table α) : Prop :=
  (keys table).Pairwise (· < ·)

/-- The keys after an insertion are the inserted key and those of the table. -/
theorem mem_keys_insert {key k : String} {value : α} {table : Table α} :
    k ∈ keys (insert key value table) ↔ k = key ∨ k ∈ keys table := by
  induction table with
  | nil => simp [insert, keys]
  | cons entry rest ih =>
    obtain ⟨first, v⟩ := entry
    rw [insert]
    split
    · simp [keys]
    · split
      · rename_i same
        simp [keys, same]
      · simp only [keys, List.map_cons, List.mem_cons] at ih ⊢
        rw [ih, or_left_comm]

/-- The value at a key is that of an entry. -/
theorem mem_of_get? {key : String} {value : α} {table : Table α}
    (found : get? key table = some value) : (key, value) ∈ table := by
  induction table with
  | nil => cases found
  | cons entry rest ih =>
    obtain ⟨first, v⟩ := entry
    rw [get?] at found
    split at found
    · rename_i same
      rw [same, Option.some.inj found]
      exact List.mem_cons_self
    · exact List.mem_cons_of_mem _ (ih found)

/-- The value at a key after an insertion. -/
theorem get?_insert {key k : String} {value : α} {table : Table α} :
    get? k (insert key value table) = if key = k then some value else get? k table := by
  induction table with
  | nil => rfl
  | cons entry rest ih =>
    obtain ⟨first, v⟩ := entry
    rw [insert]
    split
    · rfl
    · split
      · rename_i same
        rw [get?, get?, same]
        split <;> rfl
      · rename_i different
        rw [get?, get?, ih]
        split
        · rename_i found
          rw [if_neg fun same => different (same.trans found.symm)]
        · rfl

/-- The entries after an insertion are the inserted one and entries of the table. -/
theorem mem_of_mem_insert {key : String} {value : α} {table : Table α} {entry : String × α}
    (member : entry ∈ insert key value table) : entry = (key, value) ∨ entry ∈ table := by
  induction table with
  | nil => exact .inl (List.mem_singleton.1 member)
  | cons first rest ih =>
    rw [insert] at member
    split at member
    · exact List.mem_cons.1 member
    · split at member
      · exact (List.mem_cons.1 member).imp_right (List.mem_cons_of_mem _)
      · rcases List.mem_cons.1 member with rfl | member
        · exact .inr List.mem_cons_self
        · exact (ih member).imp_right (List.mem_cons_of_mem _)

/-- The table of a list of entries has entries of the list only. -/
theorem mem_of_mem_ofEntries {entries : List (String × α)} {entry : String × α}
    (member : entry ∈ ofEntries entries) : entry ∈ entries := by
  refine List.foldlRecOn entries _ (motive := fun table => ∀ entry ∈ table, entry ∈ entries)
    (List.forall_mem_nil _) (fun table kept added listed entry member => ?_) entry member
  rcases mem_of_mem_insert member with rfl | member
  · exact listed
  · exact kept entry member

/-- Insertion keeps the ascending order. -/
theorem sorted_insert (key : String) (value : α) {table : Table α} (h : Sorted table) :
    Sorted (insert key value table) := by
  induction table with
  | nil => simp [insert, Sorted, keys]
  | cons entry rest ih =>
    obtain ⟨first, v⟩ := entry
    obtain ⟨below, tail⟩ := List.pairwise_cons.1 h
    rw [insert]
    split
    · rename_i less
      refine List.pairwise_cons.2 ⟨fun k hk => ?_, h⟩
      rcases List.mem_cons.1 hk with rfl | hk
      · exact less
      · exact String.lt_trans less (below k hk)
    · rename_i notLess
      split
      · rename_i same
        exact same ▸ List.pairwise_cons.2 ⟨below, tail⟩
      · rename_i different
        refine List.pairwise_cons.2 ⟨fun k hk => ?_, ih tail⟩
        rcases mem_keys_insert.1 hk with rfl | hk
        · exact Std.lt_of_le_of_ne (String.not_lt.1 notLess) (Ne.symm different)
        · exact below k hk

/-- The table of a list of entries is in ascending order. -/
theorem sorted_ofEntries (entries : List (String × α)) : Sorted (ofEntries entries) :=
  List.foldlRecOn entries _ List.Pairwise.nil fun _ h entry _ => sorted_insert entry.1 entry.2 h

end Table

end RealmLookup
