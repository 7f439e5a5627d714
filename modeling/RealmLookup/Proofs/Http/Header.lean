import RealmLookup.Http.Header
import RealmLookup.Proofs.Table.Entries

/-!
# Tables of headers

Which entries of a table are headers, and which of them count.  The first entry that is no header is
reported; of several spellings of a name the last one counts, in the order of the spellings.

## Main definitions

* `Http.Header.ValidName`, `Http.Header.ValidValue`, `Http.Header.Valid` : headers.
* `Http.Header.FirstInvalid` : the first entry of a table that is no header.
* `Http.Header.Counts` : the value of a header that counts.

## Main results

* `Http.Header.collect_eq_ok_iff` : a table of headers is collected as their last values.
* `Http.Header.collect_eq_error_iff` : a table with other entries is not, and the first is reported.
* `Http.Header.get?_collect` : the value of a collected header is the one that counts.
-/

namespace RealmLookup.Http.Header

/-! ### Headers -/

/-- The signs that may be in the name of a header, next to letters and digits. -/
def nameSigns : List Char :=
  ['!', '#', '$', '%', '&', '\'', '*', '+', '-', '.', '^', '_', Char.ofNat 0x60, '|', '~']

/-- The names of headers. -/
structure ValidName (name : String) : Prop where
  filled : name ≠ ""
  signs : ∀ c ∈ name.toList, c.isAlphanum = true ∨ c ∈ nameSigns
  short : name.length ≤ 65535

/-- The values of headers: no control characters but the tab. -/
def ValidValue (value : String) : Prop :=
  ∀ c ∈ value.toList, c.toNat < 0x20 ∨ c.toNat = 0x7F → c = '\t'

/-- The entries that are headers. -/
structure Valid (entry : String × String) : Prop where
  name : ValidName entry.1
  value : ValidValue entry.2

/-- A name in lower case. -/
def lower (name : String) : String :=
  String.ofList (name.toList.map Char.toLower)

/-- The first entry of a table that is no header, in the order of the names. -/
def FirstInvalid (table : Table String) (name : String) : Prop :=
  ∃ value, (name, value) ∈ table ∧ ¬ Valid (name, value) ∧
    ∀ other ∈ table, other.1 < name → Valid other

/-- The value of a header that counts: that of its last spelling. -/
inductive Counts (table : Table String) (name value : String) : Prop
  | intro {spelling : String} (listed : (spelling, value) ∈ table) (same : lower spelling = name)
      (last : ∀ other ∈ table, lower other.1 = name → other.1 ≤ spelling)

theorem name?_eq_some_iff {name found : String} :
    name? name = some found ↔ ValidName name ∧ lower name = found := by
  have signs : name.toList.all isNameChar = true ↔
      ∀ c ∈ name.toList, c.isAlphanum = true ∨ c ∈ nameSigns := by
    simp only [List.all_eq_true, isNameChar, Bool.or_eq_true, List.contains_iff_mem]
    rfl
  unfold name?
  constructor
  · intro read
    split at read
    · rename_i valid
      exact ⟨⟨valid.1, signs.1 valid.2.1, valid.2.2⟩, Option.some.inj read⟩
    · cases read
  · rintro ⟨valid, rfl⟩
    exact if_pos ⟨valid.filled, signs.2 valid.signs, valid.short⟩

theorem isValue_iff {value : String} : isValue value = true ↔ ValidValue value := by
  simp only [isValue, ValidValue, List.all_eq_true, Bool.or_eq_true, beq_iff_eq, Bool.and_eq_true,
    decide_eq_true_eq, bne_iff_ne]
  refine forall₂_congr fun c _ => ?_
  constructor
  · rintro (tab | printable) control
    · exact tab
    · omega
  · intro tab
    by_cases control : c.toNat < 0x20 ∨ c.toNat = 0x7F
    · exact .inl (tab control)
    · exact .inr (by omega)

/-! ### Collecting headers -/

section Collecting

variable {table rest headers result : Table String} {entry : String × String} {name value : String}

/-- A header is added under its name in lower case. -/
theorem collectInto_of_valid (valid : Valid entry) :
    collectInto headers (entry :: rest) =
      collectInto (Table.insert (lower entry.1) entry.2 headers) rest := by
  rw [collectInto, name?_eq_some_iff.2 ⟨valid.name, rfl⟩]
  exact if_pos (isValue_iff.2 valid.value)

/-- An entry that is no header is reported. -/
theorem collectInto_of_not_valid (invalid : ¬ Valid entry) :
    collectInto headers (entry :: rest) = .error entry.1 := by
  rw [collectInto]
  cases read : name? entry.1 with
  | none => rfl
  | some found =>
    have other : ¬ isValue entry.2 = true := fun value =>
      invalid ⟨(name?_eq_some_iff.1 read).1, isValue_iff.1 value⟩
    exact if_neg other

/-- The entries of a table under their names in lower case. -/
def lowered (table : Table String) : List (String × String) :=
  table.map fun entry => (lower entry.1, entry.2)

theorem mem_keys_lowered : name ∈ Table.keys (lowered table) ↔
    ∃ entry ∈ table, lower entry.1 = name := by
  simp [Table.keys, lowered]

theorem collectInto_eq_ok_iff : collectInto headers table = .ok result ↔
    (∀ entry ∈ table, Valid entry) ∧
      (lowered table).foldl (fun found entry => Table.insert entry.1 entry.2 found) headers =
        result := by
  induction table generalizing headers with
  | nil => simp [collectInto, lowered]
  | cons entry rest ih =>
    by_cases valid : Valid entry
    · rw [collectInto_of_valid valid, ih, List.forall_mem_cons]
      simp [valid, lowered]
    · rw [collectInto_of_not_valid valid, List.forall_mem_cons]
      simp [valid]

/-- A table of headers is collected as their last values. -/
theorem collect_eq_ok_iff : collect table = .ok result ↔
    (∀ entry ∈ table, Valid entry) ∧ Table.ofEntries (lowered table) = result :=
  collectInto_eq_ok_iff

theorem collectInto_eq_error_iff (sorted : table.Sorted) :
    collectInto headers table = .error name ↔ FirstInvalid table name := by
  induction table generalizing headers with
  | nil => simp [collectInto, FirstInvalid]
  | cons entry rest ih =>
    obtain ⟨below, tail⟩ := List.pairwise_cons.1 sorted
    by_cases valid : Valid entry
    · rw [collectInto_of_valid valid, ih tail]
      constructor
      · rintro ⟨value, listed, invalid, first⟩
        exact ⟨value, List.mem_cons_of_mem _ listed, invalid,
          List.forall_mem_cons.2 ⟨fun _ => valid, first⟩⟩
      · rintro ⟨value, listed, invalid, first⟩
        rcases List.mem_cons.1 listed with rfl | listed
        · exact absurd valid invalid
        · exact ⟨value, listed, invalid, (List.forall_mem_cons.1 first).2⟩
    · rw [collectInto_of_not_valid valid]
      constructor
      · intro same
        obtain rfl := Except.error.inj same
        refine ⟨entry.2, List.mem_cons_self, valid, List.forall_mem_cons.2 ⟨fun less => ?_, ?_⟩⟩
        · exact absurd less (String.lt_irrefl _)
        · intro other listed less
          have greater := below other.1 (List.mem_map_of_mem listed)
          exact absurd (String.lt_trans less greater) (String.lt_irrefl _)
      · rintro ⟨value, listed, invalid, first⟩
        rcases List.mem_cons.1 listed with rfl | listed
        · rfl
        · have less := below name (List.mem_map_of_mem listed)
          exact absurd (first entry List.mem_cons_self less) valid

/-- A table with an entry that is no header is not collected, and the first such entry is
reported. -/
theorem collect_eq_error_iff (sorted : table.Sorted) :
    collect table = .error name ↔ FirstInvalid table name :=
  collectInto_eq_error_iff sorted

/-- The value of a collected header is the one that counts. -/
theorem get?_collect (sorted : table.Sorted) (collected : collect table = .ok headers) :
    Table.get? name headers = some value ↔ Counts table name value := by
  obtain ⟨-, rfl⟩ := collect_eq_ok_iff.1 collected
  rw [Table.get?_ofEntries_eq_some_iff]
  constructor
  · rintro ⟨front, back, split, fresh⟩
    obtain ⟨before, later, rfl, rfl, behind⟩ := List.map_eq_append_iff.1 split
    obtain ⟨entry, after, rfl, same, rfl⟩ := List.map_eq_cons_iff.1 behind
    obtain ⟨rfl, rfl⟩ := Prod.mk.inj same
    refine ⟨List.mem_append_right _ List.mem_cons_self, rfl, fun other listed alike => ?_⟩
    rcases List.mem_append.1 listed with listed | listed
    · have ascending := (List.pairwise_append.1 sorted.pairwise).2.2
      exact Std.le_of_lt (ascending other listed entry List.mem_cons_self)
    · rcases List.mem_cons.1 listed with rfl | listed
      · exact Std.le_refl _
      · exact absurd (mem_keys_lowered.2 ⟨other, listed, alike⟩) fresh
  · rintro ⟨listed, rfl, last⟩
    obtain ⟨before, after, rfl⟩ := List.append_of_mem listed
    refine ⟨lowered before, lowered after, ?_, fun again => ?_⟩
    · rw [lowered, List.map_append, List.map_cons]
      rfl
    · obtain ⟨other, listed, same⟩ := mem_keys_lowered.1 again
      have ascending := (List.pairwise_append.1 sorted.pairwise).2.1
      have greater := (List.pairwise_cons.1 ascending).1 other listed
      have within := last other (List.mem_append_right _ (List.mem_cons_of_mem _ listed)) same
      exact absurd greater (String.not_lt.2 within)

end Collecting

end RealmLookup.Http.Header
