import RealmLookup.Json.Printer
import RealmLookup.Proofs.Json.Reading
import RealmLookup.Proofs.Json.Shape

/-!
# Reading compact JSON

The compact text of a value is a JSON text of a tree that has this value, so it is read back.  That
holds of values without numbers in base two, whose integers fit 64 bits, as long as not too many
containers are inside each other.

## Main definitions

* `Json.Tabular` : values whose objects are tables.
* `Json.Integral` : values whose numbers are integers, with their nesting.
* `Json.Renders` : the trees of the compact text of a value.

## Main results

* `Json.stringText_flatMap_renderChar` : the characters of any text are written as a string.
* `Json.exists_renders` : the compact text of a value is that of a tree with this value.
* `Json.read?_render` : the compact text of a value is read back.
* `Json.tabular_of_value?` : the objects of a value that is read are tables.
-/

namespace RealmLookup.Json

/-! ### Values that are read back -/

/-- Values whose objects are tables. -/
inductive Tabular : Value → Prop
  | null : Tabular .null
  | bool (flag : Bool) : Tabular (.bool flag)
  | number (number : Number) : Tabular (.number number)
  | string (text : String) : Tabular (.string text)
  | array {items : List Value} (every : ∀ item ∈ items, Tabular item) : Tabular (.array items)
  | object {members : Table Value} (sorted : members.Sorted)
      (every : ∀ member ∈ members, Tabular member.2) : Tabular (.object members)

/-- Values whose numbers are integers of 64 bits, with or without a sign, with at most the given
number of containers inside each other. -/
inductive Integral : Nat → Value → Prop
  | null (depth : Nat) : Integral depth .null
  | bool (depth : Nat) (flag : Bool) : Integral depth (.bool flag)
  | integer {depth : Nat} {value : Int} (least : -(twoTo 63 : Int) ≤ value)
      (greatest : value ≤ maxInteger) : Integral depth (.number (.integer value))
  | string (depth : Nat) (text : String) : Integral depth (.string text)
  | array {depth : Nat} {items : List Value} (every : ∀ item ∈ items, Integral depth item) :
      Integral (depth + 1) (.array items)
  | object {depth : Nat} {members : Table Value}
      (every : ∀ member ∈ members, Integral depth member.2) :
      Integral (depth + 1) (.object members)

attribute [simp] Tabular.null Tabular.bool Tabular.number Tabular.string Integral.null Integral.bool
  Integral.string

@[simp]
theorem tabular_array_iff {items : List Value} :
    Tabular (.array items) ↔ ∀ item ∈ items, Tabular item :=
  ⟨fun | .array every => every, .array⟩

@[simp]
theorem tabular_object_iff {members : Table Value} :
    Tabular (.object members) ↔ members.Sorted ∧ ∀ member ∈ members, Tabular member.2 :=
  ⟨fun | .object sorted every => ⟨sorted, every⟩, fun ⟨sorted, every⟩ => .object sorted every⟩

@[simp]
theorem integral_integer_iff {depth : Nat} {value : Int} :
    Integral depth (.number (.integer value)) ↔ -(twoTo 63 : Int) ≤ value ∧ value ≤ maxInteger :=
  ⟨fun | .integer least greatest => ⟨least, greatest⟩, fun ⟨least, greatest⟩ =>
    .integer least greatest⟩

@[simp]
theorem integral_array_iff {depth : Nat} {items : List Value} :
    Integral (depth + 1) (.array items) ↔ ∀ item ∈ items, Integral depth item :=
  ⟨fun | .array every => every, .array⟩

@[simp]
theorem integral_object_iff {depth : Nat} {members : Table Value} :
    Integral (depth + 1) (.object members) ↔ ∀ member ∈ members, Integral depth member.2 :=
  ⟨fun | .object every => every, .object⟩

theorem Integral.mono {depth more : Nat} {value : Value} (integral : Integral depth value)
    (le : depth ≤ more) : Integral more value := by
  induction integral generalizing more with
  | null => exact .null more
  | bool depth flag => exact .bool more flag
  | integer least greatest => exact .integer least greatest
  | string depth text => exact .string more text
  | array every ih =>
    obtain ⟨less, rfl⟩ := Nat.exists_eq_add_one_of_ne_zero (Nat.ne_zero_of_lt le)
    exact .array fun item listed => ih item listed (Nat.le_of_succ_le_succ le)
  | object every ih =>
    obtain ⟨less, rfl⟩ := Nat.exists_eq_add_one_of_ne_zero (Nat.ne_zero_of_lt le)
    exact .object fun member listed => ih member listed (Nat.le_of_succ_le_succ le)

/-! ### Texts of tokens side by side -/

/-- A text of tokens without white space between them. -/
def Adjoined (text : List Char) (tokens : List Token) : Prop :=
  ∃ texts, texts.flatten = text ∧ List.Forall₂ TokenText texts tokens

namespace Adjoined

variable {text more : List Char} {tokens others : List Token}

theorem nil : Adjoined [] [] :=
  ⟨[], rfl, .nil⟩

theorem single {token : Token} (written : TokenText text token) : Adjoined text [token] :=
  ⟨[text], List.append_nil text, .cons written .nil⟩

theorem append (first : Adjoined text tokens) (second : Adjoined more others) :
    Adjoined (text ++ more) (tokens ++ others) := by
  obtain ⟨texts, rfl, written⟩ := first
  obtain ⟨rest, rfl, follows⟩ := second
  exact ⟨texts ++ rest, List.flatten_append, List.rel_append written follows⟩

theorem spelled (adjoined : Adjoined text tokens) : Spelled text tokens := by
  obtain ⟨texts, rfl, written⟩ := adjoined
  exact spelled_flatten written

end Adjoined

/-! ### Strings -/

theorem hexDigit_of_lt {n : Nat} (digit : n < 16) : HexDigit (hexDigit n) n := by
  have same : ∀ n < 16, hexDigit n = n.digitChar := by decide
  rw [same n digit]
  exact .lower digit

theorem eq_ofNat_of_toNat {c : Char} {n : Nat} (same : c.toNat = n) : c = Char.ofNat n := by
  rw [← same, Char.ofNat_toNat]

/-- A character is written in front of a string in one way. -/
theorem stringText_renderChar (c : Char) {text : List Char} {pieces : List Piece}
    (follows : StringText text pieces) :
    ∃ front, StringText (renderChar c ++ text) (front ++ pieces) ∧
      ∀ {others rest}, Denotes others rest → Denotes (front ++ others) (c :: rest) := by
  have scalar {mark d : Char} (same : c = d) (escapes : Escape mark d) :
      ∃ front, StringText (['\\', mark] ++ text) (front ++ pieces) ∧
        ∀ {others rest}, Denotes others rest → Denotes (front ++ others) (c :: rest) :=
    ⟨[.scalar c], same ▸ .escape escapes follows, .scalar c⟩
  unfold renderChar
  split_ifs with quote backslash printable
  · exact scalar quote .quote
  · exact scalar backslash .backslash
  · exact ⟨[.scalar c], .plain printable quote backslash follows, .scalar c⟩
  · exact scalar (eq_ofNat_of_toNat ‹_›) .backspace
  · exact scalar (eq_ofNat_of_toNat ‹_›) .tab
  · exact scalar (eq_ofNat_of_toNat ‹_›) .newline
  · exact scalar (eq_ofNat_of_toNat ‹_›) .formFeed
  · exact scalar (eq_ofNat_of_toNat ‹_›) .carriageReturn
  · have zero : HexDigit '0' 0 := .lower (n := 0) (by decide)
    have code : ((0 * 16 + 0) * 16 + c.toNat / 16) * 16 + c.toNat % 16 = c.toNat := by omega
    refine ⟨[.unit c.toNat], ?_, .unit (by omega)⟩
    have written := StringText.unit zero zero (hexDigit_of_lt (n := c.toNat / 16) (by omega))
      (hexDigit_of_lt (n := c.toNat % 16) (by omega)) follows
    rw [code] at written
    exact written

/-- The characters of any text are written as a string. -/
theorem stringText_flatMap_renderChar (text : List Char) :
    ∃ pieces, StringText (text.flatMap renderChar) pieces ∧ Denotes pieces text := by
  induction text with
  | nil => exact ⟨[], .nil, .nil⟩
  | cons c rest ih =>
    obtain ⟨pieces, written, denotes⟩ := ih
    obtain ⟨front, first, stands⟩ := stringText_renderChar c written
    exact ⟨front ++ pieces, first, stands denotes⟩

/-- A text in quotes is a string that stands for it. -/
theorem tokenText_renderString (text : String) :
    ∃ pieces, TokenText (renderString text) (.string pieces) ∧ text? pieces = some text.toList := by
  obtain ⟨pieces, written, denotes⟩ := stringText_flatMap_renderChar text.toList
  exact ⟨pieces, .string written, text?_of_denotes denotes⟩

/-! ### Integers -/

theorem digits_toDigits (n : Nat) : Digits (Nat.toDigits 10 n) :=
  ⟨Nat.toDigits_ne_nil, fun _ member => Nat.isDigit_of_mem_toDigits (by decide) (by decide) member⟩

/-- The digits of a positive number do not begin with a zero. -/
theorem head?_toDigits {n : Nat} (positive : 0 < n) : (Nat.toDigits 10 n).head? ≠ some '0' := by
  induction n using Nat.strongRecOn with
  | ind n ih =>
    rcases Nat.lt_or_ge n 10 with small | large
    · have single : ∀ n < 10, 0 < n → (Nat.toDigits 10 n).head? ≠ some '0' := by decide
      exact single n small positive
    · obtain ⟨first, more, digits⟩ := List.exists_cons_of_ne_nil (Nat.toDigits_ne_nil (n := n / 10))
      have front := ih (n / 10) (by omega) (by omega)
      rw [Nat.toDigits_of_base_le (by decide) large, digits]
      rwa [digits] at front

/-- An integer is written as the literal of its digits. -/
theorem numberText_render (value : Int) :
    NumberText (Number.integer value).render
      ⟨decide (value < 0), Nat.toDigits 10 value.natAbs, [], none⟩ := by
  have leading (first : (Nat.toDigits 10 value.natAbs).head? = some '0') :
      Nat.toDigits 10 value.natAbs = ['0'] := by
    rcases Nat.eq_zero_or_pos value.natAbs with zero | positive
    · rw [zero, Nat.toDigits_zero]
    · exact absurd first (head?_toDigits positive)
  have written := @NumberText.intro (decide (value < 0)) _ [] [] [] none
    (digits_toDigits value.natAbs) leading .absent .absent
  rw [List.append_nil, List.append_nil] at written
  by_cases negative : value < 0
  · simpa [Number.render, negative] using written
  · simpa [Number.render, negative] using written

/-! ### Values -/

/-- The trees of the compact text of a value. -/
structure Renders (depth : Nat) (value : Value) (tree : Tree) : Prop where
  adjoined : Adjoined value.render tree.tokens
  value : tree.value? depth = some value

/-- The members of the compact text of an entry. -/
structure RendersEntry (depth : Nat) (entry : String × Value) (member : List Piece × Tree) :
    Prop where
  name : TokenText (renderString entry.1) (.string member.1)
  text : text? member.1 = some entry.1.toList
  value : Renders depth entry.2 member.2

/-- Items that are paired one by one with what is found for them. -/
theorem exists_forall₂ {α β : Type} {related : α → β → Prop} {items : List α}
    (every : ∀ item ∈ items, ∃ found, related item found) :
    ∃ founds, List.Forall₂ related items founds := by
  induction items with
  | nil => exact ⟨[], .nil⟩
  | cons item rest ih =>
    obtain ⟨⟨found, first⟩, later⟩ := List.forall_mem_cons.1 every
    obtain ⟨founds, others⟩ := ih later
    exact ⟨found :: founds, .cons first others⟩

section Containers

variable {depth : Nat}

theorem adjoined_renderItems {items : List Value} {trees : List Tree}
    (renders : List.Forall₂ (Renders depth) items trees) :
    Adjoined (renderItems items) (itemTokens trees) := by
  induction renders with
  | nil => rw [renderItems, itemTokens]; exact .nil
  | cons first rest ih =>
    rw [renderItems, itemTokens]
    exact (Adjoined.single .comma).append (first.adjoined.append ih)

theorem valuesOf?_of_renders {items : List Value} {trees : List Tree}
    (renders : List.Forall₂ (Renders depth) items trees) :
    valuesOf? depth trees = some items := by
  induction renders with
  | nil => rw [valuesOf?]
  | cons first rest ih => rw [valuesOf?, first.value, ih]

/-- A member is written as its name, a colon and its value. -/
theorem RendersEntry.adjoined {entry : String × Value} {member : List Piece × Tree}
    (renders : RendersEntry depth entry member) :
    Adjoined (renderString entry.1 ++ ':' :: entry.2.render)
      (.string member.1 :: .colon :: member.2.tokens) :=
  (Adjoined.single renders.name).append
    ((Adjoined.single .colon).append renders.value.adjoined)

theorem adjoined_renderMembers {members : List (String × Value)}
    {trees : List (List Piece × Tree)}
    (renders : List.Forall₂ (RendersEntry depth) members trees) :
    Adjoined (renderMembers members) (memberTokens trees) := by
  induction renders with
  | nil => rw [renderMembers, memberTokens]; exact .nil
  | @cons entry member entries members first rest ih =>
    have written := (Adjoined.single .comma).append (first.adjoined.append ih)
    rw [renderMembers, memberTokens]
    simpa using written

theorem membersOf?_of_renders {members : List (String × Value)}
    {trees : List (List Piece × Tree)}
    (renders : List.Forall₂ (RendersEntry depth) members trees) :
    membersOf? depth trees = some members := by
  induction renders with
  | nil => rw [membersOf?]
  | cons first rest ih =>
    rw [membersOf?, first.text, first.value.value, ih]
    simp only [String.ofList_toList]

/-- An array is written as its items in brackets. -/
theorem renders_array {items : List Value} {trees : List Tree}
    (renders : List.Forall₂ (Renders depth) items trees) :
    Renders (depth + 1) (.array items) (.array trees) where
  adjoined := by
    cases renders with
    | nil =>
      rw [Value.render, Tree.tokens]
      exact (Adjoined.single .openArray).append (.single .closeArray)
    | cons first rest =>
      rw [Value.render, Tree.tokens]
      have written := (Adjoined.single .openArray).append
        (first.adjoined.append ((adjoined_renderItems rest).append (.single .closeArray)))
      simpa using written
  value := by
    rw [Tree.value?, valuesOf?_of_renders renders]
    rfl

/-- An object is written as its members in braces. -/
theorem renders_object {members : Table Value} {trees : List (List Piece × Tree)}
    (sorted : members.Sorted) (renders : List.Forall₂ (RendersEntry depth) members trees) :
    Renders (depth + 1) (.object members) (.object trees) where
  adjoined := by
    cases renders with
    | nil =>
      rw [Value.render, Tree.tokens]
      exact (Adjoined.single .openObject).append (.single .closeObject)
    | cons first rest =>
      rw [Value.render, Tree.tokens]
      have written := (Adjoined.single .openObject).append
        (first.adjoined.append ((adjoined_renderMembers rest).append (.single .closeObject)))
      simpa using written
  value := by
    rw [Tree.value?, membersOf?_of_renders renders, Option.map_some,
      (Table.gathers_of_perm sorted (.refl _)).ofEntries_eq]

end Containers

/-- The compact text of a value is that of a tree with this value. -/
theorem exists_renders {depth : Nat} {value : Value} (integral : Integral depth value)
    (tabular : Tabular value) : ∃ tree, Renders depth value tree := by
  induction integral with
  | null depth => exact ⟨.null, .single .null, rfl⟩
  | bool depth flag =>
    refine ⟨.bool flag, ?_, rfl⟩
    cases flag
    · exact .single (.bool false)
    · exact .single (.bool true)
  | @integer depth value least greatest =>
    refine ⟨.number _, .single (.number (numberText_render value)), ?_⟩
    rw [Tree.value?, number?_of_decimal least greatest]
    rfl
  | string depth text =>
    obtain ⟨pieces, written, stands⟩ := tokenText_renderString text
    refine ⟨.string pieces, .single written, ?_⟩
    rw [Tree.value?, stands]
    exact congrArg (fun text => some (Value.string text)) String.ofList_toList
  | @array depth items every ih =>
    cases tabular with
    | array tables =>
      obtain ⟨trees, renders⟩ := exists_forall₂ fun item listed =>
        ih item listed (tables item listed)
      exact ⟨.array trees, renders_array renders⟩
  | @object depth members every ih =>
    cases tabular with
    | object sorted tables =>
      have each (entry : String × Value) (listed : entry ∈ members) :
          ∃ member, RendersEntry depth entry member := by
        obtain ⟨pieces, written, stands⟩ := tokenText_renderString entry.1
        obtain ⟨tree, renders⟩ := ih entry listed (tables entry listed)
        exact ⟨(pieces, tree), written, stands, renders⟩
      obtain ⟨trees, renders⟩ := exists_forall₂ each
      exact ⟨.object trees, renders_object sorted renders⟩

/-- The compact text of a value is read back. -/
theorem read?_render {value : Value} (integral : Integral nesting value)
    (tabular : Tabular value) : Value.read? value.render = some value := by
  obtain ⟨tree, renders⟩ := exists_renders integral tabular
  rw [Value.read?, Tree.read?_of_spells renders.adjoined.spelled, Option.bind_some, renders.value]

/-! ### Values that are read -/

mutual

/-- The objects of the value of a tree are tables. -/
theorem tabular_of_value? {depth : Nat} {value : Value} :
    ∀ {tree : Tree}, tree.value? depth = some value → Tabular value
  | .null, read => by
    cases depth <;> cases read <;> exact .null
  | .bool flag, read => by
    cases depth <;> cases read <;> exact .bool flag
  | .number literal, read => by
    rw [Tree.value?] at read
    obtain ⟨number, -, rfl⟩ := Option.map_eq_some_iff.1 read
    exact .number number
  | .string text, read => by
    rw [Tree.value?] at read
    obtain ⟨text, -, rfl⟩ := Option.map_eq_some_iff.1 read
    exact .string _
  | .array trees, read => by
    cases depth with
    | zero => cases read
    | succ depth =>
      rw [Tree.value?] at read
      obtain ⟨items, listed, rfl⟩ := Option.map_eq_some_iff.1 read
      exact .array (tabular_of_valuesOf? listed)
  | .object trees, read => by
    cases depth with
    | zero => cases read
    | succ depth =>
      rw [Tree.value?] at read
      obtain ⟨entries, listed, rfl⟩ := Option.map_eq_some_iff.1 read
      exact .object (Table.sorted_ofEntries entries) fun member kept =>
        tabular_of_membersOf? listed member (Table.mem_of_mem_ofEntries kept)

/-- So are the objects of the values of a list of trees. -/
theorem tabular_of_valuesOf? {depth : Nat} {values : List Value} :
    ∀ {trees : List Tree}, valuesOf? depth trees = some values → ∀ value ∈ values, Tabular value
  | [], read => by
    rw [valuesOf?] at read
    cases read
    exact List.forall_mem_nil _
  | tree :: rest, read => by
    rw [valuesOf?] at read
    split at read
    · rename_i value others first later
      cases read
      exact List.forall_mem_cons.2 ⟨tabular_of_value? first, tabular_of_valuesOf? later⟩
    · cases read

/-- So are the objects of the values of a list of members. -/
theorem tabular_of_membersOf? {depth : Nat} {entries : List (String × Value)} :
    ∀ {trees : List (List Piece × Tree)}, membersOf? depth trees = some entries →
      ∀ entry ∈ entries, Tabular entry.2
  | [], read => by
    rw [membersOf?] at read
    cases read
    exact List.forall_mem_nil _
  | (key, tree) :: rest, read => by
    rw [membersOf?] at read
    split at read
    · rename_i name value others named first later
      cases read
      exact List.forall_mem_cons.2 ⟨tabular_of_value? first, tabular_of_membersOf? later⟩
    · cases read

end

end RealmLookup.Json
