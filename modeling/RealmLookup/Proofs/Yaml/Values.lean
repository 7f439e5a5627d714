import RealmLookup.Proofs.Table.Entries
import RealmLookup.Proofs.Yaml.Folding
import RealmLookup.Proofs.Yaml.Nodes
import RealmLookup.Yaml.Value

/-!
# Values of JSON documents

The node of a value is evaluated as the value with its strings folded, and the compact JSON text of
an object is read accordingly: it is refused if a text in it is not legible or a key does not fit.

## Main definitions

* `Yaml.foldedText` : what a text in quotes is read as.

## Main results

* `Yaml.plainValue?_render` : integers are read back.
* `Yaml.valueOf_nodeOf` : the value of the node of a value.
* `Yaml.readMapping?_render` : the entries of the text of an object.
-/

namespace RealmLookup.Yaml

open RealmLookup.Decimal RealmLookup.Json

/-! ### Numbers for names -/

/-- Nodes of values have no names. -/
theorem number?_nodeOf (value : Value) (names : Node.Names) :
    Node.number? names (nodeOf value) = some (names, nodeOf value) := by
  induction value using Value.induct with
  | null | bool | number => rfl
  | string text => simp only [nodeOf, Node.number?, Node.register]
  | array items ih =>
    have each : Node.numberItems? names (itemNodes items) = some (names, itemNodes items) := by
      induction items with
      | nil => rfl
      | cons item rest each =>
        obtain ⟨first, later⟩ := List.forall_mem_cons.1 ih
        simp only [itemNodes, Node.numberItems?, first, each later, Option.map_some]
    simp only [nodeOf, Node.number?, Node.register, each, Option.map_some]
  | object members ih =>
    have each : Node.numberPairs? names (memberNodes members) =
        some (names, memberNodes members) := by
      induction members with
      | nil => rfl
      | cons member rest each =>
        obtain ⟨first, later⟩ := List.forall_mem_cons.1 ih
        simp only [memberNodes, Node.numberPairs?, Node.number?, Node.register, first, each later,
          Option.map_some]
    simp only [nodeOf, Node.number?, Node.register, each, Option.map_some]

/-! ### Words -/

theorem hexDigit?_of_isDigit {c : Char} (digit : c.isDigit = true) :
    hexDigit? c = some (c.toNat - '0'.toNat) ∧ c.toNat - '0'.toNat < 10 := by
  have range : ('0' ≤ c && c ≤ '9') = true := digit
  simp only [Bool.and_eq_true, decide_eq_true_eq] at range
  have greatest : c.toNat ≤ 57 := range.2
  exact ⟨if_pos range, by simp; omega⟩

/-- Digits are read as the number that they spell. -/
theorem digits?_of_digits {digits : List Char} (isDigits : Digits digits) :
    digits? 10 digits = some (Nat.ofDigitChars 10 digits 0) := by
  obtain ⟨filled, every⟩ := isDigits
  have each : digits.mapM hexDigit? = some (digits.map fun c => c.toNat - '0'.toNat) :=
    mapM_eq_pure fun c member => (hexDigit?_of_isDigit (every c member)).1
  obtain ⟨c, rest, rfl⟩ := List.exists_cons_of_ne_nil filled
  have small : ∀ d ∈ c :: rest, d.toNat - '0'.toNat < 10 := fun d member =>
    (hexDigit?_of_isDigit (every d member)).2
  rw [List.forall_mem_cons] at small
  rw [digits?, each, List.map_cons]
  simpa [Nat.ofDigitChars, List.foldl_map, Nat.mul_comm 10] using small

/-- Texts that start like a number. -/
def startsNumber : List Char → Bool
  | c :: _ => c.isDigit || c == '-'
  | [] => false

/-- Such a text is none of the words. -/
theorem not_word {text : List Char} (starts : startsNumber text = true) :
    isNull text = false ∧ bool? text = none := by
  have letters : ∀ word ∈ ["null", "Null", "NULL", "~", "true", "True", "TRUE", "false", "False",
      "FALSE"], startsNumber word.toList = false := by decide
  have different : ∀ word ∈ ["null", "Null", "NULL", "~", "true", "True", "TRUE", "false", "False",
      "FALSE"], String.ofList text ≠ word := by
    rintro word member rfl
    have letter := letters _ member
    rw [String.toList_ofList, starts] at letter
    cases letter
  simp only [List.forall_mem_cons] at different
  simp [isNull, bool?, different]

theorem exists_toDigits (n : Nat) : ∃ c rest, Nat.toDigits 10 n = c :: rest ∧ c.isDigit = true := by
  obtain ⟨filled, every⟩ := digits_toDigits n
  obtain ⟨c, rest, same⟩ := List.exists_cons_of_ne_nil filled
  exact ⟨c, rest, same, every c (same ▸ List.mem_cons_self)⟩

theorem withoutSign_toDigits (n : Nat) : withoutSign (Nat.toDigits 10 n) = Nat.toDigits 10 n := by
  obtain ⟨c, rest, same, digit⟩ := exists_toDigits n
  rw [same]
  unfold withoutSign
  split
  · simp_all
  · simp_all
  · rfl

/-- A number is not written with a leading zero. -/
theorem hasLeadingZero_of_withoutSign {text : List Char} {n : Nat}
    (same : withoutSign text = Nat.toDigits 10 n) : hasLeadingZero text = false := by
  rw [hasLeadingZero, same]
  rcases Nat.eq_zero_or_pos n with rfl | positive
  · rfl
  · have first := head?_toDigits positive
    split
    · rename_i digits
      rw [digits] at first
      exact absurd rfl first
    · rfl

theorem magnitude?_toDigits (n : Nat) : magnitude? (Nat.toDigits 10 n) = some n := by
  have spelled : digits? 10 (Nat.toDigits 10 n) = some n := by
    rw [digits?_of_digits (digits_toDigits n), Nat.ofDigitChars_ten_toDigits]
  rcases Nat.eq_zero_or_pos n with rfl | positive
  · rfl
  · have first := head?_toDigits positive
    unfold magnitude?
    split <;> rename_i digits
    · exact absurd (by rw [digits]; rfl) first
    · exact absurd (by rw [digits]; rfl) first
    · exact absurd (by rw [digits]; rfl) first
    · rw [hasLeadingZero_of_withoutSign (withoutSign_toDigits n)]
      exact spelled

theorem integer?_toDigits (n : Nat) : integer? (Nat.toDigits 10 n) = readPositive n := by
  have found := magnitude?_toDigits n
  obtain ⟨c, rest, same, digit⟩ := exists_toDigits n
  rw [same] at found ⊢
  unfold integer?
  split
  · simp_all
  · simp_all
  · rw [found]

theorem integer?_minus (n : Nat) : integer? ('-' :: Nat.toDigits 10 n) = readNegative n := by
  rw [integer?, magnitude?_toDigits]

theorem plainValue?_of_integer? {text : List Char} {value : Int} (starts : startsNumber text = true)
    (reads : integer? text = .integer value) :
    plainValue? text = some (.number (.integer value)) := by
  obtain ⟨notNull, notBool⟩ := not_word starts
  have filled : text.isEmpty = false := by
    cases text with
    | nil => cases starts
    | cons => rfl
  rw [plainValue?, filled, notNull, notBool, reads]
  rfl

theorem plainValue?_render {value : Int} (least : -(twoTo 63 : Int) ≤ value)
    (greatest : value ≤ maxInteger) :
    plainValue? (Number.integer value).render = some (.number (.integer value)) := by
  have lessThan : maxInteger < twoTo 64 := by decide
  rw [Number.render]
  split
  · refine plainValue?_of_integer? rfl ?_
    have same : -(value.natAbs : Int) = value := by omega
    rw [integer?_minus, readNegative, if_pos (by omega), same]
  · have same : (value.natAbs : Int) = value := by omega
    refine plainValue?_of_integer? ?_ ?_
    · obtain ⟨c, rest, digits, digit⟩ := exists_toDigits value.natAbs
      rw [digits, startsNumber, digit]
      rfl
    · rw [integer?_toDigits, readPositive, if_pos (by omega), same]

/-! ### Values -/

/-- What a text in quotes is read as. -/
def foldedText (text : String) : String := String.ofList (folded .nothing text.toList)

theorem foldedText_eq_self_iff {text : String} : foldedText text = text ↔
    nextLine ∉ text.toList ∧ text.toList.IsChain Apart := by
  rw [← folded_eq_self_iff, foldedText]
  constructor
  · intro same
    simpa using congrArg String.toList same
  · intro same
    rw [same, String.ofList_toList]

/-- A key that fits stays as it is. -/
theorem foldedText_of_fits {key : String} (fits : Fits key) : foldedText key = key := by
  have inLine := (fits_iff.1 fits).1
  have whole : ∀ c ∈ key.toList, isSeparator c ≠ true := fun c member separator =>
    Bool.eq_false_iff.1 (inLine c member) (Bool.or_eq_true_iff.2 (.inr separator))
  exact foldedText_eq_self_iff.2 ⟨fun member => absurd (inLine _ member) (by decide),
    (List.pairwise_of_forall_mem_list fun c first d second =>
      ⟨fun beside => whole d second beside.2, fun beside => whole c first beside.1⟩).isChain⟩

variable {targets : List (Nat × Node Nat)} {depth : Nat}

theorem keyOf_scalar (style : Style) (text : List Char) :
    keyOf targets (.scalar none none style text) = pure (String.ofList text) := rfl

theorem valueOf_scalar (style : Style) (text : List Char) :
    valueOf targets depth (.scalar none none style text) =
      liftOption (scalarValue? none style text) := by
  rw [valueOf]
  rfl

theorem valueOf_sequence (items : List (Node Nat)) :
    valueOf targets (depth + 1) (.sequence none none items) =
      Value.array <$> items.mapM (valueOf targets depth) := by
  rw [valueOf]
  rfl

theorem valueOf_mapping (pairs : List (Node Nat × Node Nat)) :
    valueOf targets (depth + 1) (.mapping none none pairs) =
      (fun entries => Value.object (Table.ofEntries entries)) <$>
        pairs.mapM fun (key, value) => do
          return (← keyOf targets key, ← valueOf targets depth value) := by
  rw [valueOf]
  rfl

/-- A word is evaluated as its value. -/
theorem valueOf_plain {text : List Char} {value : Value} (reads : plainValue? text = some value) :
    valueOf targets depth (.scalar none none .plain text) = pure value := by
  have plain : scalarValue? none .plain text = plainValue? text := rfl
  rw [valueOf_scalar, plain, reads]
  rfl

/-- The members of an object are evaluated one after the other. -/
theorem mapM_memberNodes {members : Table Value}
    (fits : ∀ member ∈ members, Fits member.1)
    (each : ∀ member ∈ members,
      valueOf targets depth (nodeOf member.2) = pure (mapTexts foldedText member.2)) :
    ((memberNodes members).mapM fun (key, value) => do
        return (← keyOf targets key, ← valueOf targets depth value)) =
      pure (mapMembers foldedText members) := by
  rw [memberNodes_eq_map, List.mapM_map, mapMembers_eq_mapValues]
  refine mapM_eq_pure fun member listed => ?_
  have whole : String.ofList (folded .nothing member.1.toList) = member.1 :=
    foldedText_of_fits (fits member listed)
  simp only [Function.comp_apply, keyOf_scalar, whole, each member listed, pure_bind]

/-- The members of a table are a table when their strings are replaced. -/
theorem ofEntries_mapMembers {members : Table Value} (sorted : members.Sorted)
    (f : String → String) : Table.ofEntries (mapMembers f members) = mapMembers f members := by
  rw [mapMembers_eq_mapValues]
  exact ((Table.gathers_of_perm sorted (List.Perm.refl members)).mapValues _).ofEntries_eq

/-- The node of a value is evaluated as the value, up to what texts in quotes are read as. -/
theorem valueOf_nodeOf {value : Value} (integral : Integral depth value) (tabular : Tabular value)
    (fits : Texts (fun _ => True) Fits value) :
    valueOf targets depth (nodeOf value) = pure (mapTexts foldedText value) := by
  -- The nesting of the value bounds the depth of the evaluation.
  induction integral with
  | null depth => exact valueOf_plain rfl
  | bool depth flag => cases flag <;> exact valueOf_plain rfl
  | integer least greatest => exact valueOf_plain (plainValue?_render least greatest)
  | string depth text =>
    rw [nodeOf, valueOf_scalar]
    rfl
  | @array depth items every ih =>
    have tables := tabular_array_iff.1 tabular
    have keys := texts_array_iff.1 fits
    have each : (itemNodes items).mapM (valueOf targets depth) =
        pure (mapItems foldedText items) := by
      rw [itemNodes_eq_map, List.mapM_map, mapItems_eq_map]
      exact mapM_eq_pure fun item member => ih item member (tables item member) (keys item member)
    rw [nodeOf, valueOf_sequence, each, map_pure, mapTexts]
  | @object depth members every ih =>
    obtain ⟨sorted, tables⟩ := tabular_object_iff.1 tabular
    have keys := texts_object_iff.1 fits
    have each := mapM_memberNodes (fun member listed => (keys member listed).1)
      fun member listed => ih member listed (tables member listed) (keys member listed).2
    rw [nodeOf, valueOf_mapping, each, map_pure, ofEntries_mapMembers sorted, mapTexts]

/-! ### Documents -/

/-- The entries of the root of a document. -/
def entriesOfDocument? : Option (Node String) → Option (Table Value)
  | none => some []
  | some node => do
      let (_, root) ← node.number? []
      let (entries, _) ← (entriesOf root.targets root).run (maxRepetition * root.events)
      return entries

theorem readMapping?_eq (text : List Char) : readMapping? text =
    (scan? text).bind fun tokens => (parseDocument? tokens).bind entriesOfDocument? := by
  rw [readMapping?]
  congr

section Documents

variable {members : Table Value} (integral : Integral maxDepth (.object members))
  (tabular : Tabular (.object members))
include integral tabular

theorem entriesOf_nodeOf (fits : Texts (fun _ => True) Fits (.object members)) :
    entriesOf targets (nodeOf (.object members)) = pure (mapMembers foldedText members) := by
  obtain ⟨sorted, tables⟩ := tabular_object_iff.1 tabular
  have keys := texts_object_iff.1 fits
  have inner : ∀ member ∈ members, Integral (maxDepth - 1) member.2 :=
    integral_object_iff.1 integral
  have each := @mapM_memberNodes targets _ _ (fun member listed => (keys member listed).1)
    fun member listed => valueOf_nodeOf (inner member listed) (tables member listed)
      (keys member listed).2
  rw [nodeOf, entriesOf, each, pure_bind, ofEntries_mapMembers sorted]

/-- The entries of the text of an object are its members, up to what texts in quotes are read as;
there are none if a text is not legible, or if a key does not fit. -/
theorem readMapping?_render :
    Settles (Legible (.object members) ∧ Texts (fun _ => True) Fits (.object members))
      (readMapping? (Value.object members).render) (mapMembers foldedText members) := by
  have last (fits : Texts (fun _ => True) Fits (.object members)) :
      entriesOfDocument? (some (nodeOf (.object members))) =
        some (mapMembers foldedText members) := by
    rw [entriesOfDocument?, number?_nodeOf]
    simp only [Option.bind_eq_bind, Option.bind_some, entriesOf_nodeOf integral tabular fits]
    rfl
  have document := parseDocument?_tokensOf members
  rw [readMapping?_eq]
  refine (scan?_render integral).bind ⟨fun fits => ?_, fun fault => ?_⟩
  · rw [document.found fits, Option.bind_some, last fits]
  · rw [document.absent fault, Option.bind_none]

end Documents

end RealmLookup.Yaml
