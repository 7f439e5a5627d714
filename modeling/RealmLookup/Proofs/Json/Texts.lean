import RealmLookup.Json.Printer
import RealmLookup.Proofs.Json.Rendering

/-!
# Texts of values

The strings of a value and the keys of its objects, taken together: what holds of all of them, and
the value with other strings.

## Main definitions

* `Json.Texts` : values of which all strings and all keys have some property.
* `Json.mapTexts` : the value with every string replaced by its image.

## Main results

* `Json.texts_and_iff` : two properties of all texts are one.
* `Json.mapTexts_eq_self_iff` : the values that keep their strings.
-/

namespace RealmLookup.Json

variable {ofString ofKey alsoString alsoKey : String → Prop} {f : String → String}

/-! ### Induction -/

/-- What holds of a value if it does of the values inside it holds of all values. -/
theorem Value.induct {motive : Value → Prop} (null : motive .null)
    (bool : ∀ flag, motive (.bool flag)) (number : ∀ number, motive (.number number))
    (string : ∀ text, motive (.string text))
    (array : ∀ items : List Value, (∀ item ∈ items, motive item) → motive (.array items))
    (object : ∀ members : Table Value, (∀ member ∈ members, motive member.2) →
      motive (.object members)) (value : Value) : motive value :=
  @Value.rec motive (fun items => ∀ item ∈ items, motive item)
    (fun members => ∀ member ∈ members, motive member.2) (fun member => motive member.2)
    null bool number string array object
    (List.forall_mem_nil _) (fun _ _ first later => List.forall_mem_cons.2 ⟨first, later⟩)
    (List.forall_mem_nil _) (fun _ _ first later => List.forall_mem_cons.2 ⟨first, later⟩)
    (fun _ _ holds => holds) value

/-! ### Properties of all texts -/

/-- Values of which all strings have one property and all keys another one. -/
inductive Texts (ofString ofKey : String → Prop) : Value → Prop
  | null : Texts ofString ofKey .null
  | bool (flag : Bool) : Texts ofString ofKey (.bool flag)
  | number (number : Number) : Texts ofString ofKey (.number number)
  | string {text : String} (holds : ofString text) : Texts ofString ofKey (.string text)
  | array {items : List Value} (every : ∀ item ∈ items, Texts ofString ofKey item) :
      Texts ofString ofKey (.array items)
  | object {members : Table Value} (keys : ∀ member ∈ members, ofKey member.1)
      (every : ∀ member ∈ members, Texts ofString ofKey member.2) :
      Texts ofString ofKey (.object members)

attribute [simp] Texts.null Texts.bool Texts.number

@[simp]
theorem texts_string_iff {text : String} : Texts ofString ofKey (.string text) ↔ ofString text :=
  ⟨fun | .string holds => holds, .string⟩

@[simp]
theorem texts_array_iff {items : List Value} : Texts ofString ofKey (.array items) ↔
    ∀ item ∈ items, Texts ofString ofKey item :=
  ⟨fun | .array every => every, .array⟩

@[simp]
theorem texts_object_iff {members : Table Value} : Texts ofString ofKey (.object members) ↔
    ∀ member ∈ members, ofKey member.1 ∧ Texts ofString ofKey member.2 :=
  ⟨fun | .object keys every => fun member listed => ⟨keys member listed, every member listed⟩,
    fun every => .object (fun member listed => (every member listed).1)
      fun member listed => (every member listed).2⟩

theorem Texts.imp {value : Value} (texts : Texts ofString ofKey value)
    (string : ∀ text, ofString text → alsoString text) (key : ∀ text, ofKey text → alsoKey text) :
    Texts alsoString alsoKey value := by
  induction texts with
  | null => exact .null
  | bool flag => exact .bool flag
  | number number => exact .number number
  | string holds => exact .string (string _ holds)
  | array every ih => exact .array ih
  | object keys every ih => exact .object (fun member listed => key _ (keys member listed)) ih

theorem texts_congr {value : Value} (string : ∀ text, ofString text ↔ alsoString text)
    (key : ∀ text, ofKey text ↔ alsoKey text) :
    Texts ofString ofKey value ↔ Texts alsoString alsoKey value :=
  ⟨fun texts => texts.imp (fun text => (string text).1) fun text => (key text).1,
    fun texts => texts.imp (fun text => (string text).2) fun text => (key text).2⟩

theorem texts_of_forall (string : ∀ text, ofString text) (key : ∀ text, ofKey text)
    (value : Value) : Texts ofString ofKey value := by
  induction value using Value.induct with
  | null => exact .null
  | bool flag => exact .bool flag
  | number number => exact .number number
  | string text => exact .string (string text)
  | array items ih => exact .array ih
  | object members ih => exact .object (fun member _ => key member.1) ih

/-- Two properties of all texts are one. -/
theorem texts_and_iff {value : Value} :
    Texts ofString ofKey value ∧ Texts alsoString alsoKey value ↔
      Texts (fun text => ofString text ∧ alsoString text) (fun text => ofKey text ∧ alsoKey text)
        value := by
  constructor
  · rintro ⟨first, second⟩
    induction first with
    | null => exact .null
    | bool flag => exact .bool flag
    | number number => exact .number number
    | string holds => exact .string ⟨holds, texts_string_iff.1 second⟩
    | array every ih =>
      exact .array fun item listed => ih item listed (texts_array_iff.1 second item listed)
    | object keys every ih =>
      have also := texts_object_iff.1 second
      exact .object (fun member listed => ⟨keys member listed, (also member listed).1⟩)
        fun member listed => ih member listed (also member listed).2
  · intro both
    exact ⟨both.imp (fun _ => And.left) fun _ => And.left,
      both.imp (fun _ => And.right) fun _ => And.right⟩

/-! ### Characters -/

section Characters

variable {holds : Char → Prop}
  (printable : ∀ c : Char, 0x20 ≤ c.toNat → c.toNat ≤ 0x7E → holds c)
include printable

/-- What holds of the printable characters of ASCII holds of what is written for a character exactly
if it holds of the character, or this is a control character, which is escaped. -/
theorem forall_mem_renderChar (c : Char) :
    (∀ d ∈ renderChar c, holds d) ↔ c.toNat < 0x20 ∨ holds c := by
  by_cases control : c.toNat < 0x20
  · have written : ∀ n < 0x20,
        (renderChar (Char.ofNat n)).all (fun d => 0x20 ≤ d.toNat && d.toNat ≤ 0x7E) = true := by
      decide
    have self := written c.toNat control
    rw [Char.ofNat_toNat, List.all_eq_true] at self
    refine iff_of_true (fun d member => ?_) (.inl control)
    have range := self d member
    simp only [Bool.and_eq_true, decide_eq_true_eq] at range
    exact printable d range.1 range.2
  · rw [or_iff_right control]
    unfold renderChar
    split_ifs with quote backslash
    · subst quote
      exact iff_of_true (by simp [printable]) (printable _ (by decide) (by decide))
    · subst backslash
      exact iff_of_true (by simp [printable]) (printable _ (by decide) (by decide))
    · exact List.forall_mem_singleton
    all_goals omega

/-- A text whose characters are control characters, or something holds of them. -/
def Every (holds : Char → Prop) (text : String) : Prop :=
  ∀ c ∈ text.toList, c.toNat < 0x20 ∨ holds c

theorem forall_mem_renderString (text : String) :
    (∀ c ∈ renderString text, holds c) ↔ Every holds text := by
  have quote : holds '"' := printable _ (by decide) (by decide)
  have each := forall_mem_renderChar printable
  rw [renderString, List.forall_mem_cons, List.forall_mem_append, List.forall_mem_singleton,
    and_iff_right quote, and_iff_left quote, List.forall_mem_flatMap]
  exact forall₂_congr fun c member => each c

theorem forall_mem_renderMember (key : String) (value : Value) :
    (∀ c ∈ renderString key ++ ':' :: value.render, holds c) ↔
      Every holds key ∧ ∀ c ∈ value.render, holds c := by
  have colon : holds ':' := printable _ (by decide) (by decide)
  rw [List.forall_mem_append, forall_mem_renderString printable, List.forall_mem_cons,
    and_iff_right colon]

theorem forall_mem_renderItems (items : List Value) :
    (∀ c ∈ renderItems items, holds c) ↔ ∀ item ∈ items, ∀ c ∈ item.render, holds c := by
  have comma : holds ',' := printable _ (by decide) (by decide)
  induction items with
  | nil => simp [renderItems]
  | cons item rest ih =>
    rw [renderItems, List.forall_mem_cons, and_iff_right comma, List.forall_mem_append,
      List.forall_mem_cons]
    exact and_congr_right' ih

theorem forall_mem_renderMembers (members : List (String × Value)) :
    (∀ c ∈ renderMembers members, holds c) ↔
      ∀ member ∈ members, Every holds member.1 ∧ ∀ c ∈ member.2.render, holds c := by
  have comma : holds ',' := printable _ (by decide) (by decide)
  induction members with
  | nil => simp [renderMembers]
  | cons member rest ih =>
    obtain ⟨key, value⟩ := member
    rw [renderMembers, List.forall_mem_cons, and_iff_right comma, List.forall_mem_append,
      forall_mem_renderMember printable, List.forall_mem_cons]
    exact and_congr_right' ih

theorem forall_mem_toDigits (n : Nat) : ∀ c ∈ Nat.toDigits 10 n, holds c := fun c member => by
  have digit : ('0' ≤ c && c ≤ '9') = true := (digits_toDigits n).2 c member
  simp only [Bool.and_eq_true, decide_eq_true_eq] at digit
  have least : 0x30 ≤ c.toNat := digit.1
  have greatest : c.toNat ≤ 0x39 := digit.2
  exact printable c (by omega) (by omega)

/-- What holds of the printable characters of ASCII holds of the text of a value exactly if it holds
of all texts of the value. -/
theorem forall_mem_render {depth : Nat} {value : Value} (integral : Integral depth value) :
    (∀ c ∈ value.render, holds c) ↔ Texts (Every holds) (Every holds) value := by
  have brackets : holds '[' ∧ holds ']' ∧ holds '\x7b' ∧ holds '\x7d' ∧ holds '-' :=
    ⟨printable _ (by decide) (by decide), printable _ (by decide) (by decide),
      printable _ (by decide) (by decide), printable _ (by decide) (by decide),
      printable _ (by decide) (by decide)⟩
  obtain ⟨opening, closing, openingBrace, closingBrace, minus⟩ := brackets
  induction integral with
  | null depth => exact iff_of_true (by simp [Value.render, printable]) .null
  | bool depth flag =>
    refine iff_of_true ?_ (.bool flag)
    cases flag <;> simp [Value.render, printable]
  | @integer depth value least greatest =>
    refine iff_of_true ?_ (.number _)
    rw [Value.render, Number.render]
    split
    · exact List.forall_mem_cons.2 ⟨minus, forall_mem_toDigits printable _⟩
    · exact forall_mem_toDigits printable _
  | string depth text =>
    rw [Value.render, forall_mem_renderString printable, texts_string_iff]
  | @array depth items every ih =>
    have each := (forall_mem_renderItems printable items).trans (forall₂_congr ih)
    rw [texts_array_iff, ← each]
    cases items with
    | nil => simp [Value.render, renderItems, opening, closing]
    | cons item rest =>
      rw [Value.render, renderItems]
      simp [opening, closing, printable, or_imp, forall_and]
  | @object depth members every ih =>
    have each := (forall_mem_renderMembers printable members).trans
      (forall₂_congr fun member listed => and_congr_right fun _ => ih member listed)
    rw [texts_object_iff, ← each]
    cases members with
    | nil => simp [Value.render, renderMembers, openingBrace, closingBrace]
    | cons member rest =>
      obtain ⟨key, value⟩ := member
      rw [Value.render, renderMembers]
      simp [openingBrace, closingBrace, printable, or_imp, forall_and]

end Characters

/-! ### Other strings -/

mutual

/-- The value with every string replaced by its image. -/
def mapTexts (f : String → String) : Value → Value
  | .null => .null
  | .bool flag => .bool flag
  | .number number => .number number
  | .string text => .string (f text)
  | .array items => .array (mapItems f items)
  | .object members => .object (mapMembers f members)

/-- The items with every string replaced by its image. -/
def mapItems (f : String → String) : List Value → List Value
  | [] => []
  | item :: rest => mapTexts f item :: mapItems f rest

/-- The members with every string in their values replaced by its image. -/
def mapMembers (f : String → String) : List (String × Value) → List (String × Value)
  | [] => []
  | (key, value) :: rest => (key, mapTexts f value) :: mapMembers f rest

end

theorem mapItems_eq_map (items : List Value) : mapItems f items = items.map (mapTexts f) := by
  induction items with
  | nil => rfl
  | cons item rest ih => rw [mapItems, ih, List.map_cons]

theorem mapMembers_eq_mapValues (members : Table Value) :
    mapMembers f members = Table.mapValues (mapTexts f) members := by
  induction members with
  | nil => rfl
  | cons member rest ih =>
    obtain ⟨key, value⟩ := member
    rw [mapMembers, ih]
    rfl

theorem map_eq_self_iff {α : Type} {g : α → α} {items : List α} :
    items.map g = items ↔ ∀ item ∈ items, g item = item := by
  simpa using @List.map_eq_map_iff _ _ g items id

/-- The values that keep their strings. -/
theorem mapTexts_eq_self_iff {value : Value} :
    mapTexts f value = value ↔ Texts (fun text => f text = text) (fun _ => True) value := by
  induction value using Value.induct with
  | null => simp [mapTexts]
  | bool flag => simp [mapTexts]
  | number number => simp [mapTexts]
  | string text => simp [mapTexts]
  | array items ih =>
    rw [mapTexts, mapItems_eq_map, texts_array_iff, Value.array.injEq, map_eq_self_iff]
    exact forall₂_congr ih
  | object members ih =>
    rw [mapTexts, mapMembers_eq_mapValues, texts_object_iff, Value.object.injEq,
      Table.mapValues, map_eq_self_iff]
    refine forall₂_congr fun member listed => ?_
    rw [true_and, ← ih member listed]
    exact ⟨congrArg Prod.snd, fun same => Prod.ext rfl same⟩

end RealmLookup.Json
