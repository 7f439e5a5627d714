import RealmLookup.Proofs.Json.Texts
import RealmLookup.Proofs.Yaml.Scanning

/-!
# Tokens of JSON values

The compact JSON text of a value is a flow collection of a YAML document, and its tokens are those
of the value: scanning fails only if a character is not allowed in a document, or if a line of a
string or of a key starts with a document marker.

## Main definitions

* `Yaml.tokensOf` : the tokens of a value.
* `Yaml.Settles` : results that there are under a condition.
* `Yaml.Legible` : values of allowed characters without document markers.

## Main results

* `Yaml.passes_render` : the text of a value is passed, with its tokens.
* `Yaml.scan?_render` : the tokens of the text of an object.
-/

namespace RealmLookup.Yaml

open RealmLookup.Json

open Scanner

mutual

/-- The tokens of a value. -/
def tokensOf : Value → List Token
  | .string text => [.scalar .quoted (folded .nothing text.toList)]
  | .array [] => [.flowSequenceStart, .flowSequenceEnd]
  | .array (item :: rest) =>
      .flowSequenceStart :: (tokensOf item ++ itemTokens rest ++ [.flowSequenceEnd])
  | .object [] => [.flowMappingStart, .flowMappingEnd]
  | .object ((key, value) :: rest) =>
      .flowMappingStart ::
        (keyTokens key.toList ++ tokensOf value ++ memberTokens rest ++ [.flowMappingEnd])
  | value => [.scalar .plain value.render]

/-- The tokens of further items. -/
def itemTokens : List Value → List Token
  | [] => []
  | item :: rest => .flowEntry :: (tokensOf item ++ itemTokens rest)

/-- The tokens of further members. -/
def memberTokens : List (String × Value) → List Token
  | [] => []
  | (key, value) :: rest =>
      .flowEntry :: (keyTokens key.toList ++ tokensOf value ++ memberTokens rest)

end

/-! ### Scanning -/

/-- A text without document markers. -/
def Unmarked (text : String) : Prop := isMarked false text.toList = false

/-- A text in quotes, as it stands in a document. -/
theorem map_unified_renderString (text : String) :
    (renderString text).map unified = '"' :: (quotedText text.toList ++ ['"']) := by
  rw [renderString, List.map_cons, List.map_append]
  rfl

theorem word_of_toDigits (n : Nat) :
    Word (Nat.toDigits 10 n) ∧ Word ('-' :: Nat.toDigits 10 n) := by
  have sign {c : Char} (digit : c.isDigit = true) : isWordSign c = true := by
    have within : ('0' ≤ c && c ≤ '9') = true := digit
    rw [isWordSign, within]
    rfl
  obtain ⟨c, rest, digits⟩ := List.exists_cons_of_ne_nil (Nat.toDigits_ne_nil (n := n))
  have every : ∀ d ∈ c :: rest, isWordSign d = true := fun d member =>
    sign ((digits_toDigits n).2 d (digits ▸ member))
  rw [digits]
  exact ⟨.signs every, .minus every⟩

/-- A word stands for itself in a document. -/
theorem map_unified_word {word : List Char} (isWord : Word word) : word.map unified = word := by
  have same {c : Char} (sign : isWordSign c = true) : unified c = c := if_neg <| by
    rintro rfl
    exact absurd sign (by decide)
  have all {rest : List Char} (every : ∀ c ∈ rest, isWordSign c = true) : rest.map unified = rest :=
    map_eq_self_iff.2 fun c member => same (every c member)
  cases isWord with
  | signs every => exact all every
  | minus every => exact congrArg ('-' :: ·) (all every)

/-- What stands behind an item goes on with the flow collection. -/
theorem atFlowEnd_renderItems (items : List Value) {left : List Char} (ends : AtFlowEnd left) :
    AtFlowEnd ((renderItems items).map unified ++ left) := by
  cases items with
  | nil => exact ends
  | cons item rest =>
    rw [renderItems]
    exact ⟨',', _, rfl, .inl rfl⟩

theorem atFlowEnd_renderMembers (members : List (String × Value)) {left : List Char}
    (ends : AtFlowEnd left) : AtFlowEnd ((renderMembers members).map unified ++ left) := by
  cases members with
  | nil => exact ends
  | cons member rest =>
    rw [renderMembers]
    exact ⟨',', _, rfl, .inl rfl⟩

/-- A value is passed, with its tokens, if no text of it has a document marker. -/
def Passed (value : Value) : Prop :=
  Passes false (value.render.map unified) (Texts Unmarked Unmarked value) (tokensOf value)

theorem passes_renderItems {items : List Value} (each : ∀ item ∈ items, Passed item) :
    Passes false ((renderItems items).map unified) (∀ item ∈ items, Texts Unmarked Unmarked item)
      (itemTokens items) := by
  induction items with
  | nil => exact Passes.nil.congr (by simp)
  | cons item rest ih =>
    obtain ⟨first, later⟩ := List.forall_mem_cons.1 each
    have both := Passes.append first (ih later) fun _ => atFlowEnd_renderItems rest
    rw [renderItems, itemTokens, List.map_cons, List.map_append]
    exact both.weaken.entry.congr List.forall_mem_cons.symm

theorem passes_member (key : String) {value : Value} (passed : Passed value) :
    Passes true ((renderString key ++ ':' :: value.render).map unified)
      (Unmarked key ∧ Texts Unmarked Unmarked value) (keyTokens key.toList ++ tokensOf value) := by
  have text : (renderString key ++ ':' :: value.render).map unified =
      '"' :: (quotedText key.toList ++ '"' :: ':' :: value.render.map unified) := by
    rw [List.map_append, map_unified_renderString, List.cons_append, List.append_assoc]
    rfl
  rw [text]
  exact Passes.member key.toList passed

theorem passes_renderMembers {members : List (String × Value)}
    (each : ∀ member ∈ members, Passed member.2) :
    Passes false ((renderMembers members).map unified)
      (∀ member ∈ members, Unmarked member.1 ∧ Texts Unmarked Unmarked member.2)
      (memberTokens members) := by
  induction members with
  | nil => exact Passes.nil.congr (by simp)
  | cons member rest ih =>
    obtain ⟨key, value⟩ := member
    obtain ⟨first, later⟩ := List.forall_mem_cons.1 each
    have both := Passes.append (passes_member key first) (ih later) fun _ =>
      atFlowEnd_renderMembers rest
    rw [renderMembers, memberTokens, List.map_cons, List.map_append]
    exact both.entry.congr List.forall_mem_cons.symm

/-- The text between the brackets of an array. -/
theorem exists_passes_items {items : List Value} (each : ∀ item ∈ items, Passed item) :
    ∃ text tokens, (Value.array items).render.map unified = '[' :: (text ++ [']']) ∧
      tokensOf (.array items) = .flowSequenceStart :: (tokens ++ [.flowSequenceEnd]) ∧
      Passes true text (∀ item ∈ items, Texts Unmarked Unmarked item) tokens := by
  cases items with
  | nil =>
    exact ⟨[], [], by rw [Value.render]; rfl, by rw [tokensOf]; rfl, Passes.nil.congr (by simp)⟩
  | cons item rest =>
    obtain ⟨first, later⟩ := List.forall_mem_cons.1 each
    have both := Passes.append first (passes_renderItems later) fun _ => atFlowEnd_renderItems rest
    refine ⟨_, _, ?_, by rw [tokensOf], both.weaken.congr List.forall_mem_cons.symm⟩
    rw [Value.render, List.map_cons, List.map_append, List.map_append]
    rfl

/-- The text between the braces of an object. -/
theorem exists_passes_members {members : Table Value}
    (each : ∀ member ∈ members, Passed member.2) :
    ∃ text tokens, (Value.object members).render.map unified = '\x7b' :: (text ++ ['\x7d']) ∧
      tokensOf (.object members) = .flowMappingStart :: (tokens ++ [.flowMappingEnd]) ∧
      Passes true text (∀ member ∈ members, Unmarked member.1 ∧ Texts Unmarked Unmarked member.2)
        tokens := by
  cases members with
  | nil =>
    exact ⟨[], [], by rw [Value.render]; rfl, by rw [tokensOf]; rfl, Passes.nil.congr (by simp)⟩
  | cons member rest =>
    obtain ⟨key, value⟩ := member
    obtain ⟨first, later⟩ := List.forall_mem_cons.1 each
    have both := Passes.append (passes_member key first) (passes_renderMembers later) fun _ =>
      atFlowEnd_renderMembers rest
    refine ⟨_, _, ?_, by rw [tokensOf], both.congr List.forall_mem_cons.symm⟩
    rw [Value.render, List.map_cons, List.map_append, List.map_append]
    rfl

/-- The text of a value is passed, with its tokens. -/
theorem passes_render {depth : Nat} {value : Value} (integral : Integral depth value) :
    Passed value := by
  have plain {value : Value} (isWord : Word value.render) (texts : Texts Unmarked Unmarked value)
      (same : tokensOf value = [.scalar .plain value.render]) : Passed value := by
    rw [Passed, map_unified_word isWord, same]
    exact (Passes.plain isWord).congr (iff_of_true trivial texts)
  induction integral with
  | null depth => exact plain (.signs (List.all_eq_true.1 (by decide))) .null rfl
  | bool depth flag =>
    cases flag <;> exact plain (.signs (List.all_eq_true.1 (by decide))) (.bool _) rfl
  | @integer depth value least greatest =>
    refine plain ?_ (.number _) rfl
    rw [Value.render, Number.render]
    split
    · exact (word_of_toDigits _).2
    · exact (word_of_toDigits _).1
  | string depth text =>
    rw [Passed, Value.render, map_unified_renderString, tokensOf]
    exact (Passes.quoted text.toList).congr texts_string_iff.symm
  | @array depth items every ih =>
    obtain ⟨text, tokens, rendered, same, passes⟩ := exists_passes_items ih
    rw [Passed, rendered, same]
    exact (passes.brackets .sequence).congr texts_array_iff.symm
  | @object depth members every ih =>
    obtain ⟨text, tokens, rendered, same, passes⟩ := exists_passes_members ih
    rw [Passed, rendered, same]
    exact (passes.brackets .mapping).congr texts_object_iff.symm

/-! ### Results -/

/-- There is a result, which is the given one, exactly if a condition holds. -/
structure Settles {α : Type} (condition : Prop) (result : Option α) (found : α) : Prop where
  found : condition → result = some found
  absent : ¬ condition → result = none

namespace Settles

variable {α β : Type} {condition also : Prop} {result : Option α} {found : α}

theorem of_forall (same : ∀ last, (condition → last = some found) → (¬ condition → last = none) →
    result = last) : Settles condition result found where
  found holds := same _ (fun _ => rfl) fun fault => absurd holds fault
  absent fault := same _ (fun holds => absurd holds fault) fun _ => rfl

theorem bind {next : α → Option β} {last : β} (first : Settles condition result found)
    (second : Settles also (next found) last) :
    Settles (condition ∧ also) (result.bind next) last where
  found both := by rw [first.found both.1, Option.bind_some, second.found both.2]
  absent neither := by
    by_cases holds : condition
    · rw [first.found holds, Option.bind_some]
      exact second.absent fun holds' => neither ⟨holds, holds'⟩
    · rw [first.absent holds, Option.bind_none]

theorem map (f : α → β) (settles : Settles condition result found) :
    Settles condition (result.map f) (f found) where
  found holds := by rw [settles.found holds, Option.map_some]
  absent fault := by rw [settles.absent fault, Option.map_none]

theorem bind_some (f : α → β) (settles : Settles condition result found) :
    Settles condition (result.bind fun value => some (f value)) (f found) := by
  have same : f <$> result = result.bind fun value => some (f value) := Option.map_eq_bind
  exact same ▸ settles.map f

theorem congr (same : condition ↔ also) (settles : Settles condition result found) :
    Settles also result found := by
  rwa [← propext same]

end Settles

/-! ### Documents -/

/-- A text whose characters may stand in a document, or are escaped. -/
def Allowed (text : String) : Prop := Every (isAllowed · = true) text

theorem isAllowed_of_printable (c : Char) (least : 0x20 ≤ c.toNat) (greatest : c.toNat ≤ 0x7E) :
    isAllowed c = true := by
  simp [isAllowed, least, greatest]

/-- Values of allowed characters, without document markers. -/
def Legible (value : Value) : Prop :=
  Texts Allowed Allowed value ∧ Texts Unmarked Unmarked value

section Documents

variable {depth : Nat} {value : Value}

/-- The text of a value has no carriage return. -/
theorem not_mem_render (integral : Integral depth value) : '\r' ∉ value.render := by
  have printable (c : Char) (least : 0x20 ≤ c.toNat) (_ : c.toNat ≤ 0x7E) : c ≠ '\r' := by
    rintro rfl
    exact absurd least (by decide)
  have every (text : String) : Every (· ≠ '\r') text := fun c _ => by
    by_cases same : c = '\r'
    · exact .inl (same ▸ by decide)
    · exact .inr same
  exact fun member =>
    (forall_mem_render printable integral).2 (texts_of_forall every every value) _ member rfl

/-- The tokens of the text of an object; there are none if a character is not allowed, or if a text
has a document marker. -/
theorem scan?_render {members : Table Value} (integral : Integral depth (.object members)) :
    Settles (Legible (.object members)) (scan? (Value.object members).render)
      (tokensOf (.object members)) := by
  refine .of_forall fun result legible illegible => ?_
  have allowed := forall_mem_render isAllowed_of_printable integral
  by_cases texts : Texts Allowed Allowed (.object members)
  · have all : (Value.object members).render.all isAllowed = true :=
      List.all_eq_true.2 (allowed.2 texts)
    have each : ∀ member ∈ members, Passed member.2 := by
      cases integral with
      | object every => exact fun member listed => passes_render (every member listed)
    obtain ⟨text, tokens, rendered, same, passes⟩ := exists_passes_members each
    rw [scan?, glyphs?, if_pos all, unifyBreaks_eq_map (not_mem_render integral), rendered]
    refine Passes.gives_brackets .mapping passes (flowing_start _) rfl
      (fun unmarked last behind => ?_) (fun marked => illegible fun both => marked ?_) _
      (Nat.lt_succ_self _)
    · obtain ⟨line, column, left⟩ := behind.text
      have gives := gives_of_end behind.flowing behind.inFlow left
      have found : last.tokens.reverse = tokensOf (.object members) := by
        rw [behind.tokens, same]
        simp [start]
      rwa [found, ← legible ⟨texts, texts_object_iff.2 unmarked⟩] at gives
    · exact texts_object_iff.1 both.2
  · have none : (Value.object members).render.all isAllowed = false :=
      Bool.eq_false_iff.2 fun all => texts (allowed.1 (List.all_eq_true.1 all))
    rw [scan?, glyphs?, if_neg (by rw [none]; nofun), illegible fun both => texts both.1]
    rfl

end Documents

end RealmLookup.Yaml
