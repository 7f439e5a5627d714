import RealmLookup.Proofs.Yaml.Tokens
import RealmLookup.Yaml.Parser

/-!
# Nodes of JSON values

The tokens of a value are parsed as its node, if every key in it has the token of a key in front of
it.  A key without one is taken for a key without a value, and the colon behind it is refused.

## Main definitions

* `Yaml.nodeOf` : the node of a value.
* `Yaml.Fits` : the keys that have the token of a key in front of them.

## Main results

* `Yaml.parsed_value` : the tokens of a value are read as its node exactly if all keys fit.
* `Yaml.parseDocument?_tokensOf` : so are those of an object that is a document.
-/

namespace RealmLookup.Yaml

open RealmLookup.Json

open Scanner

/-! ### Nodes -/

mutual

/-- The node of a value. -/
def nodeOf {α : Type} : Value → Node α
  | .string text => .scalar none none .quoted (folded .nothing text.toList)
  | .array items => .sequence none none (itemNodes items)
  | .object members => .mapping none none (memberNodes members)
  | value => .scalar none none .plain value.render

/-- The nodes of items. -/
def itemNodes {α : Type} : List Value → List (Node α)
  | [] => []
  | item :: rest => nodeOf item :: itemNodes rest

/-- The nodes of members. -/
def memberNodes {α : Type} : List (String × Value) → List (Node α × Node α)
  | [] => []
  | (key, value) :: rest =>
      (.scalar none none .quoted (folded .nothing key.toList), nodeOf value) :: memberNodes rest

end

theorem itemNodes_eq_map {α : Type} (items : List Value) :
    (itemNodes items : List (Node α)) = items.map nodeOf := by
  induction items with
  | nil => rfl
  | cons item rest ih => rw [itemNodes, ih, List.map_cons]

theorem memberNodes_eq_map {α : Type} (members : List (String × Value)) :
    (memberNodes members : List (Node α × Node α)) = members.map fun member =>
      (.scalar none none .quoted (folded .nothing member.1.toList), nodeOf member.2) := by
  induction members with
  | nil => rfl
  | cons member rest ih => rw [memberNodes, ih, List.map_cons]

/-- A key that has the token of a key in front of it, without a question mark in the text. -/
def Fits (key : String) : Prop := fitsKey key.toList = true

/-- A key fits if it has no line end and is not too long in its quotes. -/
theorem fits_iff {key : String} : Fits key ↔
    (∀ c ∈ key.toList, isLineEnd c = false) ∧ (renderString key).length ≤ maxKeyLength := by
  have length : (renderString key).length = (quotedText key.toList).length + 2 := by
    rw [← List.length_map unified, map_unified_renderString]
    simp
  rw [Fits, fitsKey, length]
  simp

/-! ### Steps -/

/-- The tokens that a node of a flow collection starts with. -/
def Token.opensNode : Token → Bool
  | .scalar _ _ => true
  | .flowSequenceStart => true
  | .flowMappingStart => true
  | _ => false

theorem exists_tokensOf (value : Value) :
    ∃ token more, tokensOf value = token :: more ∧ token.opensNode = true := by
  cases value with
  | null | bool | number => exact ⟨_, _, rfl, rfl⟩
  | string text => exact ⟨_, _, by rw [tokensOf], rfl⟩
  | array items => cases items <;> exact ⟨_, _, by rw [tokensOf], rfl⟩
  | object members => cases members <;> exact ⟨_, _, by rw [tokensOf], rfl⟩

variable {handles : Handles} {fuel : Nat} {context : Context} {token : Token}
  {tokens rest : List Token}

theorem parseNode?_scalar (style : Style) (text : List Char) :
    parseNode? handles (fuel + 1) context (.scalar style text :: rest) =
      some (.scalar none none style text, rest) := rfl

theorem parseNode?_sequence : parseNode? handles (fuel + 1) context (.flowSequenceStart :: rest) =
    (parseFlowItems? handles fuel true rest).map fun (items, rest) =>
      (.sequence none none items, rest) := rfl

theorem parseNode?_mapping : parseNode? handles (fuel + 1) context (.flowMappingStart :: rest) =
    (parseFlowPairs? handles fuel true rest).map fun (pairs, rest) =>
      (.mapping none none pairs, rest) := rfl

theorem parseFlowItems?_end (isFirst : Bool) :
    parseFlowItems? handles (fuel + 1) isFirst (.flowSequenceEnd :: rest) = some ([], rest) := rfl

theorem parseFlowItems?_item (opens : token.opensNode = true) :
    parseFlowItems? handles (fuel + 1) true (token :: tokens) = do
      let (item, rest) ← parseNode? handles fuel .flow (token :: tokens)
      let (items, rest) ← parseFlowItems? handles fuel false rest
      return (item :: items, rest) := by
  cases token <;> cases opens <;> rfl

theorem parseFlowItems?_entry (opens : token.opensNode = true) :
    parseFlowItems? handles (fuel + 1) false (.flowEntry :: token :: tokens) =
      parseFlowItems? handles (fuel + 1) true (token :: tokens) := by
  cases token <;> cases opens <;> rfl

theorem parseFlowPairs?_end (isFirst : Bool) :
    parseFlowPairs? handles (fuel + 1) isFirst (.flowMappingEnd :: rest) = some ([], rest) := rfl

/-- A key with its token is read together with its value. -/
theorem parseFlowPairs?_key (opens : token.opensNode = true) (style : Style) (text : List Char) :
    parseFlowPairs? handles (fuel + 2) true
        (.key :: .scalar style text :: .value :: token :: tokens) = do
        let (value, rest) ← parseNode? handles (fuel + 1) .flow (token :: tokens)
        let (pairs, rest) ← parseFlowPairs? handles (fuel + 1) false rest
        return ((.scalar none none style text, value) :: pairs, rest) := by
  cases token <;> cases opens <;> rfl

/-- A key without its token is a key without a value, so the colon behind it is refused. -/
theorem parseFlowPairs?_unmarked (style : Style) (text : List Char) :
    parseFlowPairs? handles (fuel + 2) true (.scalar style text :: .value :: tokens) = none := rfl

theorem parseFlowPairs?_entry (key : List Char) :
    parseFlowPairs? handles (fuel + 1) false (.flowEntry :: (keyTokens key ++ tokens)) =
      parseFlowPairs? handles (fuel + 1) true (keyTokens key ++ tokens) := by
  rw [keyTokens]
  cases fitsKey key <;> rfl

/-! ### Reading values -/

/-- Tokens of which a node is read if a condition holds.  Two units of fuel for each token are enough,
since opening a collection and going on to its next part take one each. -/
def Parses (tokens : List Token) (condition : Prop) (node : Node String) : Prop :=
  ∀ ⦃handles : Handles⦄ ⦃fuel : Nat⦄ ⦃context : Context⦄ ⦃rest : List Token⦄,
    2 * (tokens ++ rest).length < fuel →
      Settles condition (parseNode? handles fuel context (tokens ++ rest)) (node, rest)

/-- Tokens of which the items of a sequence are read if a condition holds. -/
def ParsesItems (isFirst : Bool) (tokens : List Token) (condition : Prop)
    (items : List (Node String)) : Prop :=
  ∀ ⦃handles : Handles⦄ ⦃fuel : Nat⦄ ⦃rest : List Token⦄,
    2 * (tokens ++ .flowSequenceEnd :: rest).length + 1 < fuel →
      Settles condition
        (parseFlowItems? handles fuel isFirst (tokens ++ .flowSequenceEnd :: rest)) (items, rest)

/-- Tokens of which the pairs of a mapping are read if a condition holds. -/
def ParsesPairs (isFirst : Bool) (tokens : List Token) (condition : Prop)
    (pairs : List (Node String × Node String)) : Prop :=
  ∀ ⦃handles : Handles⦄ ⦃fuel : Nat⦄ ⦃rest : List Token⦄,
    2 * (tokens ++ .flowMappingEnd :: rest).length + 1 < fuel →
      Settles condition
        (parseFlowPairs? handles fuel isFirst (tokens ++ .flowMappingEnd :: rest)) (pairs, rest)

/-- A value is read of its tokens if all keys of its objects fit. -/
def Parsed (value : Value) : Prop :=
  Parses (tokensOf value) (Texts (fun _ => True) Fits value) (nodeOf value)

/-! ### Items -/

theorem parsesItems_nil (isFirst : Bool) : ParsesItems isFirst [] True [] := by
  intro handles fuel rest enough
  cases fuel with
  | zero => exact absurd enough (Nat.not_lt_zero _)
  | succ fuel => exact ⟨fun _ => parseFlowItems?_end isFirst, fun fault => absurd trivial fault⟩

/-- The first item is read, and then the others. -/
theorem parsesItems_cons {item : Value} {condition : Prop} {items : List (Node String)}
    (parsed : Parsed item) (later : ParsesItems false tokens condition items) :
    ParsesItems true (tokensOf item ++ tokens) (Texts (fun _ => True) Fits item ∧ condition)
      (nodeOf item :: items) := by
  intro handles fuel rest enough
  obtain ⟨token, more, same, opens⟩ := exists_tokensOf item
  rw [List.append_assoc] at enough ⊢
  cases fuel with
  | zero => exact absurd enough (Nat.not_lt_zero _)
  | succ fuel =>
    have first := @parsed handles fuel .flow (tokens ++ .flowSequenceEnd :: rest) (by omega)
    have others := @later handles fuel rest (by
      rw [same] at enough
      simp only [List.length_append, List.length_cons] at enough ⊢
      omega)
    rw [same, List.cons_append] at first ⊢
    rw [parseFlowItems?_item opens]
    exact first.bind (others.bind_some fun found => (nodeOf item :: found.1, found.2))

theorem parsesItems_entry {item : Value} {condition : Prop} {items : List (Node String)}
    (parses : ParsesItems true (tokensOf item ++ tokens) condition items) :
    ParsesItems false (.flowEntry :: (tokensOf item ++ tokens)) condition items := by
  intro handles fuel rest enough
  obtain ⟨token, more, same, opens⟩ := exists_tokensOf item
  have read := @parses handles fuel rest (by
    rw [List.cons_append, List.length_cons] at enough
    omega)
  cases fuel with
  | zero => exact absurd enough (Nat.not_lt_zero _)
  | succ fuel =>
    rw [same] at read ⊢
    rwa [List.cons_append, List.cons_append, List.cons_append, parseFlowItems?_entry opens]

theorem parsesItems_itemTokens {items : List Value} (each : ∀ item ∈ items, Parsed item) :
    ParsesItems false (Yaml.itemTokens items) (∀ item ∈ items, Texts (fun _ => True) Fits item)
      (itemNodes items) := by
  induction items with
  | nil =>
    intro handles fuel rest enough
    exact (parsesItems_nil false enough).congr (by simp)
  | cons item rest ih =>
    obtain ⟨first, later⟩ := List.forall_mem_cons.1 each
    rw [Yaml.itemTokens, itemNodes]
    intro handles fuel rest enough
    exact (parsesItems_entry (parsesItems_cons first (ih later)) enough).congr
      List.forall_mem_cons.symm

/-- The tokens between the brackets of an array. -/
theorem exists_parsesItems {items : List Value} (each : ∀ item ∈ items, Parsed item) :
    ∃ tokens, tokensOf (.array items) = .flowSequenceStart :: (tokens ++ [.flowSequenceEnd]) ∧
      ParsesItems true tokens (∀ item ∈ items, Texts (fun _ => True) Fits item)
        (itemNodes items) := by
  cases items with
  | nil =>
    refine ⟨[], by rw [tokensOf]; rfl, fun handles fuel rest enough => ?_⟩
    exact (parsesItems_nil true enough).congr (by simp)
  | cons item rest =>
    obtain ⟨first, later⟩ := List.forall_mem_cons.1 each
    refine ⟨_, by rw [tokensOf], fun handles fuel rest enough => ?_⟩
    rw [itemNodes]
    exact (parsesItems_cons first (parsesItems_itemTokens later) enough).congr
      List.forall_mem_cons.symm

theorem parses_sequence {condition : Prop} {items : List (Node String)}
    (parses : ParsesItems true tokens condition items) :
    Parses (.flowSequenceStart :: (tokens ++ [.flowSequenceEnd])) condition
      (.sequence none none items) := by
  intro handles fuel context rest enough
  rw [List.cons_append, List.append_assoc] at enough ⊢
  cases fuel with
  | zero => exact absurd enough (Nat.not_lt_zero _)
  | succ fuel =>
    have read := @parses handles fuel rest (by
      rw [List.length_cons] at enough
      exact Nat.lt_of_succ_lt_succ enough)
    rw [parseNode?_sequence]
    exact read.map fun found => (Node.sequence none none found.1, found.2)

/-! ### Members -/

theorem parsesPairs_nil (isFirst : Bool) : ParsesPairs isFirst [] True [] := by
  intro handles fuel rest enough
  cases fuel with
  | zero => exact absurd enough (Nat.not_lt_zero _)
  | succ fuel => exact ⟨fun _ => parseFlowPairs?_end isFirst, fun fault => absurd trivial fault⟩

/-- The first member is read, if its key fits, and then the others. -/
theorem parsesPairs_cons {key : String} {value : Value} {condition : Prop}
    {pairs : List (Node String × Node String)} (parsed : Parsed value)
    (later : ParsesPairs false tokens condition pairs) :
    ParsesPairs true (keyTokens key.toList ++ tokensOf value ++ tokens)
      ((Fits key ∧ Texts (fun _ => True) Fits value) ∧ condition)
      ((.scalar none none .quoted (folded .nothing key.toList), nodeOf value) :: pairs) := by
  intro handles fuel rest enough
  obtain ⟨token, more, same, opens⟩ := exists_tokensOf value
  rw [keyTokens, List.append_assoc, List.append_assoc, List.append_assoc] at enough ⊢
  obtain ⟨fuel, rfl⟩ : ∃ spare, fuel = spare + 2 := by
    simp only [List.length_append, List.length_cons] at enough
    exact ⟨fuel - 2, by omega⟩
  by_cases fits : Fits key
  · have found : fitsKey key.toList = true := fits
    rw [found] at enough ⊢
    have first := @parsed handles (fuel + 1) .flow (tokens ++ .flowMappingEnd :: rest) (by
      simp only [List.length_append, List.length_cons] at enough ⊢
      omega)
    have others := @later handles (fuel + 1) rest (by
      simp only [List.length_append, List.length_cons] at enough ⊢
      omega)
    rw [same, List.cons_append] at first ⊢
    rw [and_iff_right fits, if_pos rfl, List.singleton_append, List.cons_append, List.cons_append,
      List.nil_append, parseFlowPairs?_key opens]
    exact first.bind (others.bind_some fun found =>
      ((Node.scalar none none .quoted (folded .nothing key.toList), nodeOf value) :: found.1,
        found.2))
  · -- The colon is left behind the key, where only a separator may stand.
    have none : fitsKey key.toList = false := Bool.eq_false_iff.2 fits
    rw [none]
    exact ⟨fun all => absurd all.1.1 fits, fun _ => parseFlowPairs?_unmarked _ _⟩

theorem parsesPairs_entry {key : List Char} {condition : Prop}
    {pairs : List (Node String × Node String)}
    (parses : ParsesPairs true (keyTokens key ++ tokens) condition pairs) :
    ParsesPairs false (.flowEntry :: (keyTokens key ++ tokens)) condition pairs := by
  intro handles fuel rest enough
  have read := @parses handles fuel rest (by
    rw [List.cons_append, List.length_cons] at enough
    omega)
  cases fuel with
  | zero => exact absurd enough (Nat.not_lt_zero _)
  | succ fuel =>
    rw [List.append_assoc] at read
    rwa [List.cons_append, List.append_assoc, parseFlowPairs?_entry]

theorem parsesPairs_memberTokens {members : List (String × Value)}
    (each : ∀ member ∈ members, Parsed member.2) :
    ParsesPairs false (memberTokens members)
      (∀ member ∈ members, Fits member.1 ∧ Texts (fun _ => True) Fits member.2)
      (memberNodes members) := by
  induction members with
  | nil =>
    intro handles fuel rest enough
    exact (parsesPairs_nil false enough).congr (by simp)
  | cons member rest ih =>
    obtain ⟨key, value⟩ := member
    obtain ⟨first, later⟩ := List.forall_mem_cons.1 each
    have read := @parsesPairs_cons _ key _ _ _ first (ih later)
    rw [List.append_assoc] at read
    rw [memberTokens, memberNodes, List.append_assoc]
    intro handles fuel rest enough
    exact (parsesPairs_entry read enough).congr List.forall_mem_cons.symm

/-- The tokens between the braces of an object. -/
theorem exists_parsesPairs {members : Table Value} (each : ∀ member ∈ members, Parsed member.2) :
    ∃ tokens, tokensOf (.object members) = .flowMappingStart :: (tokens ++ [.flowMappingEnd]) ∧
      ParsesPairs true tokens
        (∀ member ∈ members, Fits member.1 ∧ Texts (fun _ => True) Fits member.2)
        (memberNodes members) := by
  cases members with
  | nil =>
    refine ⟨[], by rw [tokensOf]; rfl, fun handles fuel rest enough => ?_⟩
    exact (parsesPairs_nil true enough).congr (by simp)
  | cons member rest =>
    obtain ⟨key, value⟩ := member
    obtain ⟨first, later⟩ := List.forall_mem_cons.1 each
    refine ⟨_, by rw [tokensOf], fun handles fuel rest enough => ?_⟩
    rw [memberNodes]
    exact (parsesPairs_cons first (parsesPairs_memberTokens later) enough).congr
      List.forall_mem_cons.symm

theorem parses_mapping {condition : Prop} {pairs : List (Node String × Node String)}
    (parses : ParsesPairs true tokens condition pairs) :
    Parses (.flowMappingStart :: (tokens ++ [.flowMappingEnd])) condition
      (.mapping none none pairs) := by
  intro handles fuel context rest enough
  rw [List.cons_append, List.append_assoc] at enough ⊢
  cases fuel with
  | zero => exact absurd enough (Nat.not_lt_zero _)
  | succ fuel =>
    have read := @parses handles fuel rest (by
      rw [List.length_cons] at enough
      exact Nat.lt_of_succ_lt_succ enough)
    rw [parseNode?_mapping]
    exact read.map fun found => (Node.mapping none none found.1, found.2)

/-! ### Values -/

theorem parses_scalar {condition : Prop} (holds : condition) (style : Style) (text : List Char) :
    Parses [.scalar style text] condition (.scalar none none style text) := by
  intro handles fuel context rest enough
  cases fuel with
  | zero => exact absurd enough (Nat.not_lt_zero _)
  | succ fuel => exact ⟨fun _ => parseNode?_scalar style text, fun fault => absurd holds fault⟩

/-- The tokens of a value are read as its node exactly if all keys fit. -/
theorem parsed_value (value : Value) : Parsed value := by
  induction value using Value.induct with
  | null => exact parses_scalar .null _ _
  | bool flag => exact parses_scalar (.bool flag) _ _
  | number number => exact parses_scalar (.number number) _ _
  | string text =>
    rw [Parsed, tokensOf, nodeOf]
    exact parses_scalar (.string trivial) _ _
  | array items ih =>
    obtain ⟨tokens, same, parses⟩ := exists_parsesItems ih
    rw [Parsed, same, nodeOf]
    intro handles fuel context rest enough
    exact (parses_sequence parses enough).congr texts_array_iff.symm
  | object members ih =>
    obtain ⟨tokens, same, parses⟩ := exists_parsesPairs ih
    rw [Parsed, same, nodeOf]
    intro handles fuel context rest enough
    exact (parses_mapping parses enough).congr texts_object_iff.symm

/-- The tokens of an object are those of a document, exactly if all keys fit. -/
theorem parseDocument?_tokensOf (members : Table Value) :
    Settles (Texts (fun _ => True) Fits (.object members))
      (parseDocument? (tokensOf (.object members))) (some (nodeOf (.object members))) := by
  have read := @parsed_value (.object members) defaultHandles
    (nodeFuel (tokensOf (.object members))) .block [] (by rw [List.append_nil, nodeFuel]; omega)
  rw [List.append_nil] at read
  have root : parseRoot? (tokensOf (.object members)) =
      parseNode? defaultHandles (nodeFuel (tokensOf (.object members))) .block
        (tokensOf (.object members)) := by
    cases members <;> rw [tokensOf] <;> rfl
  have filled : (tokensOf (.object members)).isEmpty = false := by
    cases members <;> rw [tokensOf] <;> rfl
  rw [← root] at read
  refine ⟨fun fits => ?_, fun fault => ?_⟩
  · rw [parseDocument?, filled, read.found fits]
    rfl
  · rw [parseDocument?, filled, read.absent fault]
    rfl

end RealmLookup.Yaml
