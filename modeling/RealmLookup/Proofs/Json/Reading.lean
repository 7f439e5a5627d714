import RealmLookup.Json.Tree
import RealmLookup.Proofs.Json.Grammar
import RealmLookup.Proofs.Text.Utf8

/-!
# The trees of JSON text

A JSON text is a text of the tokens of a tree, and it is read as that tree: white space, the way in
which characters are escaped, and what the values mean do not matter for it.

## Main definitions

* `Json.Tree.tokens` : the tokens of a tree.
* `Json.Tree.Spells` : the JSON texts of a tree.

## Main results

* `Json.Tree.run?_tokens` : the tokens of a tree are consumed as one value.
* `Json.Tree.read?_of_spells` : a JSON text is read as the tree that it spells.
* `Json.Tree.readBytes?_encode` : bytes are read as the text that they encode.
-/

namespace RealmLookup.Json

/-! ### Tokens -/

mutual

/-- The tokens of a tree. -/
def Tree.tokens : Tree → List Token
  | .null => [.null]
  | .bool value => [.bool value]
  | .number literal => [.number literal]
  | .string text => [.string text]
  | .array [] => [.openArray, .closeArray]
  | .array (item :: rest) => .openArray :: (item.tokens ++ (itemTokens rest ++ [.closeArray]))
  | .object [] => [.openObject, .closeObject]
  | .object ((key, value) :: rest) =>
      .openObject :: .string key :: .colon ::
        (value.tokens ++ (memberTokens rest ++ [.closeObject]))

/-- The tokens of further items, a comma before each. -/
def itemTokens : List Tree → List Token
  | [] => []
  | item :: rest => .comma :: (item.tokens ++ itemTokens rest)

/-- The tokens of further members, a comma before each. -/
def memberTokens : List (List Piece × Tree) → List Token
  | [] => []
  | (key, value) :: rest =>
      .comma :: .string key :: .colon :: (value.tokens ++ memberTokens rest)

end

/-- The JSON texts of a tree. -/
def Tree.Spells (tree : Tree) (text : List Char) : Prop :=
  Spelled text tree.tokens

/-! ### Numbers stand apart -/

/-- Lists of tokens that may follow a number. -/
structure Follows (rest : List Token) : Prop where
  apart : Apart rest
  first : ∀ token ∈ rest.head?, token.isNumber = false

theorem follows_nil : Follows [] where
  apart := .nil
  first _ first := by cases first

theorem follows_cons {token : Token} {rest : List Token} (other : token.isNumber = false)
    (apart : Apart rest) : Follows (token :: rest) where
  apart := List.isChain_cons.2 ⟨fun _ _ => .inl other, apart⟩
  first first same := by
    obtain rfl := Option.some.inj same
    exact other

mutual

/-- No number follows another one in the tokens of a tree. -/
theorem apart_tokens {rest : List Token} (follows : Follows rest) :
    ∀ tree : Tree, Apart (tree.tokens ++ rest)
  | .null => (follows_cons rfl follows.apart).apart
  | .bool _ => (follows_cons rfl follows.apart).apart
  | .number _ => List.isChain_cons.2 ⟨fun token first => .inr (follows.first token first),
      follows.apart⟩
  | .string _ => (follows_cons rfl follows.apart).apart
  | .array [] => (follows_cons rfl (follows_cons rfl follows.apart).apart).apart
  | .array (item :: items) => by
    have ends : Follows (.closeArray :: rest) := follows_cons rfl follows.apart
    simp only [Tree.tokens, List.cons_append, List.append_assoc, List.nil_append]
    exact (follows_cons rfl (apart_tokens (follows_itemTokens ends items) item)).apart
  | .object [] => (follows_cons rfl (follows_cons rfl follows.apart).apart).apart
  | .object ((key, value) :: members) => by
    have ends : Follows (.closeObject :: rest) := follows_cons rfl follows.apart
    have behind := apart_tokens (follows_memberTokens ends members) value
    simp only [Tree.tokens, List.cons_append, List.append_assoc, List.nil_append]
    exact (follows_cons rfl (follows_cons rfl (follows_cons rfl behind).apart).apart).apart

theorem follows_itemTokens {rest : List Token} (follows : Follows rest) :
    ∀ items : List Tree, Follows (itemTokens items ++ rest)
  | [] => follows
  | item :: items => by
    simp only [itemTokens, List.cons_append, List.append_assoc]
    exact follows_cons rfl (apart_tokens (follows_itemTokens follows items) item)

theorem follows_memberTokens {rest : List Token} (follows : Follows rest) :
    ∀ members : List (List Piece × Tree), Follows (memberTokens members ++ rest)
  | [] => follows
  | (key, value) :: members => by
    have behind := apart_tokens (follows_memberTokens follows members) value
    simp only [memberTokens, List.cons_append, List.append_assoc]
    exact follows_cons rfl (follows_cons rfl (follows_cons rfl behind).apart).apart

end

/-! ### Consuming tokens -/

namespace Tree

/-- A tree does not begin with the end of an array, so it may stand where an array may end. -/
theorem run?_item (tree : Tree) (stack : List Frame) (rest : List Token) :
    run? .item stack (tree.tokens ++ rest) = run? .value stack (tree.tokens ++ rest) := by
  cases tree with
  | null | bool | number | string => rfl
  | array items => cases items <;> rfl
  | object members => cases members <;> rfl

mutual

/-- The tokens of a tree are consumed as one value. -/
theorem run?_tokens (stack : List Frame) (rest : List Token) :
    ∀ tree : Tree, run? .value stack (tree.tokens ++ rest) = run? (.next tree) stack rest
  | .null => rfl
  | .bool value => rfl
  | .number literal => rfl
  | .string text => rfl
  | .array [] => rfl
  | .array (item :: items) => by
    have opened : run? .value stack ((Tree.array (item :: items)).tokens ++ rest) =
        run? .item (.items [] :: stack)
          (item.tokens ++ (itemTokens items ++ .closeArray :: rest)) := by
      simp only [tokens, List.cons_append, List.append_assoc, List.nil_append]
      rfl
    rw [opened, run?_item, run?_tokens, run?_itemTokens stack rest items [] item]
    rfl
  | .object [] => rfl
  | .object ((key, value) :: members) => by
    have opened : run? .value stack ((Tree.object ((key, value) :: members)).tokens ++ rest) =
        run? .value (.members [] key :: stack)
          (value.tokens ++ (memberTokens members ++ .closeObject :: rest)) := by
      simp only [tokens, List.cons_append, List.append_assoc, List.nil_append]
      rfl
    rw [opened, run?_tokens, run?_memberTokens stack rest members [] key value]
    rfl

/-- Further items are consumed up to the end of their array. -/
theorem run?_itemTokens (stack : List Frame) (rest : List Token) :
    ∀ (items before : List Tree) (value : Tree),
      run? (.next value) (.items before :: stack) (itemTokens items ++ .closeArray :: rest) =
        run? (.next (.array (before.reverse ++ value :: items))) stack rest
  | [], before, value => by
    rw [← List.reverse_cons]
    rfl
  | item :: items, before, value => by
    have parted : run? (.next value) (.items before :: stack)
          (itemTokens (item :: items) ++ .closeArray :: rest) =
        run? .value (.items (value :: before) :: stack)
          (item.tokens ++ (itemTokens items ++ .closeArray :: rest)) := by
      simp only [itemTokens, List.cons_append, List.append_assoc]
      rfl
    rw [parted, run?_tokens, run?_itemTokens stack rest items (value :: before) item,
      List.reverse_cons, List.append_assoc]
    rfl

/-- Further members are consumed up to the end of their object. -/
theorem run?_memberTokens (stack : List Frame) (rest : List Token) :
    ∀ (members before : List (List Piece × Tree)) (key : List Piece) (value : Tree),
      run? (.next value) (.members before key :: stack)
          (memberTokens members ++ .closeObject :: rest) =
        run? (.next (.object (before.reverse ++ (key, value) :: members))) stack rest
  | [], before, key, value => by
    rw [← List.reverse_cons]
    rfl
  | (name, member) :: members, before, key, value => by
    have parted : run? (.next value) (.members before key :: stack)
          (memberTokens ((name, member) :: members) ++ .closeObject :: rest) =
        run? .value (.members ((key, value) :: before) name :: stack)
          (member.tokens ++ (memberTokens members ++ .closeObject :: rest)) := by
      simp only [memberTokens, List.cons_append, List.append_assoc]
      rfl
    rw [parted, run?_tokens,
      run?_memberTokens stack rest members ((key, value) :: before) name member,
      List.reverse_cons, List.append_assoc]
    rfl

end

/-- A tree is read from its tokens. -/
theorem ofTokens?_tokens (tree : Tree) : ofTokens? tree.tokens = some tree := by
  have consumed := run?_tokens [] [] tree
  rw [List.append_nil] at consumed
  rw [ofTokens?, consumed]
  rfl

/-- A JSON text is read as the tree that it spells. -/
theorem read?_of_spells {tree : Tree} {text : List Char} (spells : tree.Spells text) :
    read? text = some tree := by
  have apart := apart_tokens follows_nil tree
  rw [List.append_nil] at apart
  rw [read?, lex_of_spelled spells apart, Option.bind_some, ofTokens?_tokens]

/-- Bytes are read as the text that they encode. -/
theorem readBytes?_encode (text : List Char) : readBytes? (Text.Utf8.encode text) = read? text := by
  rw [readBytes?, Text.Utf8.decode_encode, read?]

end Tree

end RealmLookup.Json
