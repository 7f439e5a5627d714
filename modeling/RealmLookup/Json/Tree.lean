import RealmLookup.Json.Token
import RealmLookup.Text.Utf8

/-!
# Trees of JSON text

The tree of a JSON text, with strings and numbers still as written and members in the order of
the text.  The tokens are consumed one by one with the open containers on a stack, so trees of
any depth are read; how deep a value may be is decided where it is asked for.

## Main definitions

* `Json.Tree` : the tree of a text.
* `Json.Tree.ofTokens?` : the tree of a list of tokens, `none` unless they form one value.
* `Json.Tree.read?`, `Json.Tree.readBytes?` : the tree of a text, and of its bytes.
-/

namespace RealmLookup.Json

/-- A JSON value as written. -/
inductive Tree
  | null
  | bool (value : Bool)
  | number (literal : Literal)
  | string (text : List Piece)
  | array (items : List Tree)
  | object (members : List (List Piece × Tree))

namespace Tree

/-- An open container: what came before the value that is due, latest first. -/
inductive Frame
  | items (before : List Tree)
  | members (before : List (List Piece × Tree)) (key : List Piece)

/-- What may come next: a value; the first item or the end of an array; the first key or the
end of an object; a further key; the colon behind a key; or, behind a value, a separator, the
end of its container, or nothing. -/
inductive Due
  | value
  | item
  | member
  | key (before : List (List Piece × Tree))
  | colon (before : List (List Piece × Tree)) (key : List Piece)
  | next (value : Tree)

/-- The state behind a token that starts a value. -/
def begin? (stack : List Frame) : Token → Option (Due × List Frame)
  | .null => some (.next .null, stack)
  | .bool value => some (.next (.bool value), stack)
  | .number literal => some (.next (.number literal), stack)
  | .string text => some (.next (.string text), stack)
  | .openArray => some (.item, .items [] :: stack)
  | .openObject => some (.member, stack)
  | _ => none

/-- The state behind a token that follows a value. -/
def follow? (value : Tree) : List Frame → Token → Option (Due × List Frame)
  | .items before :: stack, .comma => some (.value, .items (value :: before) :: stack)
  | .items before :: stack, .closeArray =>
      some (.next (.array (value :: before).reverse), stack)
  | .members before key :: stack, .comma => some (.key ((key, value) :: before), stack)
  | .members before key :: stack, .closeObject =>
      some (.next (.object ((key, value) :: before).reverse), stack)
  | _, _ => none

/-- The state behind a token. -/
def step? (stack : List Frame) : Due → Token → Option (Due × List Frame)
  | .value, token => begin? stack token
  | .item, .closeArray => some (.next (.array []), stack.tail)
  | .item, token => begin? stack token
  | .member, .closeObject => some (.next (.object []), stack)
  | .member, .string key => some (.colon [] key, stack)
  | .key before, .string key => some (.colon before key, stack)
  | .colon before key, .colon => some (.value, .members before key :: stack)
  | .next value, token => follow? value stack token
  | _, _ => none

/-- Consumes tokens from a state; at the end one value must be complete. -/
def run? : Due → List Frame → List Token → Option Tree
  | .next value, [], [] => some value
  | _, _, [] => none
  | due, stack, token :: rest =>
      match step? stack due token with
      | some (due, stack) => run? due stack rest
      | none => none

/-- The tree of the tokens of one value. -/
def ofTokens? (tokens : List Token) : Option Tree :=
  run? .value [] tokens

/-- The tree of a JSON text. -/
def read? (text : List Char) : Option Tree :=
  (lex (text.map some)).bind ofTokens?

/-- The tree of the bytes of a JSON text.  Only strings may be malformed. -/
def readBytes? (bytes : List UInt8) : Option Tree :=
  (lex (Text.Utf8.decode bytes)).bind ofTokens?

end Tree

end RealmLookup.Json
