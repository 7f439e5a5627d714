import RealmLookup.Decimal.Shortest
import RealmLookup.Json.Value

/-!
# Compact JSON

Values as JSON text without white space.  Members are written in the order of their table;
quotes, backslashes and the control characters below the blank are escaped, all else stands as
it is; a number in base two is written as the shortest decimal that reads back.

## Main definitions

* `Json.Value.render` : the characters of a value.
* `Json.Value.compact` : the text of a value.
-/

namespace RealmLookup.Json

open RealmLookup.Decimal

/-- The hexadecimal digit of a number below sixteen. -/
def hexDigit (n : Nat) : Char :=
  if n < 10 then Char.ofNat ('0'.toNat + n) else Char.ofNat ('a'.toNat + (n - 10))

/-- A character inside quotes. -/
def renderChar (c : Char) : List Char :=
  if c = '"' then ['\\', '"']
  else if c = '\\' then ['\\', '\\']
  else if 0x20 ≤ c.toNat then [c]
  else if c.toNat = 8 then ['\\', 'b']
  else if c.toNat = 9 then ['\\', 't']
  else if c.toNat = 10 then ['\\', 'n']
  else if c.toNat = 12 then ['\\', 'f']
  else if c.toNat = 13 then ['\\', 'r']
  else ['\\', 'u', '0', '0', hexDigit (c.toNat / 16), hexDigit (c.toNat % 16)]

/-- A text in quotes. -/
def renderString (text : String) : List Char :=
  '"' :: (text.toList.flatMap renderChar ++ ['"'])

/-- Numbers are written positionally from five zeros behind the point up to sixteen digits
before it, and with a signed exponent otherwise. -/
def numberStyle : Style := ⟨-5, 15, ['+']⟩

/-- The text of a number. -/
def Number.render : Number → List Char
  | .integer value =>
      if value < 0 then '-' :: Nat.toDigits 10 value.natAbs else Nat.toDigits 10 value.natAbs
  | .real value =>
      (if value.negative then ['-'] else []) ++ numberStyle.write (shortest value.magnitude)

mutual

/-- The characters of a value. -/
def Value.render : Value → List Char
  | .null => ['n', 'u', 'l', 'l']
  | .bool true => ['t', 'r', 'u', 'e']
  | .bool false => ['f', 'a', 'l', 's', 'e']
  | .number value => value.render
  | .string text => renderString text
  | .array [] => ['[', ']']
  | .array (item :: rest) => '[' :: (item.render ++ renderItems rest ++ [']'])
  | .object [] => ['{', '}']
  | .object ((key, value) :: rest) =>
      '{' :: (renderString key ++ ':' :: value.render ++ renderMembers rest ++ ['}'])

/-- Further items, a comma before each. -/
def renderItems : List Value → List Char
  | [] => []
  | item :: rest => ',' :: (item.render ++ renderItems rest)

/-- Further members, a comma before each. -/
def renderMembers : List (String × Value) → List Char
  | [] => []
  | (key, value) :: rest =>
      ',' :: (renderString key ++ ':' :: value.render ++ renderMembers rest)

end

/-- The compact text of a value. -/
def Value.compact (value : Value) : String :=
  String.ofList value.render

end RealmLookup.Json
