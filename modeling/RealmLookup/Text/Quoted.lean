import RealmLookup.Text.Printable

/-!
# Quoted texts

Texts as they are shown in descriptions of settings: in double quotes, with quotes,
backslashes, line ends and tabs escaped and characters that are not printable given by their
code points.

## Main definitions

* `quote` : a text in quotes.
* `quoteOption`, `quoteList` : an optional text and a list of texts.
-/

namespace RealmLookup.Text

/-- A character by its code point, in the fewest hexadecimal digits. -/
def codePoint (c : Char) : List Char :=
  ['\\', 'u', '{'] ++ Nat.toDigits 16 c.toNat ++ ['}']

/-- A character inside quotes. -/
def quoteChar (c : Char) : List Char :=
  if c = '"' then ['\\', '"']
  else if c = '\\' then ['\\', '\\']
  else if c = '\n' then ['\\', 'n']
  else if c = '\r' then ['\\', 'r']
  else if c = '\t' then ['\\', 't']
  else if c.toNat = 0 then ['\\', '0']
  else if isPrintable c then [c]
  else codePoint c

/-- A text in quotes. -/
def quote (text : String) : String :=
  String.ofList ('"' :: (text.toList.flatMap quoteChar ++ ['"']))

/-- An optional text. -/
def quoteOption : Option String → String
  | none => "None"
  | some text => "Some(" ++ quote text ++ ")"

/-- A list of texts. -/
def quoteList (texts : List String) : String :=
  "[" ++ String.intercalate ", " (texts.map quote) ++ "]"

end RealmLookup.Text
