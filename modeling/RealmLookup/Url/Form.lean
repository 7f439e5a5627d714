import RealmLookup.Url.Percent

/-!
# Forms

Lists of names and values as text, the format of login requests and of queries: pairs are
joined by ampersands, a name and its value by an equals sign, a blank is a plus sign, and all
characters but letters, digits and a few signs are percent-encoded.

## Main definitions

* `Form.encode` : the text of a list of pairs.
* `Form.decode` : the pairs of a text.
-/

namespace RealmLookup.Url.Form

open RealmLookup.Text

/-- The ASCII characters that do not stand for themselves. -/
def reserved : Percent.Set := fun c =>
  !(c.isAlphanum || ['*', '-', '.', '_'].contains c)

/-- A character of a name or value. -/
def encodeChar (c : Char) : List Char :=
  if c = ' ' then ['+'] else Percent.encodeChar reserved c

/-- A name or value. -/
def encodeText (text : List Char) : List Char :=
  text.flatMap encodeChar

/-- A pair. -/
def encodePair (pair : String × String) : List Char :=
  encodeText pair.1.toList ++ '=' :: encodeText pair.2.toList

/-- The text of a list of pairs. -/
def encode (pairs : List (String × String)) : List Char :=
  List.intercalate ['&'] (pairs.map encodePair)

/-! ### Decoding -/

/-- The parts of a text between separators. -/
def split (separator : Char) : List Char → List (List Char)
  | [] => [[]]
  | c :: rest =>
      if c = separator then [] :: split separator rest
      else
        match split separator rest with
        | [] => [[c]]
        | part :: parts => (c :: part) :: parts

/-- A name or value, its plus signs as blanks and its encoded bytes decoded. -/
def decodeText (text : List Char) : List Char :=
  Percent.decode (text.map fun c => if c = '+' then ' ' else c)

/-- The pair of a part; without an equals sign the value is empty. -/
def decodePair (part : List Char) : String × String :=
  (String.ofList (decodeText (part.takeWhile (· ≠ '='))),
    String.ofList (decodeText ((part.dropWhile (· ≠ '=')).drop 1)))

/-- The pairs of a text; empty parts do not count. -/
def decode (text : List Char) : List (String × String) :=
  ((split '&' text).filter (!·.isEmpty)).map decodePair

end RealmLookup.Url.Form
