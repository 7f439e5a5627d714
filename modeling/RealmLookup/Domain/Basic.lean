import RealmLookup.Domain.Label
import RealmLookup.Domain.Mapping
import RealmLookup.Domain.Normalization
import RealmLookup.Domain.Punycode
import RealmLookup.Text.Utf8

/-!
# Domain names

Domain names in their ASCII form: characters are replaced by the preferred ones, letters in
lower case for example, labels with other characters than those of ASCII are encoded, and
domains that are not valid are refused.

## Main definitions

* `Domain.labels` : the labels of a domain.
* `Domain.Label`, `Domain.label?` : a label with its ASCII form.
* `Domain.toAscii?` : the ASCII form of the bytes of a domain.
-/

namespace RealmLookup.Domain

open RealmLookup.Text

/-- The ASCII characters that no domain holds. -/
def forbidden (c : Char) : Bool :=
  c.toNat ≤ 0x20 || c.toNat == 0x7F ||
    ['#', '%', '/', ':', '<', '>', '?', '@', '[', '\\', ']', '^', '|'].contains c

/-- Whether a character belongs to ASCII. -/
def isAscii (c : Char) : Bool := c.toNat < 0x80

/-! ### Labels -/

/-- The labels of a domain, which points separate. -/
def labels : List Char → List (List Char)
  | [] => [[]]
  | c :: rest =>
      if c = '.' then [] :: labels rest
      else
        match labels rest with
        | [] => [[c]]
        | label :: more => (c :: label) :: more

/-- The start of encoded labels. -/
def encodedPrefix : List Char := ['x', 'n', '-', '-']

/-- A label, and its ASCII form. -/
structure Label where
  text : List Char
  ascii : List Char
deriving DecidableEq

/-- The characters of a label that is encoded at most. -/
def maxPlainLength : Nat := 1000

/-- The characters of an encoded label at most. -/
def maxEncodedLength : Nat := 2000

/-- The label of an encoded one; it has other characters than those of ASCII, and encoding it
is what they are there for. -/
def decodeLabel? (encoded : List Char) : Option (List Char) :=
  if encoded.all isAscii && encoded.length ≤ maxEncodedLength then
    (Punycode.decode? encoded).filter fun text =>
      !text.all isAscii && text.all isValid && composed text == text &&
        !encodedPrefix.isPrefixOf text
  else none

/-- A label with its ASCII form. -/
def label? (text : List Char) : Option Label :=
  if encodedPrefix.isPrefixOf text then
    (decodeLabel? (text.drop encodedPrefix.length)).map fun decoded => ⟨decoded, text⟩
  else if text.all isAscii then some ⟨text, text⟩
  else if text.length ≤ maxPlainLength then
    some ⟨text, encodedPrefix ++ Punycode.encode text⟩
  else none

/-- Whether a label is valid by itself. -/
def Label.isValid (label : Label) : Bool :=
  !label.text.any forbidden && !startsWithMark label.text &&
    joinersFit (fun c => combiningClass c.toNat) [] label.text

/-! ### Domains -/

/-- The labels joined by points. -/
def join (labels : List (List Char)) : List Char :=
  List.intercalate ['.'] labels

/-- The ASCII form of a domain. -/
def ofText? (text : List Char) : Option (List Char) := do
  let mapped ← mapText? text
  let found ← (labels (composed mapped)).mapM label?
  let mixes := found.any (hasRightToLeft ·.text) && !found.all (directionsFit ·.text)
  if found.all Label.isValid && !mixes then some (join (found.map Label.ascii)) else none

/-- The ASCII form of a domain given by its bytes. -/
def toAscii? (bytes : List UInt8) : Option (List Char) :=
  (Utf8.decodeStrict? bytes).bind ofText?

end RealmLookup.Domain
