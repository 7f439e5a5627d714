/-!
# Characters of YAML documents

A document is read as a list of characters that know their line and column, so the position
at any point of scanning is that of the next character.  All line breaks are one character:
those of ASCII, and U+0085, become a line feed; U+2028 and U+2029 stay as they are.

## Main definitions

* `Yaml.isAllowed` : the characters that a document may contain.
* `Yaml.isBlank`, `Yaml.isBreak`, `Yaml.isWhite`, `Yaml.isWord` : classes of characters.
* `Yaml.Glyph`, `Yaml.glyphs?` : a character with its place, and those of a document.
* `Yaml.isMarkerOf` : the marks that start and end a document.
-/

namespace RealmLookup.Yaml

/-! ### Classes -/

/-- The characters that a document may contain. -/
def isAllowed (c : Char) : Bool :=
  let n := c.toNat
  n == 0x9 || n == 0xA || n == 0xD || (0x20 ≤ n && n ≤ 0x7E) || n == 0x85 ||
  (0xA0 ≤ n && n ≤ 0xD7FF) || (0xE000 ≤ n && n ≤ 0xFFFD) || 0x10000 ≤ n

/-- The character U+0085, a line break. -/
def nextLine : Char := Char.ofNat 0x85

/-- The line separator U+2028. -/
def lineSeparator : Char := Char.ofNat 0x2028

/-- The paragraph separator U+2029. -/
def paragraphSeparator : Char := Char.ofNat 0x2029

/-- The byte order mark, which may start a line. -/
def byteOrderMark : Char := Char.ofNat 0xFEFF

/-- Blanks: spaces and tabs. -/
def isBlank (c : Char) : Bool := c == ' ' || c == '\t'

/-- Line breaks of a document in which they are one character. -/
def isBreak (c : Char) : Bool := c == '\n' || c == lineSeparator || c == paragraphSeparator

/-- Blanks and line breaks. -/
def isWhite (c : Char) : Bool := isBlank c || isBreak c

/-- The characters of names. -/
def isWord (c : Char) : Bool :=
  ('0' ≤ c && c ≤ '9') || ('A' ≤ c && c ≤ 'Z') || ('a' ≤ c && c ≤ 'z') || c == '_' || c == '-'

/-- The characters that mean something in flow collections. -/
def isFlowIndicator (c : Char) : Bool :=
  c == ',' || c == '[' || c == ']' || c == '{' || c == '}'

/-! ### Places -/

/-- A document with line breaks of one character. -/
def unifyBreaks : List Char → List Char
  | [] => []
  | '\r' :: '\n' :: rest => '\n' :: unifyBreaks rest
  | c :: rest => (if c = '\r' ∨ c = nextLine then '\n' else c) :: unifyBreaks rest

/-- A character with its line and column, both counted from zero. -/
structure Glyph where
  char : Char
  line : Nat
  column : Nat
deriving DecidableEq

/-- Gives each character its place; the first one is at the given line and column. -/
def place : Nat → Nat → List Char → List Glyph
  | _, _, [] => []
  | line, column, c :: rest =>
      ⟨c, line, column⟩ ::
        if isBreak c then place (line + 1) 0 rest else place line (column + 1) rest

/-- The characters of a document with their places; none if one of them is not allowed. -/
def glyphs? (text : List Char) : Option (List Glyph) :=
  if text.all isAllowed then some (place 0 0 (unifyBreaks text)) else none

/-- The characters alone. -/
def chars (text : List Glyph) : List Char :=
  text.map Glyph.char

/-! ### Looking ahead -/

/-- Whether a text is at its end or continues with white space. -/
def atWhite : List Glyph → Bool
  | [] => true
  | glyph :: _ => isWhite glyph.char

/-- Whether a text is at its end or at the end of a line. -/
def atBreak : List Glyph → Bool
  | [] => true
  | glyph :: _ => isBreak glyph.char

/-- Whether a text continues with a character of a class. -/
def atClass (class? : Char → Bool) : List Glyph → Bool
  | [] => false
  | glyph :: _ => class? glyph.char

/-- Whether a text continues with a line that starts with a mark: one character three times,
with white space behind it. -/
def isMarkerOf (mark : Char) : List Glyph → Bool
  | a :: b :: c :: rest =>
      a.column == 0 && a.char == mark && b.char == mark && c.char == mark && atWhite rest
  | _ => false

/-- Whether a text continues with the start or the end mark of a document. -/
def atMarker (text : List Glyph) : Bool :=
  isMarkerOf '-' text || isMarkerOf '.' text

/-- The rest of a line: blanks and a comment, up to the line break, which is dropped; none if
there is anything else. -/
def skipLineEnd? (text : List Glyph) : Option (List Glyph) :=
  let afterBlanks := text.dropWhile (isBlank ·.char)
  let atEnd :=
    if atClass (· == '#') afterBlanks then afterBlanks.dropWhile (!isBreak ·.char)
    else afterBlanks
  if atBreak atEnd then some atEnd.tail else none

end RealmLookup.Yaml
