import RealmLookup.Json.Token
import RealmLookup.Yaml.Glyph
import RealmLookup.Yaml.Token

/-!
# Anchors, tags and directives

## Main definitions

* `Yaml.scanName?` : the name of an anchor or of a reference to one.
* `Yaml.scanUri?` : the bytes of a tag, with percent escapes resolved.
* `Yaml.scanTag?` : a tag, as a handle and what follows it.
* `Yaml.scanDirective?` : a directive with its line.
-/

namespace RealmLookup.Yaml

/-- The leading characters of names, and the text behind them. -/
def scanWord (text : List Glyph) : List Char × List Glyph :=
  (chars (text.takeWhile (isWord ·.char)), text.dropWhile (isWord ·.char))

/-! ### Anchors -/

/-- The indicators that may follow a name. -/
def nameEnds : List Char := ['?', ':', ',', ']', '}', '%', '@', Char.ofNat 0x60]

/-- Scans a name, with white space or an indicator behind it. -/
def scanName? (text : List Glyph) : Option (List Char × List Glyph) :=
  let (name, rest) := scanWord text
  if !name.isEmpty && (atWhite rest || atClass nameEnds.contains rest) then some (name, rest)
  else none

/-! ### Tags -/

/-- Punctuation in tags. -/
def uriMarks : List Char :=
  [';', '/', '?', ':', '@', '&', '=', '+', '$', '.', '!', '~', '*', Char.ofNat 0x27, '(', ')']

/-- Punctuation in tags where flow indicators have no meaning. -/
def verbatimMarks : List Char := [',', '[', ']']

/-- Whether a character stands for itself in a tag. -/
def isUriChar (verbatim : Bool) (c : Char) : Bool :=
  isWord c || uriMarks.contains c || (verbatim && verbatimMarks.contains c)

/-- The length of the sequence of bytes that a byte starts. -/
def sequenceLength? (octet : Nat) : Option Nat :=
  if octet < 0x80 then some 1
  else if 0xC0 ≤ octet ∧ octet < 0xE0 then some 2
  else if 0xE0 ≤ octet ∧ octet < 0xF0 then some 3
  else if 0xF0 ≤ octet ∧ octet < 0xF8 then some 4
  else none

/-- The bytes still missing in a sequence, of which so many were missing, behind one more
byte. -/
def missingBehind? (missing octet : Nat) : Option Nat :=
  if missing = 0 then (sequenceLength? octet).map (· - 1)
  else if 0x80 ≤ octet ∧ octet < 0xC0 then some (missing - 1)
  else none

/-- Scans the bytes of a tag; `missing` is how many escaped ones must follow at once. -/
def scanUri? (verbatim : Bool) : Nat → Tag → List Glyph → Option (Tag × List Glyph)
  | missing, found, [] => if missing = 0 then some (found.reverse, []) else none
  | missing, found, glyph :: rest =>
      if glyph.char = '%' then
        match rest with
        | high :: low :: after =>
            match Json.hexDigit? high.char, Json.hexDigit? low.char with
            | some h, some l =>
                match missingBehind? missing (h * 16 + l) with
                | some missing =>
                    scanUri? verbatim missing (UInt8.ofNat (h * 16 + l) :: found) after
                | none => none
            | _, _ => none
        | _ => none
      else if missing ≠ 0 then none
      else if isUriChar verbatim glyph.char then
        scanUri? verbatim 0 (UInt8.ofNat glyph.char.toNat :: found) rest
      else some (found.reverse, glyph :: rest)

/-- Scans the bytes of a tag, of which there must be any. -/
def scanSomeUri? (verbatim : Bool) (text : List Glyph) : Option (Tag × List Glyph) :=
  match scanUri? verbatim 0 [] text with
  | some (uri, rest) => if uri.isEmpty then none else some (uri, rest)
  | none => none

/-- Scans a handle from behind its exclamation mark: a name that ends in another one.  Without
that the name is part of a tag. -/
def scanHandle (text : List Glyph) : List Char × Bool × List Glyph :=
  let (name, rest) := scanWord text
  if atClass (· == '!') rest then ('!' :: name ++ ['!'], true, rest.tail)
  else ('!' :: name, false, rest)

/-- The bytes of a name. -/
def asciiBytes (text : List Char) : Tag :=
  text.map fun c => UInt8.ofNat c.toNat

/-- The handle and the suffix of a tag, from behind its exclamation mark.  A tag in angle
brackets has no handle; neither has the exclamation mark alone. -/
def scanTagParts? (text : List Glyph) : Option (List Char × Tag × List Glyph) :=
  if atClass (· == '<') text then do
    let (uri, rest) ← scanSomeUri? true text.tail
    if atClass (· == '>') rest then some ([], uri, rest.tail) else none
  else
    match scanHandle text with
    | (handle, true, rest) => do
        let (suffix, rest) ← scanSomeUri? false rest
        return (handle, suffix, rest)
    | (handle, false, rest) => do
        let (more, rest) ← scanUri? false 0 [] rest
        let suffix := asciiBytes handle.tail ++ more
        return if suffix.isEmpty then ([], asciiBytes ['!'], rest) else (['!'], suffix, rest)

/-- Scans a tag from behind its exclamation mark, with white space or, in flow collections, a
comma behind it. -/
def scanTag? (inFlow : Bool) (text : List Glyph) : Option (Token × List Glyph) := do
  let (handle, suffix, rest) ← scanTagParts? text
  if atWhite rest || (inFlow && atClass (· == ',') rest) then
    some (.tag handle suffix, rest)
  else none

/-! ### Directives -/

/-- The blanks dropped at the start of a text. -/
def skipBlanks (text : List Glyph) : List Glyph :=
  text.dropWhile (isBlank ·.char)

/-- The digits of a version number at most. -/
def maxVersionDigits : Nat := 9

/-- Scans a part of a version number. -/
def scanVersionPart? (text : List Glyph) : Option (Nat × List Glyph) :=
  let digits := chars (text.takeWhile (·.char.isDigit))
  if digits.isEmpty || decide (maxVersionDigits < digits.length) then none
  else some (Nat.ofDigitChars 10 digits 0, text.dropWhile (·.char.isDigit))

/-- Scans the number of a version directive. -/
def scanVersion? (text : List Glyph) : Option (Token × List Glyph) := do
  let (major, rest) ← scanVersionPart? (skipBlanks text)
  if atClass (· == '.') rest then
    let (minor, rest) ← scanVersionPart? rest.tail
    return (.versionDirective major minor, rest)
  else none

/-- Scans the handle of a tag directive and what it stands for. -/
def scanTagDirective? (text : List Glyph) : Option (Token × List Glyph) := do
  let text := skipBlanks text
  if atClass (· == '!') text then
    let (handle, isClosed, rest) := scanHandle text.tail
    if (isClosed || handle.length = 1) && atClass isBlank rest then
      let (start, rest) ← scanSomeUri? true (skipBlanks rest)
      if atWhite rest then return (.tagDirective handle start, rest) else none
    else none
  else none

/-- Scans a directive from behind its percent sign, with the rest of its line. -/
def scanDirective? (text : List Glyph) : Option (Token × List Glyph) := do
  let (name, rest) := scanWord text
  let (token, rest) ←
    if !atWhite rest then none
    else if name = "YAML".toList then scanVersion? rest
    else if name = "TAG".toList then scanTagDirective? rest
    else none
  return (token, ← skipLineEnd? rest)

end RealmLookup.Yaml
