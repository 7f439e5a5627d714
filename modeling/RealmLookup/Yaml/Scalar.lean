import RealmLookup.Json.Token
import RealmLookup.Yaml.Glyph

/-!
# Scalars in one line or more

Plain and quoted scalars may run over several lines.  White space between two parts of a
scalar is collected in a gap, which is folded when the next part begins: a single line break
becomes a space, and of several ones the first is dropped.

## Main definitions

* `Yaml.Gap` : white space inside a scalar, and what it stands for.
* `Yaml.scanPlain` : a plain scalar.
* `Yaml.scanSingleQuoted`, `Yaml.scanDoubleQuoted` : quoted scalars.
-/

namespace RealmLookup.Yaml

/-! ### Gaps -/

/-- White space inside a scalar: blanks; line breaks, with all blanks around them dropped; or
line breaks behind an escaped one, which does not count itself. -/
inductive Gap
  | blanks (text : List Char)
  | breaks (first : Char) (more : List Char)
  | escaped (more : List Char)
deriving DecidableEq

namespace Gap

/-- No white space. -/
def nothing : Gap := .blanks []

/-- Whether there is no white space. -/
def isNothing (gap : Gap) : Bool := gap == .nothing

/-- Whether there is a line break. -/
def hasBreak : Gap → Bool
  | .blanks _ => false
  | _ => true

/-- A gap with one more character of white space. -/
def add (gap : Gap) (c : Char) : Gap :=
  match gap, isBreak c with
  | .blanks text, false => .blanks (text ++ [c])
  | .blanks _, true => .breaks c []
  | .breaks first more, true => .breaks first (more ++ [c])
  | .escaped more, true => .escaped (more ++ [c])
  | gap, false => gap

/-- The text that a gap stands for. -/
def text : Gap → List Char
  | .blanks text => text
  | .breaks first more =>
      if first = '\n' then if more.isEmpty then [' '] else more else first :: more
  | .escaped more => more

end Gap

/-! ### Plain scalars -/

/-- A plain scalar with the text behind it. -/
structure Plain where
  text : List Char
  /-- Whether there is a line break behind the scalar. -/
  endsLine : Bool
  rest : List Glyph

/-- Whether the part of a plain scalar behind a gap belongs to it no more: it is less indented
than `floor`, or it is a comment or a mark. -/
def endsBehindGap (inFlow : Bool) (floor : Nat) (glyph : Glyph) (text : List Glyph) : Bool :=
  (!inFlow && decide (glyph.column < floor)) || glyph.char == '#' || atMarker text

/-- Scans a plain scalar; `found` is what was found, latest first.  In a flow collection a colon
in front of an indicator is refused, since it is neither part of the scalar nor a separator. -/
def scanPlain (inFlow : Bool) (floor : Nat) : Gap → List Char → List Glyph → Option Plain
  | gap, found, [] => some ⟨found.reverse, gap.hasBreak, []⟩
  | gap, found, glyph :: rest =>
      if isWhite glyph.char then
        if gap.hasBreak && glyph.char == '\t' && decide (glyph.column < floor) then none
        else scanPlain inFlow floor (gap.add glyph.char) found rest
      else if !gap.isNothing && endsBehindGap inFlow floor glyph (glyph :: rest) then
        some ⟨found.reverse, gap.hasBreak, glyph :: rest⟩
      else if inFlow && glyph.char == ':' &&
          atClass (fun c => isFlowIndicator c || c == '?') rest then none
      else if (glyph.char == ':' && atWhite rest) || (inFlow && isFlowIndicator glyph.char) then
        some ⟨found.reverse, gap.hasBreak, glyph :: rest⟩
      else
        scanPlain inFlow floor .nothing (glyph.char :: (gap.text.reverse ++ found)) rest

/-! ### Quoted scalars -/

/-- The single quote. -/
def singleQuote : Char := Char.ofNat 0x27

/-- Scans a scalar in single quotes from behind the opening one; a doubled quote stands for
itself. -/
def scanSingleQuoted : Gap → List Char → List Glyph → Option (List Char × List Glyph)
  | _, _, [] => none
  | gap, found, glyph :: rest =>
      if isWhite glyph.char then scanSingleQuoted (gap.add glyph.char) found rest
      else if !gap.isNothing && atMarker (glyph :: rest) then none
      else if glyph.char = singleQuote then
        match rest with
        | next :: after =>
            if next.char = singleQuote then
              scanSingleQuoted .nothing (singleQuote :: (gap.text.reverse ++ found)) after
            else some ((gap.text.reverse ++ found).reverse, rest)
        | [] => some ((gap.text.reverse ++ found).reverse, [])
      else scanSingleQuoted .nothing (glyph.char :: (gap.text.reverse ++ found)) rest

/-- What a character behind a backslash means: a character, or the number of hexadecimal
digits that follow. -/
inductive Escape
  | char (c : Char)
  | digits (count : Nat)

/-- The meaning of a character behind a backslash. -/
def escape? (c : Char) : Option Escape :=
  match c with
  | '0' => some (.char (Char.ofNat 0))
  | 'a' => some (.char (Char.ofNat 7))
  | 'b' => some (.char (Char.ofNat 8))
  | 't' => some (.char '\t')
  | '\t' => some (.char '\t')
  | 'n' => some (.char '\n')
  | 'v' => some (.char (Char.ofNat 11))
  | 'f' => some (.char (Char.ofNat 12))
  | 'r' => some (.char '\r')
  | 'e' => some (.char (Char.ofNat 27))
  | ' ' => some (.char ' ')
  | '"' => some (.char '"')
  | '/' => some (.char '/')
  | '\\' => some (.char '\\')
  | 'N' => some (.char nextLine)
  | '_' => some (.char (Char.ofNat 0xA0))
  | 'L' => some (.char lineSeparator)
  | 'P' => some (.char paragraphSeparator)
  | 'x' => some (.digits 2)
  | 'u' => some (.digits 4)
  | 'U' => some (.digits 8)
  | _ => none

/-- The character of a code point, unless it is a surrogate or too large. -/
def charOfCode? (code : Nat) : Option Char :=
  if code.isValidChar then some (Char.ofNat code) else none

/-- Where scanning a scalar in double quotes is: behind a gap, behind a backslash, or among
hexadecimal digits. -/
inductive Place
  | text (gap : Gap)
  | escape
  | digits (missing : Nat) (code : Nat)

/-- Scans a scalar in double quotes from behind the opening one. -/
def scanDoubleQuoted : Place → List Char → List Glyph → Option (List Char × List Glyph)
  | _, _, [] => none
  | .digits missing code, found, glyph :: rest =>
      match Json.hexDigit? glyph.char with
      | none => none
      | some digit =>
          if 1 < missing then
            scanDoubleQuoted (.digits (missing - 1) (code * 16 + digit)) found rest
          else
            match charOfCode? (code * 16 + digit) with
            | some c => scanDoubleQuoted (.text .nothing) (c :: found) rest
            | none => none
  | .escape, found, glyph :: rest =>
      if isBreak glyph.char then scanDoubleQuoted (.text (.escaped [])) found rest
      else
        match escape? glyph.char with
        | some (.char c) => scanDoubleQuoted (.text .nothing) (c :: found) rest
        | some (.digits count) => scanDoubleQuoted (.digits count 0) found rest
        | none => none
  | .text gap, found, glyph :: rest =>
      if isWhite glyph.char then scanDoubleQuoted (.text (gap.add glyph.char)) found rest
      else if !gap.isNothing && atMarker (glyph :: rest) then none
      else if glyph.char = '"' then some ((gap.text.reverse ++ found).reverse, rest)
      else if glyph.char = '\\' then scanDoubleQuoted .escape (gap.text.reverse ++ found) rest
      else scanDoubleQuoted (.text .nothing) (glyph.char :: (gap.text.reverse ++ found)) rest

end RealmLookup.Yaml
