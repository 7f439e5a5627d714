import RealmLookup.Yaml.Glyph

/-!
# Block scalars

A block scalar is a header, which says how line breaks are treated, and indented lines.

## Main definitions

* `Yaml.Chomping`, `Yaml.BlockHeader` : the header.
* `Yaml.skipIndentation?` : empty lines and indentation in front of the first line.
* `Yaml.BlockLines`, `Yaml.scanLines?` : the lines.
* `Yaml.scanBlockScalar?` : the whole scalar.
-/

namespace RealmLookup.Yaml

/-! ### Headers -/

/-- What becomes of the line breaks at the end: none of them stays, one, or all. -/
inductive Chomping
  | strip
  | clip
  | keep
deriving DecidableEq

/-- The header of a block scalar; the indentation counts from that of the parent. -/
structure BlockHeader where
  chomping : Chomping
  indentation : Option Nat
deriving DecidableEq

/-- The chomping of an indicator. -/
def chomping? (c : Char) : Option Chomping :=
  if c = '+' then some .keep else if c = '-' then some .strip else none

/-- The indentation of an indicator, a digit. -/
def indentation? (c : Char) : Option Nat :=
  if '0' ≤ c ∧ c ≤ '9' then some (c.toNat - '0'.toNat) else none

/-- Scans the indicators of a header, one of each sort in any order. -/
def scanIndicators (text : List Glyph) : BlockHeader × List Glyph :=
  match text with
  | [] => (⟨.clip, none⟩, [])
  | first :: rest =>
      match chomping? first.char, indentation? first.char with
      | some chomping, _ =>
          match rest with
          | [] => (⟨chomping, none⟩, [])
          | second :: after =>
              match indentation? second.char with
              | some indentation => (⟨chomping, some indentation⟩, after)
              | none => (⟨chomping, none⟩, rest)
      | none, some indentation =>
          match rest with
          | [] => (⟨.clip, some indentation⟩, [])
          | second :: after =>
              match chomping? second.char with
              | some chomping => (⟨chomping, some indentation⟩, after)
              | none => (⟨.clip, some indentation⟩, rest)
      | none, none => (⟨.clip, none⟩, text)

/-- Scans a header with the line break behind it; an indentation of zero is refused. -/
def scanHeader? (text : List Glyph) : Option (BlockHeader × List Glyph) :=
  let (header, rest) := scanIndicators text
  if header.indentation = some 0 then none
  else (skipLineEnd? rest).map fun rest => (header, rest)

/-! ### Indentation -/

/-- Skips empty lines and indentation, up to `limit` columns if there is a limit.  The result
holds the line breaks and the widest indentation; tabs are refused as indentation. -/
def skipIndentation? (limit : Option Nat) :
    List Char → Nat → List Glyph → Option (List Char × Nat × List Glyph)
  | breaks, widest, [] => some (breaks.reverse, widest, [])
  | breaks, widest, glyph :: rest =>
      let inside := limit.all fun limit => decide (glyph.column < limit)
      if inside && glyph.char == ' ' then
        skipIndentation? limit breaks (max widest (glyph.column + 1)) rest
      else if inside && glyph.char == '\t' then none
      else if isBreak glyph.char then
        skipIndentation? limit (glyph.char :: breaks) (max widest glyph.column) rest
      else some (breaks.reverse, max widest glyph.column, glyph :: rest)

/-! ### Lines -/

/-- The lines so far. -/
structure BlockLines where
  /-- The text, latest first. -/
  found : List Char
  /-- The break of the last line, if it has ended. -/
  lineBreak : List Char
  /-- The breaks of the empty lines behind it, latest first. -/
  emptyLines : List Char
  /-- Whether the last line starts with a blank. -/
  startsBlank : Bool
  /-- Whether scanning is inside a line. -/
  inLine : Bool

/-- No lines, behind empty ones. -/
def BlockLines.start (breaks : List Char) : BlockLines :=
  ⟨[], [], breaks.reverse, false, false⟩

/-- The lines so far, with what the breaks in front of a new line stand for.  In a folded
scalar the break between two lines becomes a space, or is dropped in front of empty lines,
unless one of the lines starts with a blank. -/
def BlockLines.startLine (folded : Bool) (lines : BlockLines) (first : Char) : BlockLines :=
  let joint :=
    if folded && lines.lineBreak == ['\n'] && !lines.startsBlank && !isBlank first then
      if lines.emptyLines.isEmpty then [' '] else []
    else lines.lineBreak
  { found := first :: (lines.emptyLines ++ (joint ++ lines.found))
    lineBreak := []
    emptyLines := []
    startsBlank := isBlank first
    inLine := true }

/-- Scans lines that are indented to a column. -/
def scanLines? (folded : Bool) (column : Nat) :
    BlockLines → List Glyph → Option (BlockLines × List Glyph)
  | lines, [] => some (lines, [])
  | lines, glyph :: rest =>
      if lines.inLine then
        if isBreak glyph.char then
          scanLines? folded column { lines with lineBreak := [glyph.char], inLine := false } rest
        else scanLines? folded column { lines with found := glyph.char :: lines.found } rest
      else if isBreak glyph.char then
        scanLines? folded column { lines with emptyLines := glyph.char :: lines.emptyLines } rest
      else if glyph.column < column then
        if glyph.char = ' ' then scanLines? folded column lines rest
        else if glyph.char = '\t' then none
        else some (lines, glyph :: rest)
      else scanLines? folded column (lines.startLine folded glyph.char) rest

/-- The text of all lines. -/
def BlockLines.text (lines : BlockLines) (chomping : Chomping) : List Char :=
  let found := lines.found.reverse
  match chomping with
  | .strip => found
  | .clip => found ++ lines.lineBreak
  | .keep => found ++ lines.lineBreak ++ lines.emptyLines.reverse

/-- Scans a block scalar from behind its indicator.  Content is indented to `floor` at least;
without a given indentation it is indented as widely as the first line, or the widest of the
empty lines in front of it. -/
def scanBlockScalar? (folded : Bool) (floor : Nat) (text : List Glyph) :
    Option (List Char × List Glyph) := do
  let (header, rest) ← scanHeader? text
  let limit := header.indentation.map fun indentation => (floor - 1) + indentation
  let (breaks, widest, rest) ← skipIndentation? limit [] 0 rest
  let column := limit.getD (max widest (max floor 1))
  let (lines, rest) ← scanLines? folded column (.start breaks) rest
  return (lines.text header.chomping, rest)

end RealmLookup.Yaml
