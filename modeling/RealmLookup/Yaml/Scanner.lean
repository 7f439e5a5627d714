import RealmLookup.Yaml.BlockScalar
import RealmLookup.Yaml.Property
import RealmLookup.Yaml.Scalar

/-!
# Scanning YAML documents

The scanner cuts a document into tokens and makes its indentation explicit.  That a token
begins a key is known only when the colon behind it is reached, so the scanner remembers for
each open flow collection where such a key may have begun, and inserts the token for the key
there.  A key without mark lies in one line and has at most 1024 characters.

## Main definitions

* `Yaml.SimpleKey`, `Yaml.Scanner` : the state of the scanner.
* `Yaml.Scanner.scanToken?` : one token, with those that it implies.
* `Yaml.scan?` : the tokens of a document.
-/

namespace RealmLookup.Yaml

/-- Where a key without mark may have begun: the number of tokens in front of it, its place,
and whether it must be one. -/
structure SimpleKey where
  position : Nat
  line : Nat
  column : Nat
  required : Bool
deriving DecidableEq

/-- The characters of a key without mark at most. -/
def maxKeyLength : Nat := 1024

/-- Whether a key that began at a place cannot end at a later one. -/
def SimpleKey.isStale (key : SimpleKey) (glyph : Glyph) : Bool :=
  decide (key.line < glyph.line) || decide (key.column + maxKeyLength < glyph.column)

/-- The state of the scanner. -/
structure Scanner where
  /-- The text that is left. -/
  text : List Glyph
  /-- The tokens so far, latest first. -/
  tokens : List Token
  /-- The columns of the open blocks, innermost first. -/
  indents : List Nat
  /-- The key that may have begun in the innermost collection. -/
  key : Option SimpleKey
  /-- The keys that may have begun around the open flow collections, innermost first. -/
  outerKeys : List (Option SimpleKey)
  /-- Whether a key may begin at the next token. -/
  keyAllowed : Bool

namespace Scanner

variable (scanner : Scanner)

/-- The state before a text. -/
def start (text : List Glyph) : Scanner := ⟨text, [], [], none, [], true⟩

/-- Whether scanning is inside a flow collection. -/
def inFlow : Bool := !scanner.outerKeys.isEmpty

/-- The column from which on a block lies inside the innermost open one. -/
def floor : Nat :=
  match scanner.indents with
  | [] => 0
  | column :: _ => column + 1

/-! ### Tokens -/

/-- Adds a token. -/
def emit (token : Token) : Scanner :=
  { scanner with tokens := token :: scanner.tokens }

/-- Inserts a token behind the first `position` ones. -/
def insertAt (position : Nat) (token : Token) : Scanner :=
  { scanner with
    tokens := scanner.tokens.insertIdx (scanner.tokens.length - position) token }

/-- The state behind a token of so many characters. -/
def take (length : Nat) (token : Token) : Scanner :=
  { scanner with text := scanner.text.drop length, tokens := token :: scanner.tokens }

/-! ### White space -/

/-- Skips white space and comments.  A line break outside of flow collections allows a key
again; where a key is allowed, tabs are not skipped. -/
def skipWhite (inFlow : Bool) : Bool → Bool → List Glyph → Bool × List Glyph
  | _, keyAllowed, [] => (keyAllowed, [])
  | inComment, keyAllowed, glyph :: rest =>
      if isBreak glyph.char then skipWhite inFlow false (keyAllowed || !inFlow) rest
      else if inComment then skipWhite inFlow true keyAllowed rest
      else if glyph.char = ' ' || (glyph.char = byteOrderMark && glyph.column = 0) then
        skipWhite inFlow false keyAllowed rest
      else if glyph.char = '\t' && (inFlow || !keyAllowed) then
        skipWhite inFlow false keyAllowed rest
      else if glyph.char = '#' then skipWhite inFlow true keyAllowed rest
      else (keyAllowed, glyph :: rest)

/-- Skips to the next token. -/
def skip : Scanner :=
  let (keyAllowed, text) := skipWhite scanner.inFlow false scanner.keyAllowed scanner.text
  { scanner with keyAllowed, text }

/-! ### Keys -/

/-- Gives up a key that began too far away; none if it must be one. -/
def dropStale? (glyph : Glyph) : Option SimpleKey → Option (Option SimpleKey)
  | none => some none
  | some key =>
      if key.isStale glyph then if key.required then none else some none else some (some key)

/-- Gives up the keys that began too far away from the next token. -/
def dropStaleKeys? (glyph : Glyph) : Option Scanner := do
  let key ← dropStale? glyph scanner.key
  let outerKeys ← scanner.outerKeys.mapM (dropStale? glyph)
  return { scanner with key, outerKeys }

/-- Gives up the key in the innermost collection; none if it must be one. -/
def dropKey? : Option Scanner :=
  match scanner.key with
  | some key => if key.required then none else some { scanner with key := none }
  | none => some scanner

/-- Remembers that a key may begin here, if it is allowed.  It must be one if it is as
indented as the innermost open block. -/
def saveKey? (glyph : Glyph) : Option Scanner :=
  if scanner.keyAllowed then
    scanner.dropKey?.map fun dropped =>
      { dropped with
        key := some {
          position := scanner.tokens.length
          line := glyph.line
          column := glyph.column
          required := !scanner.inFlow && scanner.indents.head? == some glyph.column } }
  else some scanner

/-! ### Blocks -/

/-- Opens a block at a column, behind the first `position` tokens, unless there is one. -/
def openBlock (column position : Nat) (token : Token) : Scanner :=
  if scanner.inFlow || decide (column < scanner.floor) then scanner
  else { scanner.insertAt position token with indents := column :: scanner.indents }

/-- Closes the blocks that are indented more than a column. -/
def closeBlocks (inside : Nat → Bool) : Scanner :=
  if scanner.inFlow then scanner
  else
    { scanner with
      tokens := (scanner.indents.takeWhile inside).map (fun _ => .blockEnd) ++ scanner.tokens
      indents := scanner.indents.dropWhile inside }

/-- Closes all blocks and gives up the key, since nothing crosses the border of a document. -/
def closeDocument? : Option Scanner := do
  let closed ← (scanner.closeBlocks fun _ => true).dropKey?
  return { closed with keyAllowed := false }

/-! ### Indicators -/

/-- The start or the end mark of a document. -/
def takeMarker? (token : Token) : Option Scanner :=
  scanner.closeDocument?.map fun closed => closed.take 3 token

/-- A directive. -/
def takeDirective? : Option Scanner := do
  let closed ← scanner.closeDocument?
  let (token, text) ← scanDirective? scanner.text.tail
  return { closed.emit token with text }

/-- The start of a flow collection. -/
def takeFlowStart? (glyph : Glyph) (token : Token) : Option Scanner :=
  (scanner.saveKey? glyph).map fun saved =>
    { saved.take 1 token with
      key := none, outerKeys := saved.key :: saved.outerKeys, keyAllowed := true }

/-- The end of a flow collection. -/
def takeFlowEnd? (token : Token) : Option Scanner :=
  scanner.dropKey?.map fun dropped =>
    let taken := { dropped.take 1 token with keyAllowed := false }
    match taken.outerKeys with
    | [] => taken
    | key :: outerKeys => { taken with key, outerKeys }

/-- The separator of flow collections. -/
def takeFlowEntry? : Option Scanner :=
  scanner.dropKey?.map fun dropped => { dropped.take 1 .flowEntry with keyAllowed := true }

/-- The mark of an item. -/
def takeBlockEntry? (glyph : Glyph) : Option Scanner :=
  if scanner.inFlow || scanner.keyAllowed then
    (scanner.openBlock glyph.column scanner.tokens.length .blockSequenceStart).dropKey?.map
      fun dropped => { dropped.take 1 .blockEntry with keyAllowed := true }
  else none

/-- The mark of a key. -/
def takeKey? (glyph : Glyph) : Option Scanner :=
  if scanner.inFlow || scanner.keyAllowed then
    (scanner.openBlock glyph.column scanner.tokens.length .blockMappingStart).dropKey?.map
      fun dropped => { dropped.take 1 .key with keyAllowed := !scanner.inFlow }
  else none

/-- The mark of a value, behind a key with or without mark. -/
def takeValue? (glyph : Glyph) : Option Scanner :=
  match scanner.key with
  | some key =>
      let keyed := (scanner.insertAt key.position .key).openBlock key.column key.position
        .blockMappingStart
      some { keyed.take 1 .value with key := none, keyAllowed := false }
  | none =>
      if scanner.inFlow || scanner.keyAllowed then
        let opened := scanner.openBlock glyph.column scanner.tokens.length .blockMappingStart
        some { opened.take 1 .value with keyAllowed := !scanner.inFlow }
      else none

/-! ### Nodes -/

/-- An anchor, or a reference to one. -/
def takeName? (glyph : Glyph) (token : List Char → Token) : Option Scanner := do
  let saved ← scanner.saveKey? glyph
  let (name, text) ← scanName? scanner.text.tail
  return { saved.emit (token name) with text, keyAllowed := false }

/-- A tag. -/
def takeTag? (glyph : Glyph) : Option Scanner := do
  let saved ← scanner.saveKey? glyph
  let (token, text) ← scanTag? scanner.inFlow scanner.text.tail
  return { saved.emit token with text, keyAllowed := false }

/-- A block scalar. -/
def takeBlockScalar? (folded : Bool) : Option Scanner := do
  let dropped ← scanner.dropKey?
  let (found, text) ← scanBlockScalar? folded scanner.floor scanner.text.tail
  return { dropped.emit (.scalar .quoted found) with text, keyAllowed := true }

/-- A quoted scalar. -/
def takeQuoted? (glyph : Glyph) (scanned : Option (List Char × List Glyph)) :
    Option Scanner := do
  let saved ← scanner.saveKey? glyph
  let (found, text) ← scanned
  return { saved.emit (.scalar .quoted found) with text, keyAllowed := false }

/-- A plain scalar. -/
def takePlain? (glyph : Glyph) : Option Scanner := do
  let saved ← scanner.saveKey? glyph
  let plain ← scanPlain scanner.inFlow scanner.floor .nothing [] scanner.text
  return { saved.emit (.scalar .plain plain.text) with
    text := plain.rest, keyAllowed := plain.endsLine }

/-! ### Documents -/

/-- The characters that cannot start a plain scalar. -/
def indicators : List Char :=
  ['-', '?', ':', ',', '[', ']', '{', '}', '#', '&', '*', '!', '|', '>', singleQuote, '"', '%',
    '@', Char.ofNat 0x60]

/-- Whether a plain scalar starts here: not with an indicator, except with one of those that
mark items, keys and values, if white space is not behind it. -/
def startsPlain (inFlow : Bool) (c : Char) (rest : List Glyph) : Bool :=
  !(isWhite c || indicators.contains c) || (c == '-' && !atClass isBlank rest) ||
    (!inFlow && (c == '?' || c == ':') && !atWhite rest)

/-- Scans one token, with those that it implies; the text is `glyph :: rest`. -/
def scanToken? (glyph : Glyph) (rest : List Glyph) : Option Scanner :=
  let c := glyph.char
  let inFlow := scanner.inFlow
  let text := scanner.text
  if glyph.column = 0 && c = '%' then scanner.takeDirective?
  else if isMarkerOf '-' text then scanner.takeMarker? .documentStart
  else if isMarkerOf '.' text then scanner.takeMarker? .documentEnd
  else if c = '[' then scanner.takeFlowStart? glyph .flowSequenceStart
  else if c = '{' then scanner.takeFlowStart? glyph .flowMappingStart
  else if c = ']' then scanner.takeFlowEnd? .flowSequenceEnd
  else if c = '}' then scanner.takeFlowEnd? .flowMappingEnd
  else if c = ',' then scanner.takeFlowEntry?
  else if c = '-' && atWhite rest then scanner.takeBlockEntry? glyph
  else if c = '?' && (inFlow || atWhite rest) then scanner.takeKey? glyph
  else if c = ':' && (inFlow || atWhite rest) then scanner.takeValue? glyph
  else if c = '*' then scanner.takeName? glyph .reference
  else if c = '&' then scanner.takeName? glyph .anchor
  else if c = '!' then scanner.takeTag? glyph
  else if c = '|' && !inFlow then scanner.takeBlockScalar? false
  else if c = '>' && !inFlow then scanner.takeBlockScalar? true
  else if c = singleQuote then scanner.takeQuoted? glyph (scanSingleQuoted .nothing [] rest)
  else if c = '"' then scanner.takeQuoted? glyph (scanDoubleQuoted (.text .nothing) [] rest)
  else if startsPlain inFlow c rest then scanner.takePlain? glyph
  else none

/-- Scans the rest of a document; the fuel is the number of tokens at most. -/
def run? : Nat → Scanner → Option (List Token)
  | 0, _ => none
  | fuel + 1, scanner =>
      let next := scanner.skip
      match next.text with
      | [] => next.closeDocument?.map fun closed => closed.tokens.reverse
      | glyph :: rest => do
          let fresh ← next.dropStaleKeys? glyph
          let closed := fresh.closeBlocks fun column => decide (glyph.column < column)
          run? fuel (← closed.scanToken? glyph rest)

end Scanner

/-- The tokens of a document.  Each token has a character of its own, so there are no more
tokens to scan than characters. -/
def scan? (text : List Char) : Option (List Token) := do
  let glyphs ← glyphs? text
  Scanner.run? (glyphs.length + 1) (.start glyphs)

end RealmLookup.Yaml
