/-!
# Tokens of YAML documents

## Main definitions

* `Yaml.Tag` : the type of a node, as bytes.
* `Yaml.Style` : how a scalar is written.
* `Yaml.Token` : the tokens; the structure of blocks, given by indentation, is made explicit.
-/

namespace RealmLookup.Yaml

/-- The type of a node; percent escapes may give it any bytes. -/
abbrev Tag : Type := List UInt8

/-- How a scalar is written: plainly, or in one of the ways that make it a text. -/
inductive Style
  | plain
  | quoted
deriving DecidableEq

/-- A token of a document. -/
inductive Token
  | versionDirective (major minor : Nat)
  | tagDirective (handle : List Char) (start : Tag)
  | documentStart
  | documentEnd
  | blockSequenceStart
  | blockMappingStart
  | blockEnd
  | flowSequenceStart
  | flowSequenceEnd
  | flowMappingStart
  | flowMappingEnd
  | blockEntry
  | flowEntry
  | key
  | value
  | reference (name : List Char)
  | anchor (name : List Char)
  | tag (handle : List Char) (suffix : Tag)
  | scalar (style : Style) (text : List Char)
deriving DecidableEq

end RealmLookup.Yaml
