import RealmLookup.Text.Utf8
import RealmLookup.Yaml.Node
import RealmLookup.Yaml.Scanner

/-!
# Parsing YAML documents

The grammar over the tokens of the scanner, by recursive descent.  Nodes may be left out in
many places, in which case they are empty plain scalars.

## Main definitions

* `Yaml.Handles`, `Yaml.parseProperties?` : tags and anchors of nodes.
* `Yaml.parseNode?` : a node with the tokens behind it.
* `Yaml.parseDocument?` : the node of a text that holds one document or none.
-/

namespace RealmLookup.Yaml

/-! ### Properties -/

/-- What the handles of tags stand for. -/
abbrev Handles : Type := List (List Char × Tag)

/-- The handles that need no directive. -/
def defaultHandles : Handles :=
  [(['!'], asciiBytes ['!']), (['!', '!'], asciiBytes "tag:yaml.org,2002:".toList)]

/-- The tag that a handle and a suffix stand for. -/
def resolveTag? (handles : Handles) (handle : List Char) (suffix : Tag) : Option Tag :=
  if handle.isEmpty then some suffix
  else (handles.lookup handle).map fun start => start ++ suffix

/-- What may stand in front of a node. -/
structure Properties where
  anchor : Option String
  tag : Option Tag

/-- Reads the anchor and the tag in front of a node, in any order. -/
def parseProperties? (handles : Handles) : List Token → Option (Properties × List Token)
  | .anchor name :: .tag handle suffix :: rest =>
      (resolveTag? handles handle suffix).map fun tag =>
        (⟨some (String.ofList name), some tag⟩, rest)
  | .tag handle suffix :: .anchor name :: rest =>
      (resolveTag? handles handle suffix).map fun tag =>
        (⟨some (String.ofList name), some tag⟩, rest)
  | .anchor name :: rest => some (⟨some (String.ofList name), none⟩, rest)
  | .tag handle suffix :: rest =>
      (resolveTag? handles handle suffix).map fun tag => (⟨none, some tag⟩, rest)
  | tokens => some (⟨none, none⟩, tokens)

/-- The tag that says only that there is none. -/
def plainTag : Tag := asciiBytes ['!']

/-! ### Nodes -/

/-- Where a node stands: inside a flow collection; in a block; or as a key or value of a block
mapping, where the items of a sequence need not be indented. -/
inductive Context
  | flow
  | block
  | member
deriving DecidableEq

/-- Whether a token leaves out the item of a block sequence in front of it. -/
def Token.endsItem : Token → Bool
  | .blockEntry => true
  | .blockEnd => true
  | _ => false

/-- Whether a token leaves out the item of a sequence that is not indented. -/
def Token.endsIndentlessItem : Token → Bool
  | .blockEntry => true
  | .key => true
  | .value => true
  | .blockEnd => true
  | _ => false

/-- Whether a token leaves out the key or value of a block mapping. -/
def Token.endsMember : Token → Bool
  | .key => true
  | .value => true
  | .blockEnd => true
  | _ => false

/-- Whether a token leaves out the key of a pair in a flow sequence. -/
def Token.endsPairKey : Token → Bool
  | .value => true
  | .flowEntry => true
  | .flowSequenceEnd => true
  | _ => false

/-- Whether a token leaves out the value of a pair in a flow sequence. -/
def Token.endsPairValue : Token → Bool
  | .flowEntry => true
  | .flowSequenceEnd => true
  | _ => false

/-- Whether a token leaves out the key of a flow mapping. -/
def Token.endsFlowKey : Token → Bool
  | .value => true
  | .flowEntry => true
  | .flowMappingEnd => true
  | _ => false

/-- Whether a token leaves out the value of a flow mapping. -/
def Token.endsFlowValue : Token → Bool
  | .flowEntry => true
  | .flowMappingEnd => true
  | _ => false

/-- Whether the next token is of a class. -/
def atToken (class? : Token → Bool) : List Token → Bool
  | [] => false
  | token :: _ => class? token

/-- The tokens of the next item of a flow collection: behind a separator, unless it is the first
one. -/
def itemTokens? (isFirst : Bool) (tokens : List Token) : Option (List Token) :=
  if isFirst then some tokens
  else
    match tokens with
    | .flowEntry :: rest => some rest
    | _ => none

/-- A node that is written only if it has properties. -/
def missing? (properties : Properties) (tokens : List Token) : Option (Node String × List Token) :=
  if properties.anchor.isSome || properties.tag.isSome then
    some (.scalar properties.anchor properties.tag .plain [], tokens)
  else none

/-- A scalar; the tag that says there is none does not count. -/
def scalarNode (properties : Properties) (style : Style) (text : List Char) : Node String :=
  .scalar properties.anchor (if properties.tag = some plainTag then none else properties.tag)
    style text

mutual

/-- Reads a node. -/
def parseNode? (handles : Handles) :
    Nat → Context → List Token → Option (Node String × List Token)
  | 0, _, _ => none
  | _ + 1, _, .reference name :: rest => some (.reference (String.ofList name), rest)
  | fuel + 1, context, tokens =>
      match parseProperties? handles tokens with
      | none => none
      | some (properties, tokens) =>
          match tokens with
          | .scalar style text :: rest => some (scalarNode properties style text, rest)
          | .flowSequenceStart :: rest =>
              (parseFlowItems? handles fuel true rest).map fun (items, rest) =>
                (.sequence properties.anchor properties.tag items, rest)
          | .flowMappingStart :: rest =>
              (parseFlowPairs? handles fuel true rest).map fun (pairs, rest) =>
                (.mapping properties.anchor properties.tag pairs, rest)
          | .blockSequenceStart :: rest =>
              if context = .flow then missing? properties tokens
              else
                (parseItems? handles fuel rest).map fun (items, rest) =>
                  (.sequence properties.anchor properties.tag items, rest)
          | .blockMappingStart :: rest =>
              if context = .flow then missing? properties tokens
              else
                (parsePairs? handles fuel rest).map fun (pairs, rest) =>
                  (.mapping properties.anchor properties.tag pairs, rest)
          | .blockEntry :: _ =>
              if context = .member then
                (parseIndentlessItems? handles fuel tokens).map fun (items, rest) =>
                  (.sequence properties.anchor properties.tag items, rest)
              else missing? properties tokens
          | _ => missing? properties tokens

/-- Reads the items of a block sequence and its end. -/
def parseItems? (handles : Handles) :
    Nat → List Token → Option (List (Node String) × List Token)
  | 0, _ => none
  | _ + 1, .blockEnd :: rest => some ([], rest)
  | fuel + 1, .blockEntry :: rest => do
      let (item, rest) ←
        if atToken Token.endsItem rest then some (Node.empty, rest)
        else parseNode? handles fuel .block rest
      let (items, rest) ← parseItems? handles fuel rest
      return (item :: items, rest)
  | _ + 1, _ => none

/-- Reads the items of a sequence that is not indented, up to any other token. -/
def parseIndentlessItems? (handles : Handles) :
    Nat → List Token → Option (List (Node String) × List Token)
  | 0, _ => none
  | fuel + 1, .blockEntry :: rest => do
      let (item, rest) ←
        if atToken Token.endsIndentlessItem rest then some (Node.empty, rest)
        else parseNode? handles fuel .block rest
      let (items, rest) ← parseIndentlessItems? handles fuel rest
      return (item :: items, rest)
  | _ + 1, tokens => some ([], tokens)

/-- Reads the pairs of a block mapping and its end. -/
def parsePairs? (handles : Handles) :
    Nat → List Token → Option (List (Node String × Node String) × List Token)
  | 0, _ => none
  | _ + 1, .blockEnd :: rest => some ([], rest)
  | fuel + 1, .key :: rest => do
      let (key, rest) ←
        if atToken Token.endsMember rest then some (Node.empty, rest)
        else parseNode? handles fuel .member rest
      let (value, rest) ←
        match rest with
        | .value :: rest =>
            if atToken Token.endsMember rest then some (Node.empty, rest)
            else parseNode? handles fuel .member rest
        | _ => some (Node.empty, rest)
      let (pairs, rest) ← parsePairs? handles fuel rest
      return ((key, value) :: pairs, rest)
  | _ + 1, _ => none

/-- Reads the items of a flow sequence and its end.  An item with a key is a mapping of one
pair; where its key is left out, the token behind the mark of the key is passed over. -/
def parseFlowItems? (handles : Handles) :
    Nat → Bool → List Token → Option (List (Node String) × List Token)
  | 0, _, _ => none
  | _ + 1, _, .flowSequenceEnd :: rest => some ([], rest)
  | fuel + 1, isFirst, tokens => do
      let tokens ← itemTokens? isFirst tokens
      match tokens with
      | .flowSequenceEnd :: rest => return ([], rest)
      | .key :: rest =>
          let (key, rest) ←
            if atToken Token.endsPairKey rest then some (Node.empty, rest.tail)
            else parseNode? handles fuel .flow rest
          let (value, rest) ←
            match rest with
            | .value :: rest =>
                if atToken Token.endsPairValue rest then some (Node.empty, rest)
                else parseNode? handles fuel .flow rest
            | _ => some (Node.empty, rest)
          let (items, rest) ← parseFlowItems? handles fuel false rest
          return (.mapping none none [(key, value)] :: items, rest)
      | _ =>
          let (item, rest) ← parseNode? handles fuel .flow tokens
          let (items, rest) ← parseFlowItems? handles fuel false rest
          return (item :: items, rest)

/-- Reads the pairs of a flow mapping and its end.  A node without a key mark is a key without
a value. -/
def parseFlowPairs? (handles : Handles) :
    Nat → Bool → List Token → Option (List (Node String × Node String) × List Token)
  | 0, _, _ => none
  | _ + 1, _, .flowMappingEnd :: rest => some ([], rest)
  | fuel + 1, isFirst, tokens => do
      let tokens ← itemTokens? isFirst tokens
      match tokens with
      | .flowMappingEnd :: rest => return ([], rest)
      | .key :: rest =>
          let (key, rest) ←
            if atToken Token.endsFlowKey rest then some (Node.empty, rest)
            else parseNode? handles fuel .flow rest
          let (value, rest) ←
            match rest with
            | .value :: rest =>
                if atToken Token.endsFlowValue rest then some (Node.empty, rest)
                else parseNode? handles fuel .flow rest
            | _ => some (Node.empty, rest)
          let (pairs, rest) ← parseFlowPairs? handles fuel false rest
          return ((key, value) :: pairs, rest)
      | _ =>
          let (key, rest) ← parseNode? handles fuel .flow tokens
          let (pairs, rest) ← parseFlowPairs? handles fuel false rest
          return ((key, .empty) :: pairs, rest)

end

/-! ### Documents -/

/-- Reads the directives of a document: at most one version, which must be known, and handles,
each at most once. -/
def parseDirectives? : Bool → Handles → List Token → Option (Handles × List Token)
  | hasVersion, handles, .versionDirective major minor :: rest =>
      if hasVersion || major ≠ 1 || (minor ≠ 1 && minor ≠ 2) then none
      else parseDirectives? true handles rest
  | hasVersion, handles, .tagDirective handle start :: rest =>
      if (handles.lookup handle).isSome then none
      else parseDirectives? hasVersion (handles ++ [(handle, start)]) rest
  | _, handles, tokens => some (handles, tokens)

/-- Whether a token belongs to the frame of documents and not to their content. -/
def Token.isFrame : Token → Bool
  | .versionDirective _ _ => true
  | .tagDirective _ _ => true
  | .documentStart => true
  | .documentEnd => true
  | _ => false

/-- Whether a token starts a document with a mark, or its directives. -/
def Token.startsDocument : Token → Bool
  | .versionDirective _ _ => true
  | .tagDirective _ _ => true
  | .documentStart => true
  | _ => false

/-- The fuel for reading a node: opening a collection, and going on to its next part, take two
steps for each token at most. -/
def nodeFuel (tokens : List Token) : Nat := 2 * tokens.length + 2

/-- Reads the content of a document behind its start mark. -/
def parseContent? (handles : Handles) (tokens : List Token) : Option (Node String × List Token) :=
  if tokens.isEmpty || atToken Token.isFrame tokens then some (Node.empty, tokens)
  else parseNode? handles (nodeFuel tokens) .block tokens

/-- Reads a document. -/
def parseRoot? (tokens : List Token) : Option (Node String × List Token) :=
  if atToken Token.startsDocument tokens then
    match parseDirectives? false [] tokens with
    | some (handles, .documentStart :: rest) => parseContent? (handles ++ defaultHandles) rest
    | _ => none
  else parseNode? defaultHandles (nodeFuel tokens) .block tokens

/-- The node of the tokens of at most one document; a text without tokens holds none. -/
def parseDocument? (tokens : List Token) : Option (Option (Node String)) :=
  if tokens.isEmpty then some none
  else
    match parseRoot? tokens with
    | some (node, rest) => if rest.all (· = .documentEnd) then some (some node) else none
    | none => none

end RealmLookup.Yaml
