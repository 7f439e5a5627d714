import RealmLookup.Table
import RealmLookup.Yaml.Token

/-!
# Nodes of YAML documents

A node may carry an anchor, by which later nodes refer to it.  As written, anchors are names;
before nodes are evaluated, each name becomes a number.

An anchor gets as its number how many names there are so far.  A name that is used again gets
a new number, and the next new name the same one, so a reference to the former then means the
latter.

## Main definitions

* `Yaml.Node` : the nodes, with anchors of any type.
* `Yaml.Node.number?` : the node with numbers for names, if every reference is to a name.
* `Yaml.Node.targets` : the nodes by anchor.
* `Yaml.Node.events` : the size of a node.
-/

namespace RealmLookup.Yaml

/-- A node of a document. -/
inductive Node (α : Type) : Type
  | reference (target : α)
  | scalar (anchor : Option α) (tag : Option Tag) (style : Style) (text : List Char)
  | sequence (anchor : Option α) (tag : Option Tag) (items : List (Node α))
  | mapping (anchor : Option α) (tag : Option Tag) (pairs : List (Node α × Node α))

namespace Node

/-- A node that is not written. -/
def empty {α : Type} : Node α := .scalar none none .plain []

/-! ### Numbers for names -/

/-- The numbers of names. -/
abbrev Names : Type := Table Nat

/-- The names behind an anchor, and its number. -/
def register (names : Names) : Option String → Names × Option Nat
  | none => (names, none)
  | some name => (names.insert name names.length, some names.length)

mutual

/-- The node with numbers for names. -/
def number? (names : Names) : Node String → Option (Names × Node Nat)
  | .reference name => (names.get? name).map fun number => (names, .reference number)
  | .scalar anchor tag style text =>
      let (names, anchor) := register names anchor
      some (names, .scalar anchor tag style text)
  | .sequence anchor tag items =>
      let (names, anchor) := register names anchor
      (numberItems? names items).map fun (names, items) => (names, .sequence anchor tag items)
  | .mapping anchor tag pairs =>
      let (names, anchor) := register names anchor
      (numberPairs? names pairs).map fun (names, pairs) => (names, .mapping anchor tag pairs)

/-- The items of a sequence with numbers for names. -/
def numberItems? (names : Names) : List (Node String) → Option (Names × List (Node Nat))
  | [] => some (names, [])
  | item :: rest =>
      match number? names item with
      | none => none
      | some (names, item) =>
          (numberItems? names rest).map fun (names, items) => (names, item :: items)

/-- The pairs of a mapping with numbers for names. -/
def numberPairs? (names : Names) :
    List (Node String × Node String) → Option (Names × List (Node Nat × Node Nat))
  | [] => some (names, [])
  | (key, value) :: rest =>
      match number? names key with
      | none => none
      | some (names, key) =>
          match number? names value with
          | none => none
          | some (names, value) =>
              (numberPairs? names rest).map fun (names, pairs) => (names, (key, value) :: pairs)

end

/-! ### Anchored nodes -/

variable {α : Type}

/-- A node with its anchor, if it has one. -/
def withAnchor (anchor : Option α) (node : Node α) : List (α × Node α) :=
  anchor.toList.map fun anchor => (anchor, node)

mutual

/-- The anchored nodes inside a node, itself included, in the order in which they begin. -/
def anchored : Node α → List (α × Node α)
  | .reference _ => []
  | .scalar anchor tag style text => withAnchor anchor (.scalar anchor tag style text)
  | .sequence anchor tag items =>
      withAnchor anchor (.sequence anchor tag items) ++ anchoredItems items
  | .mapping anchor tag pairs =>
      withAnchor anchor (.mapping anchor tag pairs) ++ anchoredPairs pairs

/-- The anchored nodes inside the items of a sequence. -/
def anchoredItems : List (Node α) → List (α × Node α)
  | [] => []
  | item :: rest => anchored item ++ anchoredItems rest

/-- The anchored nodes inside the pairs of a mapping. -/
def anchoredPairs : List (Node α × Node α) → List (α × Node α)
  | [] => []
  | (key, value) :: rest => anchored key ++ (anchored value ++ anchoredPairs rest)

end

/-- The nodes by anchor, so that a search finds the last one of several. -/
def targets (root : Node α) : List (α × Node α) :=
  root.anchored.reverse

/-! ### Size -/

mutual

/-- The size of a node: one for each reference and scalar, two for each collection. -/
def events : Node α → Nat
  | .reference _ => 1
  | .scalar _ _ _ _ => 1
  | .sequence _ _ items => eventsOfItems items + 2
  | .mapping _ _ pairs => eventsOfPairs pairs + 2

/-- The size of the items of a sequence. -/
def eventsOfItems : List (Node α) → Nat
  | [] => 0
  | item :: rest => events item + eventsOfItems rest

/-- The size of the pairs of a mapping. -/
def eventsOfPairs : List (Node α × Node α) → Nat
  | [] => 0
  | (key, value) :: rest => events key + events value + eventsOfPairs rest

end

end Node

end RealmLookup.Yaml
