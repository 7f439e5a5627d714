import RealmLookup.Yaml.Parser
import RealmLookup.Yaml.Schema

/-!
# Values of YAML documents

The JSON value of a node.  Keys are scalars and keep their text, whatever else they look like.
A reference stands for the node of its anchor, wherever that is; so that evaluation ends soon,
the depth of collections is limited, and so is the number of references that are followed.

## Main definitions

* `Yaml.Evaluation` : evaluating, with the number of references that may still be followed.
* `Yaml.valueOf` : the value of a node.
* `Yaml.readMapping?` : the value of a text that denotes a mapping.
-/

namespace RealmLookup.Yaml

/-- An evaluation that may fail; its state is the number of references that it may still
follow. -/
abbrev Evaluation (α : Type) : Type := StateT Nat Option α

/-- How often each part of a document may be referred to on average. -/
def maxRepetition : Nat := 100

/-- The number of collections that may be inside each other. -/
def maxDepth : Nat := 128

variable (targets : List (Nat × Node Nat))

/-- The node that a node stands for. -/
def follow : Node Nat → Evaluation (Node Nat)
  | .reference target => do
      let left ← get
      if left = 0 then failure
      else
        set (left - 1)
        match targets.lookup target with
        | some node => return node
        | none => failure
  | node => return node

/-- The text of a node that is a key. -/
def keyOf (node : Node Nat) : Evaluation String := do
  match ← follow targets node with
  | .scalar _ _ _ text => return String.ofList text
  | _ => failure

/-- An evaluation that does not follow references. -/
def liftOption {α : Type} : Option α → Evaluation α
  | some value => return value
  | none => failure

/-- The value of a node with at most the given number of collections inside each other. -/
def valueOf : Nat → Node Nat → Evaluation Json.Value
  | depth, node => do
      match ← follow targets node with
      | .scalar _ tag style text => liftOption (scalarValue? tag style text)
      | .sequence _ tag items =>
          match depth with
          | 0 => failure
          | depth + 1 =>
              if isLocal tag then failure
              else return .array (← items.mapM (valueOf depth))
      | .mapping _ tag pairs =>
          match depth with
          | 0 => failure
          | depth + 1 =>
              if isLocal tag then failure
              else
                let entries ← pairs.mapM fun (key, value) => do
                  return (← keyOf targets key, ← valueOf depth value)
                return .object (Table.ofEntries entries)
      | .reference _ => failure

/-- The entries of the outermost node, whose tag does not count.  Nothing at all is a mapping
without entries. -/
def entriesOf (root : Node Nat) : Evaluation (Table Json.Value) := do
  match root with
  | .mapping _ _ pairs =>
      let entries ← pairs.mapM fun (key, value) => do
        return (← keyOf targets key, ← valueOf targets (maxDepth - 1) value)
      return Table.ofEntries entries
  | .scalar _ _ style text => if style = .plain && text.isEmpty then return [] else failure
  | _ => failure

/-- The entries of a text that holds one mapping, or nothing. -/
def readMapping? (text : List Char) : Option (Table Json.Value) := do
  match ← parseDocument? (← scan? text) with
  | none => return []
  | some node =>
      let (_, root) ← node.number? []
      let (entries, _) ← (entriesOf root.targets root).run (maxRepetition * root.events)
      return entries

end RealmLookup.Yaml
