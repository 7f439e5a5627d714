import RealmLookup.Representation.Record

/-!
# Groups

## Main definitions

* `Group` : a group with the groups below it.
-/

namespace RealmLookup.Representation

open Record RealmLookup.Json

/-- A group with the groups below it. -/
inductive Group
  | mk (id name : String) (path parentId : Option String) (subGroups : List Group)

namespace Group

/-- The identifier. -/
def id : Group → String
  | mk id _ _ _ _ => id

/-- The name. -/
def name : Group → String
  | mk _ name _ _ _ => name

/-- The path from the top level. -/
def path : Group → Option String
  | mk _ _ path _ _ => path

/-- The identifier of the group above. -/
def parentId : Group → Option String
  | mk _ _ _ parentId _ => parentId

/-- The groups directly below. -/
def subGroups : Group → List Group
  | mk _ _ _ _ subGroups => subGroups

/-- Reads a group, given how the groups below it are read. -/
def decodeWith (subGroups : Decoder (List Group)) : Decoder Group := fun depth tree => do
  let fields ← open? 5 depth tree
  let id ← required fields 0 "id" text
  let name ← required fields 1 "name" text
  let path ← optionalText fields 2 "path"
  let parentId ← optionalText fields 3 "parentId"
  let subGroups ← optional fields 4 "subGroups" subGroups []
  return mk id name path parentId subGroups

/-- Reads a group.  A group and the list of the groups below it are two containers. -/
def decode : Decoder Group
  | 0, _ => none
  | 1, tree => decodeWith (fun _ _ => none) 1 tree
  | depth + 2, tree =>
      let below : Decoder (List Group) := fun _ tree =>
        match tree with
        | .array items => items.mapM (decode depth)
        | _ => none
      decodeWith below (depth + 2) tree

end Group

end RealmLookup.Representation
