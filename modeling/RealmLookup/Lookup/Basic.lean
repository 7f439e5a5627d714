import RealmLookup.Parameters

/-!
# Resolving identifiers

An object is known by an external name, the identifier that was recorded for it, and by the
parameters that identify it.  Its identifier is resolved by two strategies: the object is
fetched by its external name, and if there is none, or it is stale, the object is searched by
the identifying parameters.

## Main definitions

* `Strategy` : the parameters that a kind of object needs, and its two strategies.
* `Strategy.select` : the parameters that the strategies get to see.
* `Strategy.resolve` : the identifier of an object.
* `singleOrNone` : the identifier of the only match.
* `Call`, `Strategy.recording` : strategies of given outcomes that record their calls.
-/

namespace RealmLookup.Lookup

open RealmLookup.Json

variable {m : Type → Type} {α : Type}

/-- How objects of a kind are located. -/
structure Strategy (m : Type → Type) where
  /-- The parameters that must be present. -/
  required : List String
  /-- The parameters that are an empty text if absent. -/
  optional : List String
  /-- The identifier of the object that is fetched by an external name. -/
  byExternalName : String → Parameters → m (Except Error String)
  /-- The identifier of the object that is searched by parameters, if there is one. -/
  byParameters : Parameters → m (Except Error (Option String))

namespace Strategy

/-! ### Parameters -/

/-- Adds required parameters; the first absent one is an error. -/
def selectRequired (params : Parameters) : List String → Parameters → Except Error Parameters
  | [], selected => .ok selected
  | key :: rest, selected =>
      match params.get? key with
      | none => .error (.missingParameter key)
      | some value => selectRequired params rest (selected.insert key value)

/-- Adds optional parameters; an absent one is an empty text. -/
def selectOptional (params : Parameters) (keys : List String) (selected : Parameters) :
    Parameters :=
  keys.foldl (fun selected key => selected.insert key ((params.get? key).getD (.string "")))
    selected

/-- The declared parameters alone. -/
def select (strategy : Strategy m) (params : Parameters) : Except Error Parameters :=
  match selectRequired params strategy.required .empty with
  | .ok selected => .ok (selectOptional params strategy.optional selected)
  | .error error => .error error

/-! ### Identifiers -/

/-- An identifier, absent if empty. -/
def nonEmpty (id : String) : Option String :=
  if id.isEmpty then none else some id

/-- What a search means: an object that is not found is not there yet. -/
def settle : Except Error (Option String) → Except Error (Option String)
  | .ok id => .ok (id.bind nonEmpty)
  | .error error => if error.isNotFound then .ok none else .error error

variable [Monad m]

/-- The identifier of the object that the declared parameters identify. -/
def search (strategy : Strategy m) (selected : Parameters) :
    m (Except Error (Option String)) := do
  return settle (← strategy.byParameters selected)

/-- The identifier of an object.  An object that is fetched without an identifier is gone; one
that is not found by its external name is searched by its parameters. -/
def resolve (strategy : Strategy m) (externalName : String) (params : Parameters) :
    m (Except Error (Option String)) :=
  match strategy.select params with
  | .error error => pure (.error error)
  | .ok selected =>
      if externalName.isEmpty then strategy.search selected
      else do
        match ← strategy.byExternalName externalName selected with
        | .ok id => return .ok (nonEmpty id)
        | .error error =>
            if error.isNotFound then strategy.search selected else return .error error

end Strategy

/-- The identifier of the only element of a list; several elements are ambiguous. -/
def singleOrNone (id : α → String) : List α → Except Error (Option String)
  | [] => .ok none
  | [item] => .ok (some (id item))
  | items => .error (.ambiguous items.length)

/-! ### Recorded calls -/

/-- A call of one of the two strategies. -/
inductive Call
  | externalName (id : String) (params : Parameters)
  | parameters (params : Parameters)

/-- The strategies of given outcomes, which record how they are called. -/
def Strategy.recording (required optional : List String)
    (byExternalName : String → Parameters → Except Error String)
    (byParameters : Parameters → Except Error (Option String)) :
    Strategy (StateM (List Call)) where
  required := required
  optional := optional
  byExternalName id params := do
    modify (· ++ [.externalName id params])
    return byExternalName id params
  byParameters params := do
    modify (· ++ [.parameters params])
    return byParameters params

end RealmLookup.Lookup
