import RealmLookup.Json.Printer
import RealmLookup.Lookup.Error

/-!
# Parameters

The desired state of an object as far as it is known: JSON values by the names of their
fields.

## Main definitions

* `Parameters` : the values by name.
* `Parameters.insert`, `Parameters.get?`, `Parameters.keys` : setting and reading values.
* `Parameters.text` : a value that must be a text.
* `Parameters.ofJson?`, `Parameters.toJson` : the JSON form.
-/

namespace RealmLookup

open RealmLookup.Json

/-- Values by the names of their fields. -/
structure Parameters where
  entries : Table Value

namespace Parameters

/-- No values. -/
def empty : Parameters := ⟨[]⟩

/-- Sets a value, replacing any earlier one of that name. -/
def insert (params : Parameters) (key : String) (value : Value) : Parameters :=
  ⟨Table.insert key value params.entries⟩

/-- The values of a list of entries; of several entries of one name the last one counts. -/
def ofEntries (entries : List (String × Value)) : Parameters :=
  ⟨Table.ofEntries entries⟩

/-- The value of a name. -/
def get? (params : Parameters) (key : String) : Option Value :=
  Table.get? key params.entries

/-- The names in ascending order. -/
def keys (params : Parameters) : List String :=
  Table.keys params.entries

/-- The number of values. -/
def size (params : Parameters) : Nat :=
  params.entries.length

/-- Whether there are no values. -/
def isEmpty (params : Parameters) : Bool :=
  params.entries.isEmpty

/-- The value of a name that must be present and a text. -/
def text (params : Parameters) (key : String) : Except Lookup.Error String :=
  match params.get? key with
  | some (.string text) => .ok text
  | some other => .error (.invalidParameter key ("expected a string, got " ++ other.compact))
  | none => .error (.missingParameter key)

/-- The JSON value of all values. -/
def toValue (params : Parameters) : Value :=
  .object params.entries

/-- The compact JSON text of all values. -/
def toJson (params : Parameters) : String :=
  params.toValue.compact

/-- The values of a JSON text that denotes an object. -/
def ofJson? (text : String) : Option Parameters :=
  (readObject? text.toList).map Parameters.mk

end Parameters

end RealmLookup
