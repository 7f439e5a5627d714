import RealmLookup.Json.Value

/-!
# Records in JSON

How the representations of the admin API are read.  A record is an object whose known members
occur at most once, in any order, among any others, or an array of its fields in order.  A
field without a default must be present; one that is present must have the right type.

## Main definitions

* `Decoder` : reads a tree with a given number of nested containers.
* `Record.text`, `Record.flag`, `Record.list`, … : decoders of fields.
* `Record.Fields`, `Record.open?` : the fields of a record.
* `Record.Fields.required`, `Record.Fields.optional` : reading one field.
-/

namespace RealmLookup.Representation

open RealmLookup.Json

/-- Reads a tree in which at most the given number of containers are inside each other. -/
abbrev Decoder (α : Type) : Type := Nat → Tree → Option α

namespace Record

variable {α : Type}

/-! ### Fields -/

/-- A text. -/
def text : Decoder String
  | _, .string pieces => (text? pieces).map String.ofList
  | _, _ => none

/-- A flag. -/
def flag : Decoder Bool
  | _, .bool value => some value
  | _, _ => none

/-- An integer of a range. -/
def integer (least greatest : Int) : Decoder Int
  | _, .number literal =>
      match literal.number? with
      | some (.integer value) => if least ≤ value ∧ value ≤ greatest then some value else none
      | _ => none
  | _, _ => none

/-- The integers of 32 bits with a sign. -/
def signed32 : Decoder Int :=
  integer (-twoTo 31) (twoTo 31 - 1)

/-- The integers of a number of bits without a sign. -/
def unsigned (bits : Nat) : Decoder Nat := fun depth tree =>
  (integer 0 (twoTo bits - 1) depth tree).map Int.toNat

/-- A value that may be null. -/
def nullable (decode : Decoder α) : Decoder (Option α)
  | _, .null => some none
  | depth, tree => (decode depth tree).map some

/-- An array. -/
def list (decode : Decoder α) : Decoder (List α)
  | depth + 1, .array items => items.mapM (decode depth)
  | _, _ => none

/-- An object of values of one type; of several members of one name the last one counts. -/
def table (decode : Decoder α) : Decoder (Table α)
  | depth + 1, .object members =>
      (members.mapM fun (member : List Piece × Tree) =>
        match text? member.1, decode depth member.2 with
        | some key, some value => some (String.ofList key, value)
        | _, _ => none).map Table.ofEntries
  | _, _ => none

/-! ### Records -/

/-- The fields of a record, by name or in order. -/
inductive Fields
  | named (members : List (String × Tree))
  | listed (items : List Tree)

/-- Opens a record of a number of fields; its fields may hold one container less. -/
def open? (count : Nat) : Decoder (Nat × Fields)
  | depth + 1, .object members =>
      (members.mapM fun (member : List Piece × Tree) =>
        (text? member.1).map fun key => (String.ofList key, member.2)).map fun members =>
          (depth, .named members)
  | depth + 1, .array items => if items.length ≤ count then some (depth, .listed items) else none
  | _, _ => none

/-- The value of a field, if it is present; a name that occurs twice makes the record
unreadable. -/
def Fields.find? (position : Nat) (name : String) : Fields → Option (Option Tree)
  | .listed items => some items[position]?
  | .named members =>
      match members.filter (·.1 == name) with
      | [] => some none
      | [member] => some (some member.2)
      | _ => none

/-- A field that must be present. -/
def required (opened : Nat × Fields) (position : Nat) (name : String) (decode : Decoder α) :
    Option α :=
  match opened.2.find? position name with
  | some (some tree) => decode opened.1 tree
  | _ => none

/-- A field with a default. -/
def optional (opened : Nat × Fields) (position : Nat) (name : String) (decode : Decoder α)
    (default : α) : Option α :=
  match opened.2.find? position name with
  | some (some tree) => decode opened.1 tree
  | some none => some default
  | none => none

/-- A field that may be absent or null. -/
def optionalText (opened : Nat × Fields) (position : Nat) (name : String) :
    Option (Option String) :=
  optional opened position name (nullable text) none

/-- A flag that is off by default. -/
def optionalFlag (opened : Nat × Fields) (position : Nat) (name : String) : Option Bool :=
  optional opened position name flag false

end Record

/-- Reads a JSON text as a value of one type. -/
def readText? {α : Type} (decode : Decoder α) (text : List Char) : Option α :=
  (Tree.read? text).bind (decode nesting)

/-- Reads the bytes of a JSON text as a value of one type.  Malformed UTF-8 is refused in the names
and strings that are looked at, and skipped in the values of unknown fields. -/
def readBytes? {α : Type} (decode : Decoder α) (bytes : List UInt8) : Option α :=
  (Tree.readBytes? bytes).bind (decode nesting)

end RealmLookup.Representation
