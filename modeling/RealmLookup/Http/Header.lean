import RealmLookup.Power
import RealmLookup.Table

/-!
# Headers

Header names are tokens and do not depend on case; a value may hold any character but control
characters other than the tab.  The HTTP library holds 24,576 names at most and aborts beyond them;
this limit is left out, so tables of headers have any size here.

## Main definitions

* `Header.name?` : a header name in lower case.
* `Header.isValue` : the values that a header may have.
* `Header.collect` : the headers of a table, by their names in lower case.
-/

namespace RealmLookup.Http.Header

/-- The characters of a header name. -/
def isNameChar (c : Char) : Bool :=
  c.isAlphanum ||
    ['!', '#', '$', '%', '&', '\'', '*', '+', '-', '.', '^', '_', Char.ofNat 0x60, '|',
      '~'].contains c

/-- The greatest length of a header name. -/
def maxNameLength : Nat := twoTo 16 - 1

/-- A header name in lower case. -/
def name? (text : String) : Option String :=
  if text ≠ "" ∧ text.toList.all isNameChar = true ∧ text.length ≤ maxNameLength then
    some (String.ofList (text.toList.map Char.toLower))
  else none

/-- Whether a text can be the value of a header. -/
def isValue (text : String) : Bool :=
  text.toList.all fun c => c == '\t' || (0x20 ≤ c.toNat && c.toNat != 0x7F)

/-- Adds the headers of a table in the order of its names, by their names in lower case; a
later spelling of a name replaces an earlier one.  The error names the first entry that is no
header. -/
def collectInto (headers : Table String) : Table String → Except String (Table String)
  | [] => .ok headers
  | (name, value) :: rest =>
      match name? name with
      | none => .error name
      | some lower =>
          if isValue value then collectInto (Table.insert lower value headers) rest
          else .error name

/-- The headers of a table, by their names in lower case.  How many names the HTTP library can hold
is left out. -/
def collect (table : Table String) : Except String (Table String) :=
  collectInto [] table

end RealmLookup.Http.Header
