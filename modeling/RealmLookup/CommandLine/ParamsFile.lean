import RealmLookup.Parameters
import RealmLookup.Text.Blank
import RealmLookup.Text.Utf8
import RealmLookup.Yaml.Value

/-!
# Parameters in files

Parameters may be given in a file, a YAML document with one mapping; a JSON object is such a
document, too.  Parameters of the command line replace those of the file name by name.

## Main definitions

* `CommandLine.parametersOfFile` : the parameters of a file.
* `CommandLine.override` : parameters replaced by texts.
* `CommandLine.loadParameters` : the parameters of an optional file, replaced by texts.
-/

namespace RealmLookup.CommandLine

open RealmLookup.Text

/-- A file as it was found: its path, and its contents unless they could not be read. -/
structure File where
  path : String
  contents : Option (List UInt8)

/-- Why no parameters could be loaded. -/
inductive LoadError
  /-- The file cannot be read as text. -/
  | unreadable (path : String)
  /-- The file does not hold one mapping. -/
  | malformed (path : String)
deriving DecidableEq

/-- The text of an error. -/
def LoadError.message : LoadError → String
  | .unreadable path => "failed to read " ++ path
  | .malformed path => "failed to parse " ++ path

/-- The parameters of a text; there are none in a text of white space. -/
def parametersOfText? (text : List Char) : Option Parameters :=
  if allBlank text then some .empty
  else (Yaml.readMapping? text).map Parameters.mk

/-- The parameters of a file. -/
def parametersOfFile (file : File) : Except LoadError Parameters :=
  match file.contents.bind Utf8.decodeStrict? with
  | none => .error (.unreadable file.path)
  | some text =>
      match parametersOfText? text with
      | some params => .ok params
      | none => .error (.malformed file.path)

/-- Parameters with some of them replaced by texts, one by one. -/
def override (params : Parameters) (pairs : List (String × String)) : Parameters :=
  pairs.foldl (fun params (key, text) => params.insert key (.string text)) params

/-- The parameters of an optional file, with those of the command line in place of equally
named ones. -/
def loadParameters (file : Option File) (pairs : List (String × String)) :
    Except LoadError Parameters :=
  match file with
  | none => .ok (override .empty pairs)
  | some file => (parametersOfFile file).map fun params => override params pairs

end RealmLookup.CommandLine
