/-!
# Parameters on the command line

A parameter on the command line is a name and a value joined by an equals sign; the first one
separates them.

## Main definitions

* `CommandLine.splitPair?` : the name and the value of an argument.
* `CommandLine.pairOfArgument` : the same, with the text of the error.
-/

namespace RealmLookup.CommandLine

/-- The name before the first equals sign, which may not be empty, and the value behind it. -/
def splitPair? (argument : String) : Option (String × String) :=
  match argument.toList.takeWhile (· ≠ '='), argument.toList.dropWhile (· ≠ '=') with
  | [], _ => none
  | _, [] => none
  | key, _ :: value => some (String.ofList key, String.ofList value)

/-- The name and the value of an argument, or the text of the error. -/
def pairOfArgument (argument : String) : Except String (String × String) :=
  match splitPair? argument with
  | some pair => .ok pair
  | none => .error ("expected key=value, got '" ++ argument ++ "'")

end RealmLookup.CommandLine
