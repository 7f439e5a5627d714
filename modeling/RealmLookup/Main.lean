import RealmLookup.CommandLine.Run

/-!
# The program

The program reads the files that its arguments name, runs, and prints.  It brings no transport
of its own, so every request ends as one that could not be sent; `CommandLine.run` runs the
same command line against any network.
-/

open RealmLookup

/-- The contents of a file, if it can be read. -/
def readContents (path : String) : IO (Option (List UInt8)) := do
  try
    return some (← IO.FS.readBinFile path).toList
  catch _ =>
    return none

/-- The paths that arguments name. -/
def pathsOf (arguments : List String) : List String :=
  match CommandLine.parse arguments with
  | .ok (.resolve request) => request.credentials :: request.paramsFile.toList
  | _ => []

/-- Runs the command line; texts of failures go to the standard error output. -/
def main (arguments : List String) : IO UInt32 := do
  let files ← (pathsOf arguments).mapM fun path => return (path, ← readContents path)
  let environment : Environment := ⟨.unreachable, fun _ => 0⟩
  let (outcome, _) :=
    CommandLine.run environment (fun path => (files.lookup path).join) arguments
  IO.print outcome.output
  for line in outcome.complaint do
    IO.eprintln line
  return UInt32.ofNat outcome.exitCode
