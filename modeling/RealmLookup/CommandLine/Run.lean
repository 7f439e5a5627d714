import RealmLookup.CommandLine.Arguments
import RealmLookup.CommandLine.ParamsFile
import RealmLookup.Lookup.Strategies
import RealmLookup.Session

/-!
# Running the command line

What the program does, as a function of its arguments, the files and the server.  Log output and
help texts are left out.

## Main definitions

* `CommandLine.Failure`, `CommandLine.Outcome` : how a run ends.
* `CommandLine.resolve` : the run of a request.
* `CommandLine.run` : the run of arguments.
-/

namespace RealmLookup.CommandLine

/-- Why an identifier could not be printed. -/
inductive Failure
  | config (error : Config.Error)
  | params (error : LoadError)
  | connection (error : Client.Error)
  | resolution (kind : Kind) (error : Lookup.Error)
deriving DecidableEq

/-- The text of a failure. -/
def Failure.message : Failure → String
  | .config error => error.message
  | .params error => error.message
  | .connection error => error.message
  | .resolution kind _ => "failed to resolve " ++ kind.name

/-- The text of what a failure comes from, where it only says what was tried. -/
def Failure.cause? : Failure → Option String
  | .resolution _ error => some error.message
  | _ => none

/-- How a run ends: with text on the standard output, with a failure, without having begun, or
abruptly, when a token expires later than the clock can tell. -/
inductive Outcome
  | printed (text : String)
  | failed (failure : Failure)
  | refused (refusal : Refusal)
  | aborted
deriving DecidableEq

/-- The exit code of an outcome. -/
def Outcome.exitCode : Outcome → Nat
  | .printed _ => 0
  | .failed _ => 1
  | .refused refusal => refusal.exitCode
  | .aborted => 101

/-- The version of the program as it is printed. -/
def versionLine : String := "keycloak-lookup 0.1.0\n"

/-- How the program is used. -/
def usage : String :=
  "Usage: keycloak-lookup resolve --kind <KIND> --credentials <FILE> [--external-name <ID>]\n" ++
  "                               [--param <KEY=VALUE>]... [--params-file <FILE>]\n" ++
  "       keycloak-lookup kinds\n"

/-- What an outcome leaves on the standard output. -/
def Outcome.output : Outcome → String
  | .printed text => text
  | .refused .versionRequested => versionLine
  | .refused .helpRequested => usage
  | _ => ""

/-- The lines that an outcome leaves on the standard error output. -/
def Outcome.complaint : Outcome → List String
  | .failed failure => ("Error: " ++ failure.message) :: failure.cause?.toList
  | .refused refusal => if refusal.exitCode = 0 then [] else [usage]
  | .aborted => ["overflow when adding duration to instant"]
  | .printed _ => []

/-- The identifier of an object as it is printed; an empty line if there is none. -/
def idLine (id : Option String) : String := id.getD "" ++ "\n"

/-- Resolves a request, given the two files that it names.  Settings are read before
parameters, and both before anything is sent. -/
def resolve (environment : Environment) (request : Request) (credentials : File)
    (paramsFile : Option File) : Outcome × Session :=
  match Config.ofFile credentials.path credentials.contents with
  | .error error => (.failed (.config error), .fresh)
  | .ok config =>
      match loadParameters paramsFile request.params with
      | .error error => (.failed (.params error), .fresh)
      | .ok params =>
          match Session.start environment config with
          | (none, session) => (.aborted, session)
          | (some (.error error), session) => (.failed (.connection error), session)
          | (some (.ok client), session) =>
              match Session.run environment client
                  (request.kind.resolve request.externalName params) session with
              | (none, session) => (.aborted, session)
              | (some (.error error), session) =>
                  (.failed (.resolution request.kind error), session)
              | (some (.ok id), session) => (.printed (idLine id), session)

/-- Runs arguments; `read` gives the contents of a file that can be read. -/
def run (environment : Environment) (read : String → Option (List UInt8))
    (arguments : List String) : Outcome × Session :=
  match parse arguments with
  | .error refusal => (.refused refusal, .fresh)
  | .ok .kinds => (.printed Kind.table, .fresh)
  | .ok (.resolve request) =>
      let file (path : String) : File := ⟨path, read path⟩
      resolve environment request (file request.credentials) (request.paramsFile.map file)

end RealmLookup.CommandLine
