import RealmLookup.CommandLine.Overrides
import RealmLookup.Kind

/-!
# Arguments of the command line

The command line is `resolve` with its options, or `kinds`.  An option takes one value, which
follows it or is attached with an equals sign; a word that looks like an option is never taken
as a value.  The value of an option is checked when the next option, or the end, is reached,
so that an unknown word is reported before a bad value in front of it.

## Main definitions

* `CommandLine.Command`, `CommandLine.Request` : what can be asked for.
* `CommandLine.Refusal` : why arguments are no command; asking for help is such a reason.
* `CommandLine.Word` : the forms of an argument.
* `CommandLine.parse` : the command of a list of arguments.
-/

namespace RealmLookup.CommandLine

/-- The object whose identifier is asked for. -/
structure Request where
  kind : Kind
  /-- The path of the credentials document. -/
  credentials : String
  externalName : String
  /-- The parameters in the order in which they are given. -/
  params : List (String × String)
  /-- The path of a file with further parameters. -/
  paramsFile : Option String
deriving DecidableEq

/-- What can be asked for. -/
inductive Command
  | kinds
  | resolve (request : Request)
deriving DecidableEq

/-- Why arguments are no command. -/
inductive Refusal
  | helpRequested
  | versionRequested
  | noCommand
  | unknownCommand
  | unknownArgument
  | missingValue
  | excessValue
  | invalidValue
  | repeatedOption
  | missingOption
deriving DecidableEq

/-- The exit code of a refusal: only a misuse is a failure. -/
def Refusal.exitCode : Refusal → Nat
  | .helpRequested => 0
  | .versionRequested => 0
  | _ => 2

/-! ### Words -/

/-- The forms of an argument. -/
inductive Word
  /-- Two hyphens, behind which nothing is an option. -/
  | separator
  /-- An option by its name, with the value attached to it. -/
  | long (name : String) (value : Option String)
  /-- Options of one letter; only the first one is looked at. -/
  | short (letter : Char)
  | plain
deriving DecidableEq

/-- An option without its hyphens. -/
def Word.ofOption (text : List Char) : Word :=
  .long (String.ofList (text.takeWhile (· ≠ '=')))
    (match text.dropWhile (· ≠ '=') with
      | [] => none
      | _ :: value => some (String.ofList value))

/-- The form of an argument. -/
def Word.ofArgument (argument : String) : Word :=
  match argument.toList with
  | '-' :: '-' :: [] => .separator
  | '-' :: '-' :: text => .ofOption text
  | '-' :: letter :: _ => .short letter
  | _ => .plain

/-- What an argument has to do with help: the letter or the name of the option. -/
def Word.asksForHelp : Word → Bool
  | .long name none => name == "help"
  | .short letter => letter == 'h'
  | _ => false

/-- Whether an argument gives the option for help a value. -/
def Word.givesHelpValue : Word → Bool
  | .long name (some _) => name == "help"
  | _ => false

/-! ### Options -/

/-- The options of `resolve`. -/
inductive Flag
  | kind
  | credentials
  | externalName
  | param
  | paramsFile
deriving DecidableEq

/-- All options. -/
def Flag.all : List Flag := [.kind, .credentials, .externalName, .param, .paramsFile]

/-- The name of an option. -/
def Flag.name : Flag → String
  | .kind => "kind"
  | .credentials => "credentials"
  | .externalName => "external-name"
  | .param => "param"
  | .paramsFile => "params-file"

/-- The option of a name. -/
def Flag.ofName? (name : String) : Option Flag :=
  all.find? fun flag => flag.name == name

/-- The values of the options so far. -/
structure Settings where
  kind : Option Kind
  credentials : Option String
  externalName : Option String
  params : List (String × String)
  paramsFile : Option String
deriving DecidableEq

namespace Settings

/-- No values. -/
def empty : Settings := ⟨none, none, none, [], none⟩

/-- The value of an option that may be given once, checked. -/
def once {α : Type} (old : Option α) (new : Option α) (missing : Refusal) :
    Except Refusal (Option α) :=
  if old.isSome then .error .repeatedOption
  else
    match new with
    | some value => .ok (some value)
    | none => .error missing

/-- A path, which may not be empty. -/
def path? (value : String) : Option String :=
  if value.isEmpty then none else some value

/-- Sets the value of an option. -/
def set (settings : Settings) (flag : Flag) (value : String) : Except Refusal Settings := do
  match flag with
  | .kind =>
      return { settings with
        kind := ← once settings.kind (Kind.ofName? value) .invalidValue }
  | .credentials =>
      return { settings with
        credentials := ← once settings.credentials (path? value) .missingValue }
  | .externalName =>
      return { settings with
        externalName := ← once settings.externalName (some value) .invalidValue }
  | .param =>
      match splitPair? value with
      | some pair => return { settings with params := settings.params ++ [pair] }
      | none => .error .invalidValue
  | .paramsFile =>
      return { settings with
        paramsFile := ← once settings.paramsFile (path? value) .missingValue }

/-- The request of all values; the kind and the credentials must be given. -/
def request (settings : Settings) : Except Refusal Request :=
  match settings.kind, settings.credentials with
  | some kind, some credentials =>
      .ok ⟨kind, credentials, settings.externalName.getD "", settings.params,
        settings.paramsFile⟩
  | _, _ => .error .missingOption

end Settings

/-! ### The command `resolve` -/

/-- The options so far, and the last one if its value was not checked yet. -/
structure Progress where
  settings : Settings
  pending : Option (Flag × Option String)
deriving DecidableEq

namespace Progress

/-- The state before the first argument. -/
def start : Progress := ⟨.empty, none⟩

/-- Checks the value of the last option. -/
def settle (progress : Progress) : Except Refusal Settings :=
  match progress.pending with
  | none => .ok progress.settings
  | some (_, none) => .error .missingValue
  | some (flag, some value) => progress.settings.set flag value

/-- Takes one more option. -/
def takeOption (progress : Progress) (name : String) (value : Option String) :
    Except Refusal Progress :=
  match Flag.ofName? name with
  | none => .error .unknownArgument
  | some flag => do
      let settings ← progress.settle
      match value with
      | none => return ⟨settings, some (flag, none)⟩
      | some value => return ⟨← settings.set flag value, none⟩

/-- Takes a word that is no option, which must be the value of the last one. -/
def takeValue (progress : Progress) (value : String) : Except Refusal Progress :=
  match progress.pending with
  | some (flag, none) => .ok ⟨progress.settings, some (flag, some value)⟩
  | _ => .error .unknownArgument

/-- Takes one more argument, other than the separator. -/
def take (progress : Progress) (argument : String) : Except Refusal Progress :=
  let word := Word.ofArgument argument
  if word.givesHelpValue then .error .excessValue
  else if word.asksForHelp then progress.settle.bind fun _ => .error .helpRequested
  else
    match word with
    | .long name value => progress.takeOption name value
    | .short _ => .error .unknownArgument
    | _ => progress.takeValue argument

end Progress

/-- The request of the arguments behind `resolve`. -/
def parseResolve (progress : Progress) : List String → Except Refusal Request
  | [] => progress.settle.bind Settings.request
  | argument :: rest =>
      if Word.ofArgument argument = .separator then
        if rest.isEmpty then progress.settle.bind Settings.request else .error .unknownArgument
      else
        match progress.take argument with
        | .ok progress => parseResolve progress rest
        | .error refusal => .error refusal

/-! ### The other commands -/

/-- The command of the arguments behind `kinds`, which takes none. -/
def parseKinds : List String → Except Refusal Command
  | [] => .ok .kinds
  | argument :: rest =>
      let word := Word.ofArgument argument
      if word = .separator && rest.isEmpty then .ok .kinds
      else if word.givesHelpValue then .error .excessValue
      else if word.asksForHelp then .error .helpRequested
      else .error .unknownArgument

/-- The names of the commands. -/
def commandNames : List String := ["resolve", "kinds", "help"]

/-- The refusal of the arguments behind `help`, which takes the name of a command. -/
def parseHelp : List String → Refusal
  | [] => .helpRequested
  | [name] => if commandNames.contains name then .helpRequested else .unknownCommand
  | _ => .unknownCommand

/-- The refusal of arguments that do not begin with a command. -/
def parseOther (argument : String) (rest : List String) : Refusal :=
  match Word.ofArgument argument with
  | .separator =>
      match rest with
      | [] => .noCommand
      | next :: _ => if commandNames.contains next then .unknownArgument else .unknownCommand
  | .long name value =>
      if name = "help" || name = "version" then
        if value.isSome then .excessValue
        else if name = "help" then .helpRequested
        else .versionRequested
      else .unknownArgument
  | .short letter =>
      if letter = 'h' then .helpRequested
      else if letter = 'V' then .versionRequested
      else .unknownArgument
  | .plain => .unknownCommand

/-- The command of a list of arguments. -/
def parse : List String → Except Refusal Command
  | [] => .error .noCommand
  | argument :: rest =>
      if argument = "resolve" then (parseResolve .start rest).map .resolve
      else if argument = "kinds" then parseKinds rest
      else if argument = "help" then .error (parseHelp rest)
      else .error (parseOther argument rest)

end RealmLookup.CommandLine
