import RealmLookup.Config.Error
import RealmLookup.Json.Value
import RealmLookup.Text.Blank
import RealmLookup.Text.Quoted
import RealmLookup.Text.Utf8

/-!
# Connection settings

The settings under which the server is reached, read from a flat JSON object.  Documents are
often restricted to texts, so a flag may be given as `"true"` or `"false"`, the timeout as
decimal digits and the headers as the text of a JSON object; an empty text counts as an
absent value.

## Main definitions

* `Config` : the settings.
* `Config.ofCredentials` : the settings of a credentials document.
* `Config.ofText`, `Config.ofFile` : the settings of the text and of the file of a document.
* `Config.serverUrl` : the URL below which all requests lie.
* `Config.describe` : the settings as text, without their secrets.
-/

namespace RealmLookup

/-- The settings under which the server is reached. -/
structure Config where
  url : String
  basePath : String
  clientId : String
  clientSecret : Option String
  username : Option String
  password : Option String
  realm : String
  initialLogin : Bool
  timeoutSeconds : Nat
  skipVerification : Bool
  rootCertificate : Option String
  additionalHeaders : Table String
deriving DecidableEq

namespace Config

open RealmLookup.Json RealmLookup.Text

/-! ### Keys -/

namespace Key

def url : String := "url"
def clientId : String := "client_id"
def basePath : String := "base_path"
def clientSecret : String := "client_secret"
def username : String := "username"
def password : String := "password"
def realm : String := "realm"
def initialLogin : String := "initial_login"
def timeout : String := "client_timeout"
def skipVerification : String := "tls_insecure_skip_verify"
def rootCertificate : String := "root_ca_certificate"
def additionalHeaders : String := "additional_headers"

end Key

/-! ### Values -/

/-- The realm when none is given. -/
def defaultRealm : String := "master"

/-- The timeout when none is given. -/
def defaultTimeoutSeconds : Nat := 15

/-- The greatest timeout. -/
def maxTimeoutSeconds : Nat := twoTo 64 - 1

variable (credentials : Table Value) (key : String)

/-- A text, absent if empty. -/
def optionalText : Except Error (Option String) :=
  match Table.get? key credentials with
  | none | some .null => .ok none
  | some (.string text) => .ok (if text.isEmpty then none else some text)
  | some _ => .error (.invalidValue key "a string")

/-- A text that must be present. -/
def requiredText : Except Error String :=
  match optionalText credentials key with
  | .ok (some text) => .ok text
  | .ok none => .error (.missingKey key)
  | .error error => .error error

/-- The flag that a text spells, white space around it aside. -/
def flagOfText? (text : String) : Option Bool :=
  let trimmed := String.ofList (trimBlanks text.toList)
  if trimmed = "true" then some true else if trimmed = "false" then some false else none

/-- A flag, absent if the text is empty. -/
def optionalFlag : Except Error (Option Bool) :=
  let invalid := Error.invalidValue key "a boolean or \"true\"/\"false\""
  match Table.get? key credentials with
  | none | some .null => .ok none
  | some (.bool flag) => .ok (some flag)
  | some (.string text) =>
      if text.isEmpty then .ok none
      else
        match flagOfText? text with
        | some flag => .ok (some flag)
        | none => .error invalid
  | some _ => .error invalid

/-- The number below `2 ^ 64` that decimal digits spell. -/
def countOfDigits? (digits : List Char) : Option Nat :=
  if digits ≠ [] ∧ digits.all Char.isDigit = true ∧
      Nat.ofDigitChars 10 digits 0 ≤ maxTimeoutSeconds then
    some (Nat.ofDigitChars 10 digits 0)
  else none

/-- The number that a text spells, a leading plus and white space around it aside. -/
def countOfText? (text : String) : Option Nat :=
  match trimBlanks text.toList with
  | '+' :: digits => countOfDigits? digits
  | digits => countOfDigits? digits

/-- A number of seconds, absent if the text is empty. -/
def optionalCount : Except Error (Option Nat) :=
  let invalid := Error.invalidValue key "a non-negative integer"
  match Table.get? key credentials with
  | none | some .null => .ok none
  | some (.number (.integer value)) =>
      if 0 ≤ value then .ok (some value.toNat) else .error invalid
  | some (.string text) =>
      if text.isEmpty then .ok none
      else
        match countOfText? text with
        | some count => .ok (some count)
        | none => .error invalid
  | some _ => .error invalid

/-- The table of an object whose values are all texts. -/
def textsOf? : Table Value → Option (Table String)
  | [] => some []
  | (name, .string text) :: rest => (textsOf? rest).map ((name, text) :: ·)
  | _ :: _ => none

/-- Headers, given as an object of texts or as the JSON text of one; blank text stands for
none. -/
def headers : Except Error (Table String) :=
  let invalid := Error.invalidValue key "an object of strings"
  let checked (found : Option (Table Value)) : Except Error (Table String) :=
    match found.bind textsOf? with
    | some table => .ok table
    | none => .error invalid
  match Table.get? key credentials with
  | none | some .null => .ok []
  | some (.string text) =>
      if allBlank text.toList then .ok [] else checked (readObject? text.toList)
  | some (.object members) => checked (some members)
  | some _ => .error invalid

/-! ### Documents -/

/-- The settings of a credentials document.  Keys other than the twelve known ones do not
count; the first key with an unusable value is reported. -/
def ofCredentials : Except Error Config := do
  let url ← requiredText credentials Key.url
  let clientId ← requiredText credentials Key.clientId
  let basePath ← optionalText credentials Key.basePath
  let clientSecret ← optionalText credentials Key.clientSecret
  let username ← optionalText credentials Key.username
  let password ← optionalText credentials Key.password
  let realm ← optionalText credentials Key.realm
  let initialLogin ← optionalFlag credentials Key.initialLogin
  let timeout ← optionalCount credentials Key.timeout
  let skipVerification ← optionalFlag credentials Key.skipVerification
  let rootCertificate ← optionalText credentials Key.rootCertificate
  let additionalHeaders ← headers credentials Key.additionalHeaders
  return {
    url, clientId, clientSecret, username, password, rootCertificate, additionalHeaders
    basePath := basePath.getD ""
    realm := realm.getD defaultRealm
    initialLogin := initialLogin.getD true
    timeoutSeconds := timeout.getD defaultTimeoutSeconds
    skipVerification := skipVerification.getD false }

/-- The settings of the text of a document; `path` names the document in errors. -/
def ofText (path : String) (text : List Char) : Except Error Config :=
  match readObject? text with
  | some credentials => ofCredentials credentials
  | none => .error (.malformed path)

/-- The name of a document that is not in a file. -/
def inlinePath : String := "<inline>"

/-- The settings of a file, given its contents if there is such a file. -/
def ofFile (path : String) (contents : Option (List UInt8)) : Except Error Config :=
  match contents.bind Utf8.decodeStrict? with
  | some text => ofText path text
  | none => .error (.unreadable path)

/-! ### Settings -/

variable (config : Config)

/-- The URL below which all requests lie: the server and the base path, joined by one slash
and without slashes at the end. -/
def serverUrl : String :=
  let slash (c : Char) : Bool := c == '/'
  let url := trimEnd slash config.url.toList
  let basePath := trim slash config.basePath.toList
  String.ofList (if basePath.isEmpty then url else url ++ '/' :: basePath)

/-- Whether logins use a username and password. -/
def usesPasswordGrant : Bool :=
  config.username.isSome && config.password.isSome

/-- The settings as text.  Of secrets it shows only whether they are set, of headers only the
names. -/
def describe : String :=
  let hidden (secret : Option String) : String :=
    quoteOption (secret.map fun _ => "<redacted>")
  "ProviderConfig \x7b url: " ++ quote config.url ++
  ", base_path: " ++ quote config.basePath ++
  ", client_id: " ++ quote config.clientId ++
  ", client_secret: " ++ hidden config.clientSecret ++
  ", username: " ++ quoteOption config.username ++
  ", password: " ++ hidden config.password ++
  ", realm: " ++ quote config.realm ++
  ", initial_login: " ++ toString config.initialLogin ++
  ", client_timeout: " ++ toString config.timeoutSeconds ++ "s" ++
  ", tls_insecure_skip_verify: " ++ toString config.skipVerification ++
  ", root_ca_certificate: " ++ toString config.rootCertificate.isSome ++
  ", additional_headers: " ++ quoteList (Table.keys config.additionalHeaders) ++ " \x7d"

end Config

end RealmLookup
