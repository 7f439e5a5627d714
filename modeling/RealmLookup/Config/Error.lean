/-!
# Errors of the credentials document

## Main definitions

* `Config.Error` : why no configuration could be read.
* `Config.Error.message` : its text.
-/

namespace RealmLookup.Config

/-- Why no configuration could be read. -/
inductive Error
  /-- A required key is absent, null or empty. -/
  | missingKey (key : String)
  /-- A key holds a value of another form than the expected one. -/
  | invalidValue (key : String) (expected : String)
  /-- The file cannot be read as text. -/
  | unreadable (path : String)
  /-- The document is not a JSON object. -/
  | malformed (path : String)
deriving DecidableEq

/-- The text of an error. -/
def Error.message : Error → String
  | .missingKey key => "required Keycloak configuration key '" ++ key ++ "' is missing"
  | .invalidValue key expected =>
      "Keycloak configuration key '" ++ key ++ "' must be " ++ expected
  | .unreadable path => "cannot read Keycloak configuration from " ++ path
  | .malformed path => "cannot unmarshal Keycloak credentials from " ++ path ++ " as JSON"

end RealmLookup.Config
