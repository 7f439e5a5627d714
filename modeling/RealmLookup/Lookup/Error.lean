import RealmLookup.Client.Error
import RealmLookup.Config.Error

/-!
# Errors of lookups

## Main definitions

* `Lookup.Error` : why an identifier could not be resolved.
* `Lookup.Error.message`, `Lookup.Error.reason` : its text and its short name.
-/

namespace RealmLookup.Lookup

/-- Why an identifier could not be resolved. -/
inductive Error
  /-- A required parameter is absent. -/
  | missingParameter (key : String)
  /-- A parameter has an unusable value. -/
  | invalidParameter (key : String) (reason : String)
  /-- Several objects match. -/
  | ambiguous (count : Nat)
  /-- The settings are unusable. -/
  | config (error : Config.Error)
  /-- A request failed. -/
  | client (error : Client.Error)
deriving DecidableEq

namespace Error

/-- The text of an error. -/
def message : Error → String
  | .missingParameter key => "required param '" ++ key ++ "' not set"
  | .invalidParameter key reason => "param '" ++ key ++ "' is invalid: " ++ reason
  | .ambiguous count =>
      "Too many resources found, which match the identifying parameters. " ++
        "Expected 0 or 1, but was " ++ toString count
  | .config error => error.message
  | .client error => error.message

/-- The status the server answered with, if that is what failed. -/
def status? : Error → Option Nat
  | .client error => error.status?
  | _ => none

/-- Whether the admin API does not know the object. -/
def isNotFound : Error → Bool
  | .client error => error.isNotFound
  | _ => false

/-- Whether the same lookup may succeed later. -/
def isTransient : Error → Bool
  | .client error => error.isTransient
  | _ => false

/-- The short name of an error, for status reports. -/
def reason : Error → String
  | .missingParameter _ => "MissingIdentifyingProperty"
  | .invalidParameter _ _ => "InvalidIdentifyingProperty"
  | .ambiguous _ => "AmbiguousIdentifyingProperties"
  | .config _ => "InvalidProviderConfig"
  | .client (.authentication _ _ _) => "KeycloakAuthFailed"
  | .client (.api status _ _) => if status = 404 then "KeycloakNotFound" else "KeycloakApiError"
  | .client (.request _) => "KeycloakUnreachable"
  | .client (.decode _) => "KeycloakUnexpectedResponse"
  | .client (.invalidUrl _ _) => "InvalidProviderConfig"
  | .client (.invalidHeader _) => "InvalidProviderConfig"
  | .client (.build _) => "InvalidProviderConfig"

end Error

end RealmLookup.Lookup
