import RealmLookup.Url.Error

/-!
# Errors of the admin client

An error keeps what its own text shows.  The texts of what caused it in the libraries below are left
out, but for the reason why a URL is none.

## Main definitions

* `Client.Error` : why a request to the server, or the preparation of one, failed.
* `Client.Error.message` : its text.
* `Client.Error.status?`, `Client.Error.isNotFound`, `Client.Error.isTransient` : the status
  the server answered with, and whether the object is missing or a retry may help.
-/

namespace RealmLookup.Client

/-- Why a request to the server, or the preparation of one, failed. -/
inductive Error
  /-- The admin API answered with another status than success. -/
  | api (status : Nat) (url : String) (message : String)
  /-- The token endpoint answered with another status than success. -/
  | authentication (realm : String) (status : Nat) (message : String)
  /-- The request could not be sent, or no answer arrived. -/
  | request (url : String)
  /-- The body of an answer is not of the expected form. -/
  | decode (url : String)
  /-- The server URL is no URL, or nothing can be appended to it. -/
  | invalidUrl (url : String) (cause : Option Url.Error)
  /-- An additional header has an invalid name or value. -/
  | invalidHeader (name : String)
  /-- The settings of the connection cannot be used. -/
  | build (reason : String)
deriving DecidableEq

namespace Error

/-- The text of an error. -/
def message : Error → String
  | .api status url message =>
      "Keycloak API returned HTTP " ++ toString status ++ " for " ++ url ++ ": " ++ message
  | .authentication realm status message =>
      "failed to log in to realm '" ++ realm ++ "' (HTTP " ++ toString status ++ "): " ++ message
  | .request url => "failed to send HTTP request to " ++ url
  | .decode url => "failed to decode response from " ++ url
  | .invalidUrl url _ => "invalid Keycloak URL '" ++ url ++ "'"
  | .invalidHeader name => "invalid additional header '" ++ name ++ "'"
  | .build reason => "failed to build HTTP client: " ++ reason

/-- The status the server answered with, if that is what failed. -/
def status? : Error → Option Nat
  | .api status _ _ => some status
  | .authentication _ status _ => some status
  | _ => none

/-- Whether the admin API does not know the object. -/
def isNotFound : Error → Bool
  | .api status _ _ => status == 404
  | _ => false

/-- Whether a status may be another one later: too many requests, or a failure of the
server. -/
def isTransientStatus (status : Nat) : Bool :=
  status == 429 || (500 ≤ status && status ≤ 599)

/-- Whether the same request may succeed later. -/
def isTransient : Error → Bool
  | .api status _ _ => isTransientStatus status
  | .authentication _ status _ => isTransientStatus status
  | .request _ => true
  | _ => false

end Error

end RealmLookup.Client
