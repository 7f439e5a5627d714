/-!
# URL errors

## Main definitions

* `Url.Error` : why a text is no URL.
* `Url.Error.message` : its text.
-/

namespace RealmLookup.Url

/-- Why a text is no URL. -/
inductive Error
  | emptyHost
  | invalidDomain
  | invalidPort
  | invalidIpv4
  | invalidIpv6
  | invalidHostCharacter
  | relativeWithoutBase
deriving DecidableEq

/-- The text of an error. -/
def Error.message : Error → String
  | .emptyHost => "empty host"
  | .invalidDomain => "invalid international domain name"
  | .invalidPort => "invalid port number"
  | .invalidIpv4 => "invalid IPv4 address"
  | .invalidIpv6 => "invalid IPv6 address"
  | .invalidHostCharacter => "invalid domain character"
  | .relativeWithoutBase => "relative URL without a base"

end RealmLookup.Url
