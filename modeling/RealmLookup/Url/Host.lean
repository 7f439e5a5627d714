import RealmLookup.Domain.Basic
import RealmLookup.Url.Address
import RealmLookup.Url.Error

/-!
# Hosts

## Main definitions

* `Host` : a domain, a numeric address, or the unchecked host of a scheme that is not special.
* `Host.parse`, `Host.parseOther` : the host of a special scheme and of any other one.
* `Host.render` : the written form.
-/

namespace RealmLookup.Url

/-- The host of a URL. -/
inductive Host
  | name (text : List Char)
  | ipv4 (address : Nat)
  | ipv6 (pieces : List Nat)
deriving DecidableEq

namespace Host

/-- The written form of a host. -/
def render : Host → List Char
  | .name text => text
  | .ipv4 address => Address.renderIpv4 address
  | .ipv6 pieces => '[' :: (Address.renderIpv6 pieces ++ [']'])

/-- The address between brackets. -/
def bracketed (text : List Char) : Except Error Host :=
  match text.getLast? with
  | some ']' =>
      match Address.ipv6? text.dropLast with
      | some pieces => .ok (.ipv6 pieces)
      | none => .error .invalidIpv6
  | _ => .error .invalidIpv6

/-- The host of a special scheme: an address, or a domain in its ASCII form. -/
def parse (text : List Char) : Except Error Host :=
  match text with
  | '[' :: rest => bracketed rest
  | _ =>
      match Domain.toAscii? (Percent.decodeBytes text) with
      | none => .error .invalidDomain
      | some [] => .error .emptyHost
      | some domain =>
          if Address.endsInNumber domain then
            match Address.ipv4? domain with
            | some address => .ok (.ipv4 address)
            | none => .error .invalidIpv4
          else .ok (.name domain)

/-- The characters that no host holds. -/
def forbidden (c : Char) : Bool :=
  [Char.ofNat 0, '\t', '\n', '\r', ' ', '#', '/', ':', '<', '>', '?', '@', '[', '\\', ']', '^',
    '|'].contains c

/-- The host of a scheme that is not special, with its characters kept as they are. -/
def parseOther (text : List Char) : Except Error Host :=
  match text with
  | '[' :: rest => bracketed rest
  | _ =>
      if text.any forbidden then .error .invalidHostCharacter
      else .ok (.name (Percent.encode Percent.controls text))

end Host

end RealmLookup.Url
