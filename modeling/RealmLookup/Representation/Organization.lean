import RealmLookup.Representation.Record

/-!
# Organizations

## Main definitions

* `Organization` : an organization with its domains.
* `OrganizationDomain` : a domain of an organization.
-/

namespace RealmLookup.Representation

open Record

/-- A domain of an organization. -/
structure OrganizationDomain where
  name : String
  verified : Bool
deriving DecidableEq

/-- Reads a domain of an organization. -/
def OrganizationDomain.decode : Decoder OrganizationDomain := fun depth tree => do
  let fields ← open? 2 depth tree
  return {
    name := ← required fields 0 "name" text
    verified := ← optionalFlag fields 1 "verified" }

/-- An organization with its domains. -/
structure Organization where
  id : String
  name : String
  aliasName : Option String
  enabled : Bool
  domains : List OrganizationDomain
deriving DecidableEq

/-- Reads an organization. -/
def Organization.decode : Decoder Organization := fun depth tree => do
  let fields ← open? 5 depth tree
  return {
    id := ← required fields 0 "id" text
    name := ← required fields 1 "name" text
    aliasName := ← optionalText fields 2 "alias"
    enabled := ← optionalFlag fields 3 "enabled"
    domains := ← optional fields 4 "domains" (list OrganizationDomain.decode) [] }

end RealmLookup.Representation
