import RealmLookup.Admin.Endpoints
import Mathlib.Tactic.Common

/-!
# Addresses of objects

An object is fetched by its identifier at the endpoint of its type.  All these endpoints are alike:
the identifier is the last segment of the path, behind segments that name the endpoint and, for
protocol mappers, the owner.

## Main definitions

* `Admin.Endpoint` : the endpoints at which an object is fetched by its identifier.
* `Admin.Address` : a realm, an endpoint of it, and an identifier there.
* `Admin.Address.fetch` : fetching the object of an address.

## Main results

* `Admin.Address.fetch_eq` : fetching an object asks for the resource of its address.
* `Admin.Address.path_injective` : no two addresses have the same path.
-/

namespace RealmLookup.Admin

open RealmLookup.Representation

/-! ### Endpoints -/

/-- The endpoints at which an object is fetched by its identifier. -/
inductive Endpoint
  | flow
  | execution
  | executionConfig
  | organization
  | role
  | group
  | client
  | component
  | mapper (owner : MapperOwner)
deriving DecidableEq

namespace Endpoint

/-- The segments between realm and identifier. -/
def segments : Endpoint → List String
  | flow => ["authentication", "flows"]
  | execution => ["authentication", "executions"]
  | executionConfig => ["authentication", "config"]
  | organization => ["organizations"]
  | role => ["roles-by-id"]
  | group => ["groups"]
  | client => ["clients"]
  | component => ["components"]
  | mapper owner => owner.segments ++ ["protocol-mappers", "models"]

/-- What the objects are. -/
def Object : Endpoint → Type
  | flow => AuthenticationFlow
  | execution => AuthenticationExecution
  | executionConfig => AuthenticationExecutionConfig
  | organization => Organization
  | role => Role
  | group => Group
  | client => Representation.Client
  | component => Component
  | mapper _ => ProtocolMapper

/-- How the objects are read. -/
def decoder : (endpoint : Endpoint) → Decoder endpoint.Object
  | flow => AuthenticationFlow.decode
  | execution => AuthenticationExecution.decode
  | executionConfig => AuthenticationExecutionConfig.decode
  | organization => Organization.decode
  | role => Role.decode
  | group => Group.decode
  | client => Representation.Client.decode
  | component => Component.decode
  | mapper _ => ProtocolMapper.decode

/-- The identifier that an object reports. -/
def id : (endpoint : Endpoint) → endpoint.Object → String
  | flow => AuthenticationFlow.id
  | execution => AuthenticationExecution.id
  | executionConfig => AuthenticationExecutionConfig.id
  | organization => Organization.id
  | role => Role.id
  | group => Group.id
  | client => Representation.Client.id
  | component => Component.id
  | mapper _ => ProtocolMapper.id

/-- Fetching the object of an identifier in a realm. -/
def fetch : (endpoint : Endpoint) → (realm id : String) → Fetch endpoint.Object
  | flow => Admin.flow
  | execution => Admin.execution
  | executionConfig => Admin.executionConfig
  | organization => Admin.organization
  | role => Admin.role
  | group => Admin.group
  | client => Admin.client
  | component => Admin.component
  | mapper owner => fun realm => Admin.mapper realm owner

theorem segments_injective : Function.Injective segments := by
  intro endpoint other same
  rcases endpoint with _ | _ | _ | _ | _ | _ | _ | _ | (_ | _) <;>
    rcases other with _ | _ | _ | _ | _ | _ | _ | _ | (_ | _) <;>
      simp_all [segments, MapperOwner.segments]

/-- The first segment of an endpoint is a name. -/
theorem segments_eq_cons (endpoint : Endpoint) :
    ∃ name rest, endpoint.segments = name :: rest ∧
      name ∈ ["authentication", "organizations", "roles-by-id", "groups", "clients",
        "client-scopes", "components"] := by
  rcases endpoint with _ | _ | _ | _ | _ | _ | _ | _ | (_ | _) <;> exact ⟨_, _, rfl, by simp⟩

end Endpoint

/-! ### Addresses -/

/-- A realm, an endpoint of it, and an identifier there. -/
structure Address where
  realm : String
  endpoint : Endpoint
  id : String
deriving DecidableEq

namespace Address

/-- The resource of an address. -/
def resource (address : Address) : Resource :=
  ⟨address.realm, address.endpoint.segments ++ [address.id], []⟩

/-- Fetching the object of an address. -/
def fetch (address : Address) : Fetch address.endpoint.Object :=
  address.endpoint.fetch address.realm address.id

/-- Fetching an object asks for the resource of its address. -/
theorem fetch_eq (address : Address) :
    address.fetch = Plan.get address.endpoint.decoder address.resource := by
  obtain ⟨realm, endpoint, id⟩ := address
  cases endpoint with
  | mapper owner => cases owner <;> rfl
  | _ => rfl

/-- No two addresses have the same path. -/
theorem path_injective : Function.Injective fun address : Address => address.resource.path := by
  rintro ⟨realm, endpoint, id⟩ ⟨other, point, name⟩ same
  obtain ⟨rfl, same⟩ := List.cons.inj (List.cons.inj (List.cons.inj same).2).2
  obtain ⟨segments, last⟩ := List.append_inj' same rfl
  obtain rfl := Endpoint.segments_injective segments
  obtain rfl := (List.cons.inj last).1
  rfl

end Address

end RealmLookup.Admin
