import RealmLookup.Representation.Authentication
import RealmLookup.Representation.Group
import RealmLookup.Representation.Organization

/-!
# Representations

The representations of the remaining kinds of objects.

## Main definitions

* `Role`, `Client`, `Component`, `ProtocolMapper` : the objects.
* `MapperOwner` : what a protocol mapper belongs to.
-/

namespace RealmLookup.Representation

open Record

/-- A role of a realm or of a client. -/
structure Role where
  id : String
  name : String
  clientRole : Bool
  containerId : Option String
  composite : Bool
deriving DecidableEq

/-- Reads a role. -/
def Role.decode : Decoder Role := fun depth tree => do
  let fields ← open? 5 depth tree
  return {
    id := ← required fields 0 "id" text
    name := ← required fields 1 "name" text
    clientRole := ← optionalFlag fields 2 "clientRole"
    containerId := ← optionalText fields 3 "containerId"
    composite := ← optionalFlag fields 4 "composite" }

/-- A client: its internal identifier, and the one that its protocol knows it by. -/
structure Client where
  id : String
  clientId : String
  protocol : Option String
  enabled : Bool
deriving DecidableEq

/-- Reads a client. -/
def Client.decode : Decoder Client := fun depth tree => do
  let fields ← open? 4 depth tree
  return {
    id := ← required fields 0 "id" text
    clientId := ← required fields 1 "clientId" text
    protocol := ← optionalText fields 2 "protocol"
    enabled := ← optionalFlag fields 3 "enabled" }

/-- A component, such as a provider of keys or of users. -/
structure Component where
  id : String
  name : String
  providerId : String
  providerType : Option String
  parentId : Option String
  config : Table (List String)
deriving DecidableEq

/-- Reads a component. -/
def Component.decode : Decoder Component := fun depth tree => do
  let fields ← open? 6 depth tree
  return {
    id := ← required fields 0 "id" text
    name := ← required fields 1 "name" text
    providerId := ← required fields 2 "providerId" text
    providerType := ← optionalText fields 3 "providerType"
    parentId := ← optionalText fields 4 "parentId"
    config := ← optional fields 5 "config" (table (list text)) [] }

/-- A protocol mapper. -/
structure ProtocolMapper where
  id : String
  name : String
  protocol : Option String
  protocolMapper : Option String
  config : Table String
deriving DecidableEq

/-- Reads a protocol mapper. -/
def ProtocolMapper.decode : Decoder ProtocolMapper := fun depth tree => do
  let fields ← open? 5 depth tree
  return {
    id := ← required fields 0 "id" text
    name := ← required fields 1 "name" text
    protocol := ← optionalText fields 2 "protocol"
    protocolMapper := ← optionalText fields 3 "protocolMapper"
    config := ← optional fields 4 "config" (table text) [] }

/-- What a protocol mapper belongs to, by its identifier. -/
inductive MapperOwner
  | client (id : String)
  | clientScope (id : String)
deriving DecidableEq

/-- The path segments of the owner in the admin API. -/
def MapperOwner.segments : MapperOwner → List String
  | .client id => ["clients", id]
  | .clientScope id => ["client-scopes", id]

end RealmLookup.Representation
