import RealmLookup.Admin.Plan
import RealmLookup.Representation.Basic

/-!
# Endpoints of the admin API

The resources of the admin API that are read, by kind of object: an object by its identifier,
and the objects that match a name.  Where the server searches more widely than by equal names,
the objects are filtered here.

## Main definitions

* `Admin.flow`, `Admin.role`, `Admin.group`, … : an object by its identifier.
* `Admin.flowByAlias`, `Admin.realmRole`, `Admin.topLevelGroups`, … : objects by name.
* `Admin.ComponentQuery`, `Admin.components` : components by filters.
-/

namespace RealmLookup.Admin

open RealmLookup.Representation

/-- A plan for the realm of a resource that may fail. -/
abbrev Fetch (α : Type) : Type := Plan (Except Client.Error α)

variable {α β : Type} (realm : String)

/-- The value of a fetch, changed by a function. -/
def Fetch.map (f : α → β) (fetch : Fetch α) : Fetch β :=
  Plan.bind fetch fun result => .done (result.map f)

/-- Fetches a resource of the realm. -/
def get (decoder : Decoder α) (segments : List String) (query : List (String × String)) :
    Fetch α :=
  Plan.get decoder ⟨realm, segments, query⟩

/-- The query for an exact name. -/
def exactly (name : String) : List (String × String) :=
  [("search", name), ("exact", "true")]

/-! ### Authentication flows -/

/-- A flow or subflow by its identifier. -/
def flow (id : String) : Fetch AuthenticationFlow :=
  get realm AuthenticationFlow.decode ["authentication", "flows", id] []

/-- The top-level flows. -/
def flows : Fetch (List AuthenticationFlow) :=
  get realm (Record.list AuthenticationFlow.decode) ["authentication", "flows"] []

/-- The first top-level flow of an alias. -/
def flowByAlias (aliasName : String) : Fetch (Option AuthenticationFlow) :=
  (flows realm).map fun found => found.find? (·.aliasName == aliasName)

/-- The executions and subflows of a flow, nested ones included. -/
def executions (flowAlias : String) : Fetch (List AuthenticationExecutionInfo) :=
  get realm (Record.list AuthenticationExecutionInfo.decode)
    ["authentication", "flows", flowAlias, "executions"] []

/-- An execution by its identifier. -/
def execution (id : String) : Fetch AuthenticationExecution :=
  get realm AuthenticationExecution.decode ["authentication", "executions", id] []

/-- The settings of an execution by their identifier. -/
def executionConfig (id : String) : Fetch AuthenticationExecutionConfig :=
  get realm AuthenticationExecutionConfig.decode ["authentication", "config", id] []

/-! ### Organizations -/

/-- An organization by its identifier. -/
def organization (id : String) : Fetch Organization :=
  get realm Organization.decode ["organizations", id] []

/-- The first organization of a name. -/
def organizationByName (name : String) : Fetch (Option Organization) :=
  (get realm (Record.list Organization.decode) ["organizations"] (exactly name)).map
    fun found => found.find? (·.name == name)

/-! ### Roles -/

/-- A role of the realm or of a client by its identifier. -/
def role (id : String) : Fetch Role :=
  get realm Role.decode ["roles-by-id", id] []

/-- A role of the realm by its name. -/
def realmRole (name : String) : Fetch (Option Role) :=
  Plan.getOptional Role.decode ⟨realm, ["roles", name], []⟩

/-- A role of a client by its name. -/
def clientRole (client name : String) : Fetch (Option Role) :=
  Plan.getOptional Role.decode ⟨realm, ["clients", client, "roles", name], []⟩

/-! ### Groups -/

/-- A group by its identifier. -/
def group (id : String) : Fetch Group :=
  get realm Group.decode ["groups", id] []

/-- The top-level groups of a name. -/
def topLevelGroups (name : String) : Fetch (List Group) :=
  (get realm (Record.list Group.decode) ["groups"] (exactly name)).map
    fun found => found.filter (·.name == name)

/-- The groups of a name directly below another one. -/
def childGroups (parent name : String) : Fetch (List Group) :=
  (get realm (Record.list Group.decode) ["groups", parent, "children"] (exactly name)).map
    fun found => found.filter (·.name == name)

/-! ### Clients -/

/-- A client by its internal identifier. -/
def client (id : String) : Fetch Client :=
  get realm Representation.Client.decode ["clients", id] []

/-- The clients that their protocol knows by an identifier. -/
def clientsByClientId (clientId : String) : Fetch (List Representation.Client) :=
  (get realm (Record.list Representation.Client.decode) ["clients"] [("clientId", clientId)]).map
    fun found => found.filter (·.clientId == clientId)

/-! ### Components -/

/-- The filters of a list of components; an absent one is not sent. -/
structure ComponentQuery where
  providerType : Option String
  parent : Option String
  name : Option String

/-- The query of filters. -/
def ComponentQuery.pairs (query : ComponentQuery) : List (String × String) :=
  (query.providerType.map (("type", ·))).toList ++ (query.parent.map (("parent", ·))).toList ++
    (query.name.map (("name", ·))).toList

/-- A component by its identifier. -/
def component (id : String) : Fetch Component :=
  get realm Component.decode ["components", id] []

/-- The components that match filters. -/
def components (query : ComponentQuery) : Fetch (List Component) :=
  get realm (Record.list Component.decode) ["components"] query.pairs

/-! ### Protocol mappers -/

/-- A protocol mapper of an owner by its identifier. -/
def mapper (owner : MapperOwner) (id : String) : Fetch ProtocolMapper :=
  get realm ProtocolMapper.decode (owner.segments ++ ["protocol-mappers", "models", id]) []

/-- The protocol mappers of an owner. -/
def mappers (owner : MapperOwner) : Fetch (List ProtocolMapper) :=
  get realm (Record.list ProtocolMapper.decode)
    (owner.segments ++ ["protocol-mappers", "models"]) []

end RealmLookup.Admin
