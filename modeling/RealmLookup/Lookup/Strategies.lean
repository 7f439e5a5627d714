import RealmLookup.Admin.Endpoints
import RealmLookup.Kind
import RealmLookup.Lookup.Basic

/-!
# Strategies of the kinds

How the objects of each kind are located in the admin API.  Every strategy reads its
parameters before it fetches anything.

## Main definitions

* `Lookup.Search` : a plan that may fail.
* `Lookup.byExternalName`, `Lookup.byParameters` : the two strategies of a kind.
* `Kind.strategy` : the strategies with the parameters they need.
* `Kind.resolve` : the plan that resolves the identifier of an object.
-/

namespace RealmLookup

open RealmLookup.Admin RealmLookup.Representation

namespace Lookup

/-- A plan that may fail. -/
abbrev Search (α : Type) : Type := ExceptT Error Plan α

variable {α : Type}

/-- A parameter that must be a text. -/
def param (params : Parameters) (key : String) : Search String :=
  ExceptT.mk (.done (params.text key))

/-- A fetch as a step of a search. -/
def ask (fetch : Fetch α) : Search α :=
  ExceptT.mk (Plan.bind fetch fun result => .done (result.mapError .client))

/-- The only match of a list. -/
def single (id : α → String) (items : List α) : Search (Option String) :=
  ExceptT.mk (.done (singleOrNone id items))

/-! ### Owners of protocol mappers -/

/-- The owner that two parameters name; exactly one of them must not be empty. -/
def ownerOf (clientId clientScopeId : String) : Except Error MapperOwner :=
  match clientId.isEmpty, clientScopeId.isEmpty with
  | false, true => .ok (.client clientId)
  | true, false => .ok (.clientScope clientScopeId)
  | true, true =>
      .error (.invalidParameter Param.clientId
        ("one of '" ++ Param.clientId ++ "' or '" ++ Param.clientScopeId ++ "' must be set"))
  | false, false =>
      .error (.invalidParameter Param.clientId
        ("'" ++ Param.clientId ++ "' and '" ++ Param.clientScopeId ++
          "' are mutually exclusive"))

/-- The owner that the parameters name. -/
def owner (params : Parameters) : Search MapperOwner := do
  let clientId ← param params Param.clientId
  let clientScopeId ← param params Param.clientScopeId
  ExceptT.mk (.done (ownerOf clientId clientScopeId))

/-! ### Components -/

/-- What the components of a kind have in common. -/
structure ComponentKind where
  providerType : String
  providerId : String

/-- The RSA key stores of a realm. -/
def rsaKeystore : ComponentKind := ⟨"org.keycloak.keys.KeyProvider", "rsa"⟩

/-- The user federations over LDAP. -/
def ldapFederation : ComponentKind := ⟨"org.keycloak.storage.UserStorageProvider", "ldap"⟩

/-- The only component of a kind and a name directly below the realm. -/
def componentId (realm : String) (kind : ComponentKind) (name : String) :
    Search (Option String) := do
  let found ← ask (components realm ⟨some kind.providerType, some realm, some name⟩)
  single Component.id
    (found.filter fun component =>
      component.providerId == kind.providerId && component.name == name)

/-! ### Subflows and executions -/

/-- The identifiers of the subflows directly below a flow, in the order of its executions. -/
def subflowIds (found : List AuthenticationExecutionInfo) : List String :=
  (found.filter fun execution => execution.authenticationFlow && execution.level == 0).filterMap
    AuthenticationExecutionInfo.flowId

/-- The first of some flows with an alias; no flow behind it is fetched. -/
def firstFlow (realm aliasName : String) : List String → Search (Option String)
  | [] => pure none
  | id :: rest => do
      let flow ← ask (flow realm id)
      if flow.aliasName == aliasName then return some flow.id
      else firstFlow realm aliasName rest

/-- The executions directly below a flow with an authenticator. -/
def executionsOf (authenticator : String) (found : List AuthenticationExecutionInfo) :
    List AuthenticationExecutionInfo :=
  found.filter fun execution =>
    !execution.authenticationFlow && execution.level == 0 &&
      execution.providerId == some authenticator

/-! ### Strategies -/

/-- The identifier of the object that is fetched by an external name. -/
def byExternalName (kind : Kind) (id : String) (params : Parameters) : Search String := do
  match kind with
  | .authenticationFlow => return (← ask (flow (← param params Param.realmId) id)).id
  | .authenticationSubflow => do
      let realm ← param params Param.realmId
      let _ ← param params Param.parentFlowAlias
      return (← ask (flow realm id)).id
  | .authenticationExecution => return (← ask (execution (← param params Param.realmId) id)).id
  | .authenticationExecutionConfig =>
      return (← ask (executionConfig (← param params Param.realmId) id)).id
  | .organization => return (← ask (organization (← param params Param.realm) id)).id
  | .role => return (← ask (role (← param params Param.realmId) id)).id
  | .group => return (← ask (group (← param params Param.realmId) id)).id
  | .openIdClient => return (← ask (client (← param params Param.realmId) id)).id
  | .realmKeystoreRsa => return (← ask (component (← param params Param.realmId) id)).id
  | .ldapUserFederation => return (← ask (component (← param params Param.realmId) id)).id
  | .genericProtocolMapper => do
      let realm ← param params Param.realmId
      let owner ← owner params
      return (← ask (mapper realm owner id)).id

/-- The identifier of the object that is searched by its parameters, if there is one. -/
def byParameters (kind : Kind) (params : Parameters) : Search (Option String) := do
  match kind with
  | .authenticationFlow =>
      let realm ← param params Param.realmId
      let aliasName ← param params Param.aliasName
      return (← ask (flowByAlias realm aliasName)).map AuthenticationFlow.id
  | .authenticationSubflow =>
      let realm ← param params Param.realmId
      let parent ← param params Param.parentFlowAlias
      let aliasName ← param params Param.aliasName
      let found ← ask (executions realm parent)
      firstFlow realm aliasName (subflowIds found)
  | .authenticationExecution =>
      let realm ← param params Param.realmId
      let parent ← param params Param.parentFlowAlias
      let authenticator ← param params Param.authenticator
      let found ← ask (executions realm parent)
      single AuthenticationExecutionInfo.id (executionsOf authenticator found)
  | .authenticationExecutionConfig => return none
  | .organization =>
      let realm ← param params Param.realm
      let name ← param params Param.name
      return (← ask (organizationByName realm name)).map Organization.id
  | .role =>
      let realm ← param params Param.realmId
      let name ← param params Param.name
      let clientId ← param params Param.clientId
      let found ←
        ask (if clientId.isEmpty then realmRole realm name else clientRole realm clientId name)
      return found.map Role.id
  | .group =>
      let realm ← param params Param.realmId
      let name ← param params Param.name
      let parent ← param params Param.parentId
      let found ←
        ask (if parent.isEmpty then topLevelGroups realm name else childGroups realm parent name)
      single Group.id found
  | .openIdClient =>
      let realm ← param params Param.realmId
      let clientId ← param params Param.clientId
      let found ← ask (clientsByClientId realm clientId)
      single Representation.Client.id found
  | .realmKeystoreRsa =>
      let realm ← param params Param.realmId
      let name ← param params Param.name
      componentId realm rsaKeystore name
  | .ldapUserFederation =>
      let realm ← param params Param.realmId
      let name ← param params Param.name
      componentId realm ldapFederation name
  | .genericProtocolMapper =>
      let realm ← param params Param.realmId
      let name ← param params Param.name
      let owner ← owner params
      let found ← ask (mappers realm owner)
      single ProtocolMapper.id (found.filter (·.name == name))

end Lookup

namespace Kind

/-- The strategies of a kind with the parameters they need. -/
def strategy (kind : Kind) : Lookup.Strategy Plan where
  required := kind.required
  optional := kind.optional
  byExternalName id params := (Lookup.byExternalName kind id params).run
  byParameters params := (Lookup.byParameters kind params).run

/-- The plan that resolves the identifier of an object. -/
def resolve (kind : Kind) (externalName : String) (params : Parameters) :
    Plan (Except Lookup.Error (Option String)) :=
  kind.strategy.resolve externalName params

end Kind

end RealmLookup
