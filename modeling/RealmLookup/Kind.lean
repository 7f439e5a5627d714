/-!
# Kinds of objects

The kinds of objects whose identifiers can be resolved.  Each has a short name, used on the
command line, and a long name, that of the managed resource; both are accepted.

## Main definitions

* `Kind` : the kinds; `Kind.all` lists them in the order in which they are shown.
* `Kind.name`, `Kind.terraformName` : the short and the long name.
* `Kind.ofName?` : the kind of a name.
* `Kind.required`, `Kind.optional` : the parameters that identify an object of the kind.
-/

namespace RealmLookup

/-- A kind of object. -/
inductive Kind
  | authenticationFlow
  | authenticationSubflow
  | authenticationExecution
  | authenticationExecutionConfig
  | organization
  | role
  | group
  | openIdClient
  | realmKeystoreRsa
  | ldapUserFederation
  | genericProtocolMapper
deriving DecidableEq

/-! ### Parameters -/

namespace Param

def realmId : String := "realm_id"
def realm : String := "realm"
def name : String := "name"
def aliasName : String := "alias"
def parentFlowAlias : String := "parent_flow_alias"
def authenticator : String := "authenticator"
def executionId : String := "execution_id"
def domain : String := "domain"
def clientId : String := "client_id"
def clientScopeId : String := "client_scope_id"
def parentId : String := "parent_id"

end Param

namespace Kind

/-- All kinds, in the order in which they are shown. -/
def all : List Kind :=
  [.authenticationFlow, .authenticationSubflow, .authenticationExecution,
    .authenticationExecutionConfig, .organization, .role, .group, .openIdClient,
    .realmKeystoreRsa, .ldapUserFederation, .genericProtocolMapper]

/-- The parameters that must be given. -/
def required : Kind → List String
  | .authenticationFlow => [Param.realmId, Param.aliasName]
  | .authenticationSubflow => [Param.realmId, Param.parentFlowAlias, Param.aliasName]
  | .authenticationExecution => [Param.realmId, Param.parentFlowAlias, Param.authenticator]
  | .authenticationExecutionConfig => [Param.realmId, Param.executionId]
  | .organization => [Param.realm, Param.name, Param.domain]
  | .role => [Param.realmId, Param.name]
  | .group => [Param.realmId, Param.name]
  | .openIdClient => [Param.realmId, Param.clientId]
  | .realmKeystoreRsa => [Param.realmId, Param.name]
  | .ldapUserFederation => [Param.realmId, Param.name]
  | .genericProtocolMapper => [Param.realmId, Param.name]

/-- The parameters that may be given. -/
def optional : Kind → List String
  | .role => [Param.clientId]
  | .group => [Param.parentId]
  | .genericProtocolMapper => [Param.clientId, Param.clientScopeId]
  | _ => []

/-! ### Names -/

/-- The short name. -/
def name : Kind → String
  | .authenticationFlow => "authentication-flow"
  | .authenticationSubflow => "authentication-subflow"
  | .authenticationExecution => "authentication-execution"
  | .authenticationExecutionConfig => "authentication-execution-config"
  | .organization => "organization"
  | .role => "role"
  | .group => "group"
  | .openIdClient => "openid-client"
  | .realmKeystoreRsa => "realm-keystore-rsa"
  | .ldapUserFederation => "ldap-user-federation"
  | .genericProtocolMapper => "generic-protocol-mapper"

/-- The long name: the short one behind the name of the product, with underscores. -/
def terraformName (kind : Kind) : String :=
  "keycloak_" ++ String.ofList (kind.name.toList.map fun c => if c = '-' then '_' else c)

/-- The kind of a short or long name. -/
def ofName? (name : String) : Option Kind :=
  all.find? fun kind => kind.name == name || kind.terraformName == name

/-- The text of the error for a name without a kind. -/
def unknownMessage (name : String) : String :=
  "unknown resource kind '" ++ name ++ "'"

/-! ### The table of kinds -/

/-- A text filled up with blanks to a width. -/
def pad (width : Nat) (text : String) : String :=
  text ++ String.ofList (List.replicate (width - text.length) ' ')

/-- The line of a kind: its names and its parameters. -/
def line (kind : Kind) : String :=
  pad 32 kind.name ++ " " ++ pad 42 kind.terraformName ++ " required: " ++
    String.intercalate "," kind.required ++
    (if kind.optional.isEmpty then ""
      else " optional: " ++ String.intercalate "," kind.optional) ++ "\n"

/-- One line for each kind. -/
def table : String :=
  String.join (all.map line)

end Kind

end RealmLookup
