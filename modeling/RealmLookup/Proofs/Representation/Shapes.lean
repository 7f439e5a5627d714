import RealmLookup.Proofs.Representation.Record
import RealmLookup.Representation.Basic

/-!
# The shapes of representations

Which objects show a representation: the names of its fields, what shows their values, and which of
them may be left out.  Each representation is read from any object that shows it, and none is read
from an object without a field that has no default.

## Main definitions

* `Representation.Recovers` : the decoders that read a representation from what shows it.
* `AuthenticationFlow.shape`, `Organization.shape`, `Group.shape`, … : what shows a representation.
* `Organization.Deficient`, `Group.Deficient` : the objects in which a field is missing, in
  themselves or below.

## Main results

* `AuthenticationFlow.recovers`, `Organization.recovers`, `Group.recovers`, … : a representation is
  read from what shows it.
-/

namespace RealmLookup.Representation

open RealmLookup.Json

variable {α : Type}

/-- The decoders that read a representation from what shows it, and nothing from what is
deficient. -/
structure Recovers (decode : Decoder α) (shape : Shape α) (deficient : Tree → Prop) : Prop where
  value : Decodes decode shape
  failure : ∀ depth tree, deficient tree → decode depth tree = none

/-! ### Authentication flows -/

/-- The fields of a flow. -/
def AuthenticationFlow.fields (flow : AuthenticationFlow) : List Field :=
  [.required "id" TextShape flow.id,
    .required "alias" TextShape flow.aliasName,
    .optionalText "description" flow.description,
    .optionalText "providerId" flow.providerId,
    .optionalFlag "topLevel" flow.topLevel,
    .optionalFlag "builtIn" flow.builtIn]

/-- What shows a flow. -/
def AuthenticationFlow.shape : Shape AuthenticationFlow :=
  fun depth flow => RecordShape flow.fields depth

theorem AuthenticationFlow.recovers :
    Recovers AuthenticationFlow.decode AuthenticationFlow.shape (LacksOne ["id", "alias"]) where
  value depth flow tree shape := by
    refine some_of_shape shape (by simp [fields]) fun opened found => ?_
    simp only [fields, List.forall_mem_cons] at found
    obtain ⟨id, aliasName, description, providerId, topLevel, builtIn, -⟩ := found
    simp only [required_of_found decodes_text id, required_of_found decodes_text aliasName,
      optionalText_of_found description, optionalText_of_found providerId,
      optionalFlag_of_found topLevel, optionalFlag_of_found builtIn]
    rfl
  failure depth tree deficient := by
    refine none_of_lacksOne deficient fun name required opened absent => ?_
    simp only [List.mem_cons, List.not_mem_nil, or_false] at required
    rcases required with rfl | rfl <;> simp [required_of_absent absent]

/-- The fields of an entry of a list of executions. -/
def AuthenticationExecutionInfo.fields (info : AuthenticationExecutionInfo) : List Field :=
  [.required "id" TextShape info.id,
    .optionalText "requirement" info.requirement,
    .optionalText "displayName" info.displayName,
    .optionalFlag "authenticationFlow" info.authenticationFlow,
    .optionalText "providerId" info.providerId,
    .optionalText "flowId" info.flowId,
    .optional "level" Unsigned32Shape 0 info.level,
    .optional "index" Signed32Shape 0 info.index]

/-- What shows an entry of a list of executions. -/
def AuthenticationExecutionInfo.shape : Shape AuthenticationExecutionInfo :=
  fun depth info => RecordShape info.fields depth

theorem AuthenticationExecutionInfo.recovers :
    Recovers AuthenticationExecutionInfo.decode AuthenticationExecutionInfo.shape
      (LacksOne ["id"]) where
  value depth info tree shape := by
    refine some_of_shape shape (by simp [fields]) fun opened found => ?_
    simp only [fields, List.forall_mem_cons] at found
    obtain ⟨id, requirement, displayName, authenticationFlow, providerId, flowId, level, index,
      -⟩ := found
    simp only [required_of_found decodes_text id, optionalText_of_found requirement,
      optionalText_of_found displayName, optionalFlag_of_found authenticationFlow,
      optionalText_of_found providerId, optionalText_of_found flowId,
      optional_of_found decodes_unsigned32 level, optional_of_found decodes_signed32 index]
    rfl
  failure depth tree deficient := by
    refine none_of_lacksOne deficient fun name required opened absent => ?_
    obtain rfl := List.mem_singleton.1 required
    simp [required_of_absent absent]

/-- The fields of a single execution. -/
def AuthenticationExecution.fields (execution : AuthenticationExecution) : List Field :=
  [.required "id" TextShape execution.id,
    .optionalText "authenticator" execution.authenticator,
    .optionalText "parentFlow" execution.parentFlow,
    .optionalText "requirement" execution.requirement,
    .optional "priority" (NullableShape Signed32Shape) none execution.priority]

/-- What shows a single execution. -/
def AuthenticationExecution.shape : Shape AuthenticationExecution :=
  fun depth execution => RecordShape execution.fields depth

theorem AuthenticationExecution.recovers :
    Recovers AuthenticationExecution.decode AuthenticationExecution.shape (LacksOne ["id"]) where
  value depth execution tree shape := by
    refine some_of_shape shape (by simp [fields]) fun opened found => ?_
    simp only [fields, List.forall_mem_cons] at found
    obtain ⟨id, authenticator, parentFlow, requirement, priority, -⟩ := found
    have decodes_priority :
        Decodes (Record.nullable Record.signed32) (NullableShape Signed32Shape) :=
      decodes_nullable decodes_signed32 fun _ _ shows => by cases shows
    simp only [required_of_found decodes_text id, optionalText_of_found authenticator,
      optionalText_of_found parentFlow, optionalText_of_found requirement,
      optional_of_found decodes_priority priority]
    rfl
  failure depth tree deficient := by
    refine none_of_lacksOne deficient fun name required opened absent => ?_
    obtain rfl := List.mem_singleton.1 required
    simp [required_of_absent absent]

/-- The fields of the settings of an execution. -/
def AuthenticationExecutionConfig.fields (settings : AuthenticationExecutionConfig) : List Field :=
  [.required "id" TextShape settings.id,
    .optionalText "alias" settings.aliasName,
    .optional "config" (TableShape TextShape) [] settings.config]

/-- What shows the settings of an execution. -/
def AuthenticationExecutionConfig.shape : Shape AuthenticationExecutionConfig :=
  fun depth settings => RecordShape settings.fields depth

theorem AuthenticationExecutionConfig.recovers :
    Recovers AuthenticationExecutionConfig.decode AuthenticationExecutionConfig.shape
      (LacksOne ["id"]) where
  value depth settings tree shape := by
    refine some_of_shape shape (by simp [fields]) fun opened found => ?_
    simp only [fields, List.forall_mem_cons] at found
    obtain ⟨id, aliasName, config, -⟩ := found
    simp only [required_of_found decodes_text id, optionalText_of_found aliasName,
      optional_of_found (decodes_table decodes_text) config]
    rfl
  failure depth tree deficient := by
    refine none_of_lacksOne deficient fun name required opened absent => ?_
    obtain rfl := List.mem_singleton.1 required
    simp [required_of_absent absent]

/-! ### Organizations -/

/-- The fields of a domain of an organization. -/
def OrganizationDomain.fields (domain : OrganizationDomain) : List Field :=
  [.required "name" TextShape domain.name,
    .optionalFlag "verified" domain.verified]

/-- What shows a domain of an organization. -/
def OrganizationDomain.shape : Shape OrganizationDomain :=
  fun depth domain => RecordShape domain.fields depth

theorem OrganizationDomain.recovers :
    Recovers OrganizationDomain.decode OrganizationDomain.shape (LacksOne ["name"]) where
  value depth domain tree shape := by
    refine some_of_shape shape (by simp [fields]) fun opened found => ?_
    simp only [fields, List.forall_mem_cons] at found
    obtain ⟨name, verified, -⟩ := found
    simp only [required_of_found decodes_text name, optionalFlag_of_found verified]
    rfl
  failure depth tree deficient := by
    refine none_of_lacksOne deficient fun name required opened absent => ?_
    obtain rfl := List.mem_singleton.1 required
    simp [required_of_absent absent]

/-- The fields of an organization. -/
def Organization.fields (organization : Organization) : List Field :=
  [.required "id" TextShape organization.id,
    .required "name" TextShape organization.name,
    .optionalText "alias" organization.aliasName,
    .optionalFlag "enabled" organization.enabled,
    .optional "domains" (ListShape OrganizationDomain.shape) [] organization.domains]

/-- What shows an organization. -/
def Organization.shape : Shape Organization :=
  fun depth organization => RecordShape organization.fields depth

/-- The objects that lack a field of an organization, or list a domain that lacks one. -/
inductive Organization.Deficient : Tree → Prop
  | lacks {tree : Tree} (lacks : LacksOne ["id", "name"] tree) : Deficient tree
  | domain {members : List (List Piece × Tree)} {key : List Piece} {items : List Tree}
      {item : Tree} (listed : (key, .array items) ∈ members)
      (denotes : Denotes key "domains".toList) (member : item ∈ items)
      (lacks : LacksOne ["name"] item) : Deficient (.object members)

theorem Organization.recovers :
    Recovers Organization.decode Organization.shape Organization.Deficient where
  value depth organization tree shape := by
    refine some_of_shape shape (by simp [fields]) fun opened found => ?_
    simp only [fields, List.forall_mem_cons] at found
    obtain ⟨id, name, aliasName, enabled, domains, -⟩ := found
    simp only [required_of_found decodes_text id, required_of_found decodes_text name,
      optionalText_of_found aliasName, optionalFlag_of_found enabled,
      optional_of_found (decodes_list OrganizationDomain.recovers.value) domains]
    rfl
  failure depth tree deficient := by
    cases deficient with
    | lacks lacks =>
      refine none_of_lacksOne lacks fun name required opened absent => ?_
      simp only [List.mem_cons, List.not_mem_nil, or_false] at required
      rcases required with rfl | rfl <;> simp [required_of_absent absent]
    | @domain members key items item listed denotes member lacks =>
      refine none_of_part listed denotes fun opened found => ?_
      have unread : Record.list OrganizationDomain.decode opened.1 (.array items) = none := by
        cases opened.1 with
        | zero => rfl
        | succ depth =>
          exact mapM_eq_none member (OrganizationDomain.recovers.failure depth item lacks)
      simp [optional_of_unread (found _) unread]

/-! ### Groups -/

/-- The fields of a group, given what shows the groups below it. -/
def Group.fields (below : Shape (List Group)) (group : Group) : List Field :=
  [.required "id" TextShape group.id,
    .required "name" TextShape group.name,
    .optionalText "path" group.path,
    .optionalText "parentId" group.parentId,
    .optional "subGroups" below [] group.subGroups]

/-- What shows a group.  A group and the list of the groups below it are two containers. -/
def Group.shape : Shape Group
  | 0, _, _ => False
  | 1, group, tree => RecordShape (group.fields fun _ _ _ => False) 1 tree
  | depth + 2, group, tree =>
      RecordShape (group.fields (ListShape fun _ => Group.shape depth)) (depth + 2) tree

/-- The objects that lack a field of a group, or list such an object below. -/
inductive Group.Deficient : Tree → Prop
  | lacks {tree : Tree} (lacks : LacksOne ["id", "name"] tree) : Deficient tree
  | nested {members : List (List Piece × Tree)} {key : List Piece} {items : List Tree}
      {item : Tree} (listed : (key, .array items) ∈ members)
      (denotes : Denotes key "subGroups".toList) (member : item ∈ items)
      (deficient : Deficient item) : Deficient (.object members)

/-- A group is read if the groups below it are. -/
theorem Group.decodes_decodeWith {decode : Decoder (List Group)} {below : Shape (List Group)}
    (decodes : Decodes decode below) {depth : Nat} {group : Group} {tree : Tree}
    (shape : RecordShape (group.fields below) depth tree) :
    Group.decodeWith decode depth tree = some group := by
  refine some_of_shape shape (by simp [fields]) fun opened found => ?_
  simp only [fields, List.forall_mem_cons] at found
  obtain ⟨id, name, path, parentId, subGroups, -⟩ := found
  simp only [required_of_found decodes_text id, required_of_found decodes_text name,
    optionalText_of_found path, optionalText_of_found parentId, optional_of_found decodes subGroups]
  cases group
  rfl

theorem Group.decodeWith_of_lacks {decode : Decoder (List Group)} {depth : Nat} {tree : Tree}
    (deficient : LacksOne ["id", "name"] tree) : Group.decodeWith decode depth tree = none := by
  refine none_of_lacksOne deficient fun name required opened absent => ?_
  simp only [List.mem_cons, List.not_mem_nil, or_false] at required
  rcases required with rfl | rfl <;> simp [required_of_absent absent]

theorem Group.decodeWith_of_unread {decode : Decoder (List Group)} {depth : Nat}
    {members : List (List Piece × Tree)} {key : List Piece} {tree : Tree}
    (listed : (key, tree) ∈ members) (denotes : Denotes key "subGroups".toList)
    (unread : ∀ depth, decode depth tree = none) :
    Group.decodeWith decode depth (.object members) = none := by
  refine none_of_part listed denotes fun opened found => ?_
  simp [optional_of_unread (found _) (unread _)]

theorem Group.recovers : Recovers Group.decode Group.shape Group.Deficient where
  value depth group tree shape := by
    induction depth using Nat.twoStepInduction generalizing group tree with
    | zero => cases shape
    | one => exact decodes_decodeWith (fun _ _ _ never => never.elim) shape
    | more depth ih _ =>
      refine decodes_decodeWith ?_ shape
      rintro _ groups _ ⟨shows⟩
      exact mapM_of_forall₂ (shows.imp fun group tree shows => ih group tree shows)
  failure depth tree deficient := by
    induction deficient generalizing depth with
    | lacks lacks =>
      match depth with
      | 0 => rfl
      | 1 => exact decodeWith_of_lacks lacks
      | depth + 2 => exact decodeWith_of_lacks lacks
    | nested listed denotes member _ ih =>
      match depth with
      | 0 => rfl
      | 1 => exact decodeWith_of_unread listed denotes fun _ => rfl
      | depth + 2 =>
        exact decodeWith_of_unread listed denotes fun _ => mapM_eq_none member (ih depth)

/-! ### Other objects -/

/-- The fields of a role. -/
def Role.fields (role : Role) : List Field :=
  [.required "id" TextShape role.id,
    .required "name" TextShape role.name,
    .optionalFlag "clientRole" role.clientRole,
    .optionalText "containerId" role.containerId,
    .optionalFlag "composite" role.composite]

/-- What shows a role. -/
def Role.shape : Shape Role :=
  fun depth role => RecordShape role.fields depth

theorem Role.recovers :
    Recovers Role.decode Role.shape (LacksOne ["id", "name"]) where
  value depth role tree shape := by
    refine some_of_shape shape (by simp [fields]) fun opened found => ?_
    simp only [fields, List.forall_mem_cons] at found
    obtain ⟨id, name, clientRole, containerId, composite, -⟩ := found
    simp only [required_of_found decodes_text id, required_of_found decodes_text name,
      optionalFlag_of_found clientRole, optionalText_of_found containerId,
      optionalFlag_of_found composite]
    rfl
  failure depth tree deficient := by
    refine none_of_lacksOne deficient fun name required opened absent => ?_
    simp only [List.mem_cons, List.not_mem_nil, or_false] at required
    rcases required with rfl | rfl <;> simp [required_of_absent absent]

/-- The fields of a client. -/
def Client.fields (client : Client) : List Field :=
  [.required "id" TextShape client.id,
    .required "clientId" TextShape client.clientId,
    .optionalText "protocol" client.protocol,
    .optionalFlag "enabled" client.enabled]

/-- What shows a client. -/
def Client.shape : Shape Client :=
  fun depth client => RecordShape client.fields depth

theorem Client.recovers :
    Recovers Client.decode Client.shape (LacksOne ["id", "clientId"]) where
  value depth client tree shape := by
    refine some_of_shape shape (by simp [fields]) fun opened found => ?_
    simp only [fields, List.forall_mem_cons] at found
    obtain ⟨id, clientId, protocol, enabled, -⟩ := found
    simp only [required_of_found decodes_text id, required_of_found decodes_text clientId,
      optionalText_of_found protocol, optionalFlag_of_found enabled]
    rfl
  failure depth tree deficient := by
    refine none_of_lacksOne deficient fun name required opened absent => ?_
    simp only [List.mem_cons, List.not_mem_nil, or_false] at required
    rcases required with rfl | rfl <;> simp [required_of_absent absent]

/-- The fields of a component. -/
def Component.fields (component : Component) : List Field :=
  [.required "id" TextShape component.id,
    .required "name" TextShape component.name,
    .required "providerId" TextShape component.providerId,
    .optionalText "providerType" component.providerType,
    .optionalText "parentId" component.parentId,
    .optional "config" (TableShape (ListShape TextShape)) [] component.config]

/-- What shows a component. -/
def Component.shape : Shape Component :=
  fun depth component => RecordShape component.fields depth

theorem Component.recovers :
    Recovers Component.decode Component.shape (LacksOne ["id", "name", "providerId"]) where
  value depth component tree shape := by
    refine some_of_shape shape (by simp [fields]) fun opened found => ?_
    simp only [fields, List.forall_mem_cons] at found
    obtain ⟨id, name, providerId, providerType, parentId, config, -⟩ := found
    simp only [required_of_found decodes_text id, required_of_found decodes_text name,
      required_of_found decodes_text providerId, optionalText_of_found providerType,
      optionalText_of_found parentId,
      optional_of_found (decodes_table (decodes_list decodes_text)) config]
    rfl
  failure depth tree deficient := by
    refine none_of_lacksOne deficient fun name required opened absent => ?_
    simp only [List.mem_cons, List.not_mem_nil, or_false] at required
    rcases required with rfl | rfl | rfl <;> simp [required_of_absent absent]

/-- The fields of a protocol mapper. -/
def ProtocolMapper.fields (mapper : ProtocolMapper) : List Field :=
  [.required "id" TextShape mapper.id,
    .required "name" TextShape mapper.name,
    .optionalText "protocol" mapper.protocol,
    .optionalText "protocolMapper" mapper.protocolMapper,
    .optional "config" (TableShape TextShape) [] mapper.config]

/-- What shows a protocol mapper. -/
def ProtocolMapper.shape : Shape ProtocolMapper :=
  fun depth mapper => RecordShape mapper.fields depth

theorem ProtocolMapper.recovers :
    Recovers ProtocolMapper.decode ProtocolMapper.shape (LacksOne ["id", "name"]) where
  value depth mapper tree shape := by
    refine some_of_shape shape (by simp [fields]) fun opened found => ?_
    simp only [fields, List.forall_mem_cons] at found
    obtain ⟨id, name, protocol, protocolMapper, config, -⟩ := found
    simp only [required_of_found decodes_text id, required_of_found decodes_text name,
      optionalText_of_found protocol, optionalText_of_found protocolMapper,
      optional_of_found (decodes_table decodes_text) config]
    rfl
  failure depth tree deficient := by
    refine none_of_lacksOne deficient fun name required opened absent => ?_
    simp only [List.mem_cons, List.not_mem_nil, or_false] at required
    rcases required with rfl | rfl <;> simp [required_of_absent absent]

end RealmLookup.Representation
