import RealmLookup.Proofs.Lookup.Stability

/-!
# Validation of parameters

Strategies read their parameters before they ask for anything.  A strategy whose parameters are
wrong ends at once, in the error of the first parameter that it cannot use, and no strategy reports
an error of parameters for any other reason.  So a lookup whose parameters are wrong has asked for
nothing, or only for the object of its external name, and found that it is gone.

## Main definitions

* `Kind.namedBy`, `Kind.searchedBy` : the parameters that the two strategies of a kind read.
* `Kind.Unfit` : parameters that a strategy cannot use.
* `Kind.rejection?` : the error of the first parameter that a strategy cannot use.
* `Lookup.Validates` : searches that end in such an error at once, or in none of parameters.
* `Kind.MapperResource` : the resources of the one owner of protocol mappers that is named.
* `Session.Validated` : runs of lookups whose parameters are validated.

## Main results

* `Lookup.validates_byExternalName`, `Lookup.validates_byParameters` : both strategies of every
  kind validate.
* `Kind.trace_resolve_ofParameter` : what a lookup with wrong parameters has asked for.
* `Session.run_validated` : no run asks for anything before its parameters are validated.
-/

namespace RealmLookup

open RealmLookup.Admin RealmLookup.Admin.Plan RealmLookup.Lookup RealmLookup.Representation

/-! ### Errors of parameters -/

/-- Whether an error is one of parameters. -/
def Lookup.Error.ofParameter : Error → Bool
  | .missingParameter _ | .invalidParameter _ _ => true
  | _ => false

/-- No error of parameters says that an object is missing. -/
theorem Lookup.Error.isNotFound_of_ofParameter {error : Error} (wrong : error.ofParameter = true) :
    error.isNotFound = false := by
  cases error with
  | client error => cases wrong
  | _ => rfl

namespace Parameters

variable {params : Parameters} {key text : String} {last : Option Error} {error : Error}

theorem text_eq_ok_iff : params.text key = .ok text ↔ params.get? key = some (.string text) := by
  unfold Parameters.text
  split
  · rename_i found given
    rw [given]
    simp
  · rename_i other given
    rw [given]
    simpa using other text
  · rename_i given
    rw [given]
    simp

theorem ofParameter_of_text (given : params.text key = .error error) :
    error.ofParameter = true := by
  unfold Parameters.text at given
  split at given
  · cases given
  · cases given
    rfl
  · cases given
    rfl

theorem get?_of_missing {read : String}
    (given : params.text key = .error (.missingParameter read)) :
    params.get? key = none := by
  unfold Parameters.text at given
  split at given
  · cases given
  · cases given
  · rename_i absent
    exact absent

/-- The error of the first of some parameters that is no text, or else the one that is given. -/
def rejection? (params : Parameters) (last : Option Error) : List String → Option Error
  | [] => last
  | key :: rest =>
      match params.text key with
      | .ok _ => params.rejection? last rest
      | .error error => some error

/-- Texts are not rejected. -/
theorem rejection?_of_texts {reads : List String}
    (texts : ∀ key ∈ reads, ∃ text, params.text key = .ok text) :
    params.rejection? last reads = last := by
  induction reads with
  | nil => rfl
  | cons key rest ih =>
    obtain ⟨⟨text, given⟩, texts⟩ := List.forall_mem_cons.1 texts
    rw [rejection?, given]
    exact ih texts

/-- What is not rejected are texts. -/
theorem text_of_rejection? {reads : List String} (accepted : params.rejection? last reads = none) :
    last = none ∧ ∀ key ∈ reads, ∃ text, params.text key = .ok text := by
  induction reads with
  | nil => exact ⟨accepted, List.forall_mem_nil _⟩
  | cons key rest ih =>
    rw [rejection?] at accepted
    cases given : params.text key with
    | error error =>
      rw [given] at accepted
      cases accepted
    | ok text =>
      rw [given] at accepted
      obtain ⟨none, texts⟩ := ih accepted
      exact ⟨none, List.forall_mem_cons.2 ⟨⟨text, given⟩, texts⟩⟩

theorem rejection?_eq_some {reads : List String}
    (rejects : params.rejection? last reads = some error) :
    last = some error ∨ ∃ key ∈ reads, params.text key = .error error := by
  induction reads with
  | nil => exact .inl rejects
  | cons key rest ih =>
    rw [rejection?] at rejects
    cases given : params.text key with
    | error other =>
      rw [given] at rejects
      exact .inr ⟨key, List.mem_cons_self, given.trans (congrArg _ (Option.some.inj rejects))⟩
    | ok text =>
      rw [given] at rejects
      exact (ih rejects).imp_right fun ⟨key, read, fails⟩ =>
        ⟨key, List.mem_cons_of_mem _ read, fails⟩

end Parameters

namespace Kind

variable {kind : Kind} {params selected : Parameters} {externalName : String} {error : Error}
  {reads : List String}

/-- The parameters that are read to search an object, in this order. -/
def searchedBy : Kind → List String
  | .authenticationFlow => [Param.realmId, Param.aliasName]
  | .authenticationSubflow => [Param.realmId, Param.parentFlowAlias, Param.aliasName]
  | .authenticationExecution => [Param.realmId, Param.parentFlowAlias, Param.authenticator]
  | .authenticationExecutionConfig => []
  | .organization => [Param.realm, Param.name]
  | .role => [Param.realmId, Param.name, Param.clientId]
  | .group => [Param.realmId, Param.name, Param.parentId]
  | .openIdClient => [Param.realmId, Param.clientId]
  | .realmKeystoreRsa | .ldapUserFederation => [Param.realmId, Param.name]
  | .genericProtocolMapper =>
      [Param.realmId, Param.name, Param.clientId, Param.clientScopeId]

/-- What is read to search an object is declared. -/
theorem declared_of_searchedBy {key : String} (read : key ∈ kind.searchedBy) :
    key ∈ kind.required ∨ key ∈ kind.optional := by
  have every : ∀ key ∈ kind.searchedBy, key ∈ kind.required ∨ key ∈ kind.optional := by
    cases kind <;> decide
  exact every key read

/-- Parameters that a strategy cannot use: one that it reads is absent or no text, or the two that
name the owner of protocol mappers are both empty or both not. -/
inductive Unfit (kind : Kind) (reads : List String) (params : Parameters) : Prop
  | untold {key : String} (read : key ∈ reads)
      (untold : ∀ text, params.get? key ≠ some (.string text)) : Unfit kind reads params
  | unowned {clientId clientScopeId : String} (mapper : kind = .genericProtocolMapper)
      (client : params.get? Param.clientId = some (.string clientId))
      (scope : params.get? Param.clientScopeId = some (.string clientScopeId))
      (alike : clientId = "" ↔ clientScopeId = "") : Unfit kind reads params

/-- The error of parameters that name no owner of protocol mappers, or two. -/
def ownerError? (kind : Kind) (params : Parameters) : Option Error :=
  match kind with
  | .genericProtocolMapper =>
      match ownerOf (params.textOf Param.clientId) (params.textOf Param.clientScopeId) with
      | .ok _ => none
      | .error error => some error
  | _ => none

/-- The error of the first parameter that a strategy cannot use, given the ones that it reads. -/
def rejection? (kind : Kind) (reads : List String) (params : Parameters) : Option Error :=
  params.rejection? (kind.ownerError? params) reads

theorem eq_invalid_of_ownerOf {clientId clientScopeId : String}
    (unowned : ownerOf clientId clientScopeId = .error error) :
    ∃ reason, error = .invalidParameter Param.clientId reason := by
  unfold ownerOf at unowned
  split at unowned <;> cases unowned
  · exact ⟨_, rfl⟩
  · exact ⟨_, rfl⟩

theorem eq_invalid_of_ownerError? (unowned : kind.ownerError? params = some error) :
    ∃ reason, error = .invalidParameter Param.clientId reason := by
  unfold ownerError? at unowned
  split at unowned
  · split at unowned
    · cases unowned
    · rename_i other owns
      obtain rfl := Option.some.inj unowned
      exact eq_invalid_of_ownerOf owns
  · cases unowned

theorem ofParameter_of_rejection? (rejects : kind.rejection? reads params = some error) :
    error.ofParameter = true := by
  rcases Parameters.rejection?_eq_some rejects with unowned | ⟨key, -, fails⟩
  · obtain ⟨reason, rfl⟩ := eq_invalid_of_ownerError? unowned
    rfl
  · exact Parameters.ofParameter_of_text fails

theorem ownerError?_isSome_iff : (kind.ownerError? params).isSome = true ↔
    kind = .genericProtocolMapper ∧
      (params.textOf Param.clientId = "" ↔ params.textOf Param.clientScopeId = "") := by
  cases kind with
  | genericProtocolMapper =>
    simp only [ownerError?, ownerOf, true_and]
    rw [← String.isEmpty_iff, ← String.isEmpty_iff]
    cases (params.textOf Param.clientId).isEmpty <;>
      cases (params.textOf Param.clientScopeId).isEmpty <;> simp
  | _ => simp [ownerError?]

/-- Parameters are rejected exactly if they cannot be used. -/
theorem rejection?_isSome_iff
    (owners : kind = .genericProtocolMapper →
      Param.clientId ∈ reads ∧ Param.clientScopeId ∈ reads) :
    (kind.rejection? reads params).isSome = true ↔ kind.Unfit reads params := by
  by_cases texts : ∀ key ∈ reads, ∃ text, params.text key = .ok text
  · rw [rejection?, Parameters.rejection?_of_texts texts, ownerError?_isSome_iff]
    constructor
    · rintro ⟨rfl, alike⟩
      obtain ⟨clientId, client⟩ := texts _ (owners rfl).1
      obtain ⟨clientScopeId, scope⟩ := texts _ (owners rfl).2
      rw [textOf_of_text client, textOf_of_text scope] at alike
      exact .unowned rfl (Parameters.text_eq_ok_iff.1 client) (Parameters.text_eq_ok_iff.1 scope)
        alike
    · rintro (⟨read, untold⟩ | ⟨mapper, client, scope, alike⟩)
      · obtain ⟨text, given⟩ := texts _ read
        exact absurd (Parameters.text_eq_ok_iff.1 given) (untold text)
      · rw [textOf_of_text (Parameters.text_eq_ok_iff.2 client),
          textOf_of_text (Parameters.text_eq_ok_iff.2 scope)]
        exact ⟨mapper, alike⟩
  · refine iff_of_true ?_ ?_
    · by_contra accepted
      rw [Bool.not_eq_true, Option.isSome_eq_false_iff, Option.isNone_iff_eq_none] at accepted
      exact texts (Parameters.text_of_rejection? accepted).2
    · push Not at texts
      obtain ⟨key, read, untold⟩ := texts
      exact .untold read fun text given => untold text (Parameters.text_eq_ok_iff.2 given)

end Kind

/-! ### Searches that validate -/

namespace Lookup

variable {α β : Type} {params : Parameters} {error : Error}

/-- Searches that report no error of parameters. -/
def Quiet (search : Search α) : Prop :=
  ∀ trace error, Trace search.run trace (.error error) → error.ofParameter = false

/-- Searches that end at once in an error of parameters, if there is one, and report none
otherwise. -/
structure Validates (rejection : Option Error) (search : Search α) : Prop where
  rejects : ∀ error, rejection = some error → search.run = .done (.error error)
  accepts : rejection = none → Quiet search

theorem quiet_ask (fetch : Fetch α) : Quiet (ask fetch) := by
  intro trace error traced
  obtain ⟨_, _, result, -, -, ended⟩ := trace_bind traced
  obtain ⟨-, same⟩ := trace_done_iff.1 ended
  cases result with
  | error other =>
    obtain rfl := Except.error.inj same
    rfl
  | ok value => cases same

theorem quiet_pure (value : α) : Quiet (pure value : Search α) := by
  intro trace error traced
  obtain ⟨-, same⟩ := trace_done_iff.1 traced
  cases same

theorem quiet_single (id : α → String) (items : List α) : Quiet (single id items) := by
  intro trace error traced
  obtain ⟨-, same⟩ := trace_done_iff.1 traced
  unfold singleOrNone at same
  split at same <;> cases same
  rfl

theorem Quiet.bind {search : Search α} {next : α → Search β} (first : Quiet search)
    (follows : ∀ value, Quiet (next value)) : Quiet (search >>= next) := by
  intro trace error traced
  rcases trace_search_bind traced with ⟨other, same, ended⟩ | ⟨_, _, value, -, -, ended⟩
  · obtain rfl := Except.error.inj same
    exact first _ _ ended
  · exact follows value _ _ ended

theorem quiet_firstFlow (realm aliasName : String) (ids : List String) :
    Quiet (firstFlow realm aliasName ids) := by
  induction ids with
  | nil => exact quiet_pure _
  | cons id rest ih =>
    refine (quiet_ask _).bind fun flow => ?_
    cases flow.aliasName == aliasName
    · exact ih
    · exact quiet_pure _

theorem quiet_componentId (realm : String) (kind : ComponentKind) (name : String) :
    Quiet (componentId realm kind name) :=
  (quiet_ask _).bind fun _ => quiet_single _ _

theorem Quiet.validates {search : Search α} (quiet : Quiet search) : Validates none search where
  rejects _ rejected := by cases rejected
  accepts _ := quiet

/-- A search that reads a parameter validates it before what follows. -/
theorem validates_param {last : Option Error} {key : String} {rest : List String}
    {next : String → Search β}
    (follows : ∀ text, params.text key = .ok text →
      Validates (params.rejection? last rest) (next text)) :
    Validates (params.rejection? last (key :: rest)) (param params key >>= next) := by
  rw [Parameters.rejection?]
  cases given : params.text key with
  | error error =>
    refine ⟨fun other same => ?_, fun accepted => by cases accepted⟩
    obtain rfl := Option.some.inj same
    rw [run_bind, param, given]
    rfl
  | ok text =>
    have validates := follows text given
    refine ⟨fun error rejected => ?_, fun accepted trace error traced => ?_⟩
    · rw [run_param_bind given]
      exact validates.rejects error rejected
    · rw [run_param_bind given] at traced
      exact validates.accepts accepted trace error traced

/-- The owner of protocol mappers is named by two parameters that are read one after the other. -/
theorem owner_bind (next : MapperOwner → Search β) :
    owner params >>= next =
      param params Param.clientId >>= fun clientId =>
        param params Param.clientScopeId >>= fun clientScopeId =>
          ExceptT.mk (.done (ownerOf clientId clientScopeId)) >>= next := by
  unfold owner param
  cases params.text Param.clientId with
  | error error => rfl
  | ok clientId => cases params.text Param.clientScopeId <;> rfl

/-- A search below an owner of protocol mappers validates the parameters that name it. -/
theorem validates_owner {next : MapperOwner → Search β} (follows : ∀ owner, Quiet (next owner)) :
    Validates (Kind.genericProtocolMapper.rejection? [Param.clientId, Param.clientScopeId] params)
      (owner params >>= next) := by
  rw [owner_bind]
  refine validates_param fun clientId client => validates_param fun clientScopeId scope => ?_
  rw [Parameters.rejection?, Kind.ownerError?, textOf_of_text client, textOf_of_text scope]
  cases ownerOf clientId clientScopeId with
  | ok owner => exact (follows owner).validates
  | error error =>
    refine ⟨fun other same => ?_, fun accepted => by cases accepted⟩
    obtain rfl := Option.some.inj same
    rfl

/-! ### Strategies validate -/

/-- The strategy of the external name validates the parameters that it reads. -/
theorem validates_byExternalName (kind : Kind) (id : String) (params : Parameters) :
    Validates (kind.rejection? kind.namedBy params) (byExternalName kind id params) := by
  have object {α : Type} (fetch : Fetch α) (id : α → String) :
      Quiet (do return id (← ask fetch)) := (quiet_ask fetch).bind fun _ => quiet_pure _
  cases kind with
  | authenticationSubflow =>
    exact validates_param fun _ _ => validates_param fun _ _ => (object _ _).validates
  | genericProtocolMapper =>
    exact validates_param fun _ _ => validates_owner fun _ => object _ _
  | _ => exact validates_param fun _ _ => (object _ _).validates

/-- A search by parameters validates those that it reads. -/
theorem validates_byParameters (kind : Kind) (params : Parameters) :
    Validates (kind.rejection? kind.searchedBy params) (byParameters kind params) := by
  have object {α : Type} (fetch : Fetch (Option α)) (id : α → String) :
      Quiet (do return (← ask fetch).map id) := (quiet_ask fetch).bind fun _ => quiet_pure _
  have listed {α : Type} (fetch : Fetch (List α)) (id : α → String)
      (keep : List α → List α) : Quiet (do single id (keep (← ask fetch))) :=
    (quiet_ask fetch).bind fun _ => quiet_single _ _
  cases kind with
  | authenticationFlow =>
    exact validates_param fun _ _ => validates_param fun _ _ => (object _ _).validates
  | authenticationSubflow =>
    refine validates_param fun _ _ => validates_param fun _ _ => validates_param fun _ _ => ?_
    exact ((quiet_ask _).bind fun _ => quiet_firstFlow _ _ _).validates
  | authenticationExecution =>
    refine validates_param fun _ _ => validates_param fun _ _ => validates_param fun _ _ => ?_
    exact (listed _ _ _).validates
  | authenticationExecutionConfig => exact (quiet_pure _).validates
  | organization =>
    exact validates_param fun _ _ => validates_param fun _ _ => (object _ _).validates
  | role =>
    refine validates_param fun _ _ => validates_param fun _ _ => validates_param fun _ _ => ?_
    exact (object _ _).validates
  | group =>
    refine validates_param fun _ _ => validates_param fun _ _ => validates_param fun _ _ => ?_
    exact (listed _ _ id).validates
  | openIdClient =>
    exact validates_param fun _ _ => validates_param fun _ _ => (listed _ _ id).validates
  | realmKeystoreRsa =>
    refine validates_param fun _ _ => validates_param fun _ _ => ?_
    exact (quiet_componentId _ _ _).validates
  | ldapUserFederation =>
    refine validates_param fun _ _ => validates_param fun _ _ => ?_
    exact (quiet_componentId _ _ _).validates
  | genericProtocolMapper =>
    refine validates_param fun _ _ => validates_param fun _ _ => validates_owner fun _ => ?_
    exact listed _ _ _

/-- A search that validates asks for nothing but what it asks for if its parameters are accepted. -/
theorem Validates.asks {rejection : Option Error} {search : Search α} {allowed : Resource → Prop}
    (validates : Validates rejection search)
    (accepted : rejection = none → search.run.Asks allowed) : search.run.Asks allowed := by
  cases rejected : rejection with
  | some error =>
    rw [validates.rejects error rejected]
    trivial
  | none => exact accepted rejected

/-- A search with wrong parameters has asked for nothing, and its error is that of the first one
that it cannot use. -/
theorem Validates.trace {rejection : Option Error} {search : Search α}
    (validates : Validates rejection search) {trace : List (Resource × Reply)}
    (traced : Trace search.run trace (.error error)) (wrong : error.ofParameter = true) :
    trace = [] ∧ rejection = some error := by
  cases rejects : rejection with
  | none => cases wrong.symm.trans (validates.accepts rejects trace error traced)
  | some other =>
    rw [validates.rejects other rejects] at traced
    obtain ⟨rfl, same⟩ := trace_done_iff.1 traced
    exact ⟨rfl, congrArg _ (Except.error.inj same).symm⟩

end Lookup

/-! ### Lookups validate -/

namespace Kind

variable {kind : Kind} {params selected : Parameters} {externalName : String} {error : Error}
  {trace : List (Resource × Reply)}

/-- The objects that are selected are found at the address of the given parameters. -/
theorem address_selected (selects : kind.strategy.Selected params selected) :
    kind.address selected externalName = kind.address params externalName := by
  have same (key : String) (read : key ∈ kind.namedBy) :
      selected.textOf key = params.textOf key := textOf_selected selects (declared_of_namedBy read)
  cases kind with
  | organization => simp only [address, realmParam, same Param.realm (by decide)]; rfl
  | genericProtocolMapper =>
    simp only [address, realmParam, endpoint, same Param.realmId (by decide),
      same Param.clientId (by decide), same Param.clientScopeId (by decide)]
  | _ => simp only [address, realmParam, same Param.realmId (by decide)]; rfl

/-- Where the external name can be looked up, it has an address, which is asked for. -/
theorem byExternalName_of_accepted (accepted : kind.rejection? kind.namedBy params = none) :
    ∃ address, kind.address params externalName = .ok address ∧
      (byExternalName kind externalName params).run =
        .fetch address.resource fun reply => .done (reported address reply) := by
  obtain ⟨owned, texts⟩ := Parameters.text_of_rejection? accepted
  obtain ⟨address, located⟩ : ∃ address, kind.address params externalName = .ok address := by
    cases kind with
    | genericProtocolMapper =>
      rw [ownerError?] at owned
      rw [Kind.address, endpoint]
      cases owns : ownerOf (params.textOf Param.clientId) (params.textOf Param.clientScopeId) with
      | ok owner => exact ⟨_, rfl⟩
      | error error =>
        rw [owns] at owned
        cases owned
    | _ => exact ⟨_, rfl⟩
  refine ⟨address, located, byExternalName_address (fun key read => ?_) located⟩
  obtain ⟨text, given⟩ := texts key read
  rw [given, textOf_of_text given]

/-- No selected parameter is missing. -/
theorem missing_ne (selects : kind.strategy.Selected params selected)
    (rejects : kind.rejection? kind.searchedBy selected = some error) {key : String} :
    error ≠ .missingParameter key := by
  rintro rfl
  rcases Parameters.rejection?_eq_some rejects with unowned | ⟨read, member, fails⟩
  · obtain ⟨reason, same⟩ := eq_invalid_of_ownerError? unowned
    cases same
  · have value := selects.values read ((selects.keys read).2 (declared_of_searchedBy member))
    cases value.symm.trans (Parameters.get?_of_missing fails)

/-- An external name that is gone was asked for, at its address. -/
theorem trace_byExternalName_gone
    (traced : Trace (byExternalName kind externalName params).run trace (.error error))
    (missing : error.isNotFound = true) :
    ∃ address gone, kind.address params externalName = .ok address ∧
      trace = [(address.resource, .error gone)] ∧ gone.isNotFound = true := by
  have validates := validates_byExternalName kind externalName params
  cases rejected : kind.rejection? kind.namedBy params with
  | some first =>
    rw [validates.rejects first rejected] at traced
    obtain ⟨-, same⟩ := trace_done_iff.1 traced
    obtain rfl := Except.error.inj same
    have other := Error.isNotFound_of_ofParameter (ofParameter_of_rejection? rejected)
    cases missing.symm.trans other
  | none =>
    obtain ⟨address, located, asks⟩ := byExternalName_of_accepted rejected
    have asked := trace_byExternalName traced (by rintro _ ⟨⟩; exact missing)
    rw [asks] at traced
    cases asked with
    | missing gone =>
      cases traced with
      | fetch followed => exact ⟨address, _, located, rfl, gone⟩

/-- What a lookup with wrong parameters has asked for: nothing, or the object of its external name,
which is gone.  Then no parameter is missing. -/
theorem trace_resolve_ofParameter
    (traced : Trace (kind.resolve externalName params) trace (.error error))
    (wrong : error.ofParameter = true) :
    trace = [] ∨ externalName ≠ "" ∧ (∀ key, error ≠ .missingParameter key) ∧
      ∃ address gone, kind.address params externalName = .ok address ∧
        trace = [(address.resource, .error gone)] ∧ gone.isNotFound = true := by
  have other : error.isNotFound = false := Strategy.trace_resolve_error traced
  generalize ended : (Except.error error : Except Error (Option String)) = result at traced
  cases Strategy.trace_resolve traced with
  | unselected selects => exact .inl rfl
  | named selects name led => cases ended
  | @failed selected _ found selects name led known =>
    obtain rfl := Except.error.inj ended
    exact .inl ((validates_byExternalName kind externalName selected).trace led wrong).1
  | @searched selected _ outcome selects unnamed led =>
    obtain rfl := Strategy.eq_error_of_settle ended.symm
    exact .inl ((validates_byParameters kind selected).trace led wrong).1
  | @moved selected first second found outcome selects name gone missing led =>
    obtain rfl := Strategy.eq_error_of_settle ended.symm
    obtain ⟨rfl, rejects⟩ := (validates_byParameters kind selected).trace led wrong
    have chosen := Strategy.selected_of_select selects
    refine .inr ⟨name, fun key absent => ?_, ?_⟩
    -- The selection has a value, if an empty one, for every parameter that is read.
    · exact missing_ne chosen rejects absent
    · obtain ⟨address, asked, located, rfl, away⟩ := trace_byExternalName_gone gone missing
      rw [address_selected chosen] at located
      exact ⟨address, asked, located, List.append_nil _, away⟩

/-! ### Owners of protocol mappers -/

/-- The path of the protocol mappers of the one owner that parameters name: of a client or a client
scope, where the other one is absent or empty. -/
inductive MapperPath (params : Parameters) : List String → Prop
  | client {id : String} (given : params.get? Param.clientId = some (.string id)) (named : id ≠ "")
      (alone : (params.get? Param.clientScopeId).getD (.string "") = .string "") :
      MapperPath params ["clients", id, "protocol-mappers", "models"]
  | clientScope {id : String} (given : params.get? Param.clientScopeId = some (.string id))
      (named : id ≠ "") (alone : (params.get? Param.clientId).getD (.string "") = .string "") :
      MapperPath params ["client-scopes", id, "protocol-mappers", "models"]

/-- The resources of the one owner of protocol mappers that parameters name: the mapper of the
external name, and the list of all of them. -/
inductive MapperResource (externalName : String) (params : Parameters) : Resource → Prop
  | mapper {realm : String} {path : List String}
      (given : params.get? Param.realmId = some (.string realm)) (owned : MapperPath params path)
      (name : externalName ≠ "") :
      MapperResource externalName params ⟨realm, path ++ [externalName], []⟩
  | list {realm : String} {path : List String}
      (given : params.get? Param.realmId = some (.string realm)) (owned : MapperPath params path) :
      MapperResource externalName params ⟨realm, path, []⟩

section Mappers

/-- A text that is selected and not empty was given. -/
theorem get?_of_getD {found : Option Json.Value} {text : String}
    (filled : found.getD (.string "") = .string text) (full : text ≠ "") :
    found = some (.string text) := by
  cases found with
  | none => exact absurd (Json.Value.string.inj filled).symm full
  | some value => exact congrArg some filled

/-- The owner that two texts name, as the parameters name it for which these texts stand. -/
theorem mapperPath_of_ownerOf {clientId clientScopeId : String} {owner : MapperOwner}
    (client : (params.get? Param.clientId).getD (.string "") = .string clientId)
    (scope : (params.get? Param.clientScopeId).getD (.string "") = .string clientScopeId)
    (owns : ownerOf clientId clientScopeId = .ok owner) :
    MapperPath params (owner.segments ++ ["protocol-mappers", "models"]) := by
  have full {text : String} (named : text.isEmpty = false) : text ≠ "" := by
    rintro rfl
    cases named
  unfold ownerOf at owns
  split at owns
  · rename_i named alone
    obtain rfl := Except.ok.inj owns
    rw [String.isEmpty_iff.1 alone] at scope
    exact .client (get?_of_getD client (full named)) (full named) scope
  · rename_i alone named
    obtain rfl := Except.ok.inj owns
    rw [String.isEmpty_iff.1 alone] at client
    exact .clientScope (get?_of_getD scope (full named)) (full named) client
  · cases owns
  · cases owns

variable (selects : genericProtocolMapper.strategy.select params = .ok selected)
include selects

theorem getD_of_text {key text : String}
    (declared : key ∈ genericProtocolMapper.required ∨ key ∈ genericProtocolMapper.optional)
    (given : selected.text key = .ok text) :
    (params.get? key).getD (.string "") = .string text := by
  have chosen := Strategy.selected_of_select selects
  have value := chosen.values key ((chosen.keys key).2 declared)
  rw [Parameters.text_eq_ok_iff, value] at given
  exact Option.some.inj given

/-- The realm and the owner that a strategy reads of selected parameters that it accepts. -/
theorem owner_of_accepted {keys : List String}
    (reads : ∀ key ∈ genericProtocolMapper.namedBy, key ∈ keys)
    (accepted : genericProtocolMapper.rejection? keys selected = none) :
    ∃ realm clientId clientScopeId owner, selected.text Param.realmId = .ok realm ∧
      selected.text Param.clientId = .ok clientId ∧
        selected.text Param.clientScopeId = .ok clientScopeId ∧
          ownerOf clientId clientScopeId = .ok owner ∧
            params.get? Param.realmId = some (.string realm) ∧
              MapperPath params (owner.segments ++ ["protocol-mappers", "models"]) := by
  obtain ⟨owned, texts⟩ := Parameters.text_of_rejection? accepted
  obtain ⟨realm, named⟩ := texts _ (reads Param.realmId (by decide))
  obtain ⟨clientId, client⟩ := texts _ (reads Param.clientId (by decide))
  obtain ⟨clientScopeId, scope⟩ := texts _ (reads Param.clientScopeId (by decide))
  rw [ownerError?, textOf_of_text client, textOf_of_text scope] at owned
  cases owns : ownerOf clientId clientScopeId with
  | error error =>
    rw [owns] at owned
    cases owned
  | ok owner =>
    have path := mapperPath_of_ownerOf (getD_of_text selects (by decide) client)
      (getD_of_text selects (by decide) scope) owns
    have filled := getD_of_text selects (by decide) named
    have declared : Param.realmId ∈ genericProtocolMapper.strategy.required := List.mem_cons_self
    obtain ⟨value, given⟩ := Strategy.present_of_select selects declared
    rw [given, Option.getD_some] at filled
    exact ⟨realm, clientId, clientScopeId, owner, named, client, scope, owns, filled ▸ given, path⟩

theorem asks_byExternalName_mapper (name : externalName ≠ "") :
    (byExternalName genericProtocolMapper externalName selected).run.Asks
      (MapperResource externalName params) := by
  refine (validates_byExternalName genericProtocolMapper externalName selected).asks ?_
  intro accepted
  obtain ⟨realm, _, _, owner, named, client, scope, owns, given, path⟩ :=
    owner_of_accepted selects (fun _ read => read) accepted
  have asked : (byExternalName genericProtocolMapper externalName selected).run =
      .fetch ⟨realm, owner.segments ++ ["protocol-mappers", "models", externalName], []⟩
        fun reply => .done
          (readReply ProtocolMapper.decode (fun found => .ok found.id) reply) := by
    unfold byExternalName
    dsimp only
    rw [run_param_bind named, run_owner_bind client scope, owns]
    exact run_ask_bind _ _ _
  rw [asked]
  have mapper := MapperResource.mapper given path name
  rw [List.append_assoc] at mapper
  exact ⟨mapper, fun _ => trivial⟩

theorem asks_byParameters_mapper (externalName : String) :
    (byParameters genericProtocolMapper selected).run.Asks
      (MapperResource externalName params) := by
  refine (validates_byParameters genericProtocolMapper selected).asks ?_
  intro accepted
  obtain ⟨realm, _, _, owner, named, client, scope, owns, given, path⟩ :=
    owner_of_accepted selects (by decide) accepted
  obtain ⟨name, called⟩ := (Parameters.text_of_rejection? accepted).2 Param.name (by decide)
  have asked : (byParameters genericProtocolMapper selected).run =
      .fetch ⟨realm, owner.segments ++ ["protocol-mappers", "models"], []⟩
        fun reply => .done (readReply (Record.list ProtocolMapper.decode)
          (fun found => singleOrNone ProtocolMapper.id (found.filter (·.name == name)))
            reply) := by
    unfold byParameters
    dsimp only
    rw [run_param_bind named, run_param_bind called, run_owner_bind client scope, owns]
    exact run_ask_bind _ _ _
  rw [asked]
  exact ⟨.list given path, fun _ => trivial⟩

end Mappers

/-- A lookup of a protocol mapper asks for resources of the one owner that is named only. -/
theorem asks_resolve_mapper (externalName : String) (params : Parameters) :
    (genericProtocolMapper.resolve externalName params).Asks
      (MapperResource externalName params) :=
  Strategy.asks_resolve (fun _ selects name => asks_byExternalName_mapper selects name)
    fun _ selects => asks_byParameters_mapper selects externalName

end Kind

/-! ### Runs are validated -/

namespace Session

open RealmLookup.Http

variable {α : Type}

/-- A visit that ended in the response that there is no such object. -/
def Visit.IsGone (visit : Visit) : Prop :=
  ∃ earlier last response, visit.exchanges = earlier ++ [last] ∧ last.request.method = .get ∧
    last.answer.response? = some response ∧ response.status = 404

theorem isGone_of_finding {visit : Visit} (finds : visit.finding = .absent) : visit.IsGone := by
  rcases ends : visit.exchanges.eq_nil_or_concat with none | ⟨earlier, last, split⟩
  · rw [Visit.finding, findingOf, none] at finds
    cases finds
  · rw [List.concat_eq_append] at split
    rw [Visit.finding, split, findingOf_concat, Exchange.finding] at finds
    split at finds
    · cases finds
    · rename_i gets
      split at finds
      · cases finds
      · rename_i response answered
        split at finds
        · cases finds
        · split at finds
          · rename_i missing
            exact ⟨earlier, last, response, split, gets, answered, missing⟩
          · cases finds

section Runs

variable (environment : Environment) (client : Client) (session : Session)

/-- A run that attempts no request. -/
def Unasked (plan : Plan α) : Prop :=
  visits environment client plan session = [] ∧
    (run environment client plan session).2 = session

/-- A run of a strategy that fails for its parameters before it attempts a request, and just if
they are unfit. -/
structure Checked (unfit : Prop) (plan : Plan (Except Error α)) : Prop where
  unasked : ∀ error, (run environment client plan session).1 = some (.error error) →
    error.ofParameter = true → Unasked environment client session plan
  fails_iff : (∃ error, (run environment client plan session).1 = some (.error error) ∧
    error.ofParameter = true) ↔ unfit

/-- A run of a lookup whose parameters are validated before a request is attempted. -/
structure Validated (kind : Kind) (externalName : String) (params : Parameters) : Prop where
  missing : ∀ key, (run environment client (kind.resolve externalName params) session).1 =
      some (.error (.missingParameter key)) →
    Unasked environment client session (kind.resolve externalName params)
  /-- Nothing is attempted, or only the object of the external name, which is gone. -/
  invalid : ∀ key reason, (run environment client (kind.resolve externalName params) session).1 =
      some (.error (.invalidParameter key reason)) →
    Unasked environment client session (kind.resolve externalName params) ∨
      externalName ≠ "" ∧ ∃ found address,
        visits environment client (kind.resolve externalName params) session = [found] ∧
          (run environment client (kind.resolve externalName params) session).2.exchanges =
            session.exchanges ++ found.exchanges ∧
          kind.address params externalName = .ok address ∧ found.resource = address.resource ∧
            found.IsGone
  /-- Protocol mappers are asked for below the one owner that is named. -/
  owned : kind = .genericProtocolMapper →
    ∀ found ∈ visits environment client (kind.resolve externalName params) session,
      Kind.MapperResource externalName params found.resource

variable {environment client session}

theorem unasked_of_visits {plan : Plan α} (none : visits environment client plan session = []) :
    Unasked environment client session plan := by
  refine ⟨none, ?_⟩
  cases plan with
  | done value => rfl
  | fetch resource next =>
    rw [visits] at none
    cases none

/-- The plan of a search that validates its parameters is run so. -/
theorem checked_of_validates {search : Search α} {rejection : Option Error} {unfit : Prop}
    (validates : Validates rejection search) (rejects : rejection.isSome = true ↔ unfit)
    (wrong : ∀ error, rejection = some error → error.ofParameter = true) :
    Checked environment client session unfit search.run := by
  refine ⟨fun error failed wrong => ?_, ?_⟩
  · obtain ⟨trace, traced, same⟩ := run_trace _ _ failed
    obtain ⟨rfl, -⟩ := validates.trace traced wrong
    exact unasked_of_visits (List.map_eq_nil_iff.1 same)
  · rw [← rejects]
    constructor
    · rintro ⟨error, failed, wrong⟩
      obtain ⟨trace, traced, -⟩ := run_trace _ _ failed
      rw [(validates.trace traced wrong).2]
      rfl
    · intro rejected
      obtain ⟨error, rejected⟩ := Option.isSome_iff_exists.1 rejected
      refine ⟨error, ?_, wrong error rejected⟩
      rw [validates.rejects error rejected]
      rfl

end Runs

/-- Parameters are validated before anything is sent.  A strategy fails for parameters exactly if it
cannot use one that it reads, and then attempts no request; so a lookup that fails for parameters
has attempted none, or only the object of its external name, which is gone. -/
theorem run_validated (environment : Environment) (client : Client) (session : Session)
    (kind : Kind) (params : Parameters) :
    (∀ id, Checked environment client session (kind.Unfit kind.namedBy params)
      (kind.strategy.byExternalName id params)) ∧
    Checked environment client session (kind.Unfit kind.searchedBy params)
      (kind.strategy.byParameters params) ∧
    ∀ externalName, Validated environment client session kind externalName params := by
  refine ⟨fun id => ?_, ?_, fun externalName =>
    ⟨fun key failed => ?_, fun key reason failed => ?_, ?_⟩⟩
  · refine checked_of_validates (validates_byExternalName kind id params)
      (Kind.rejection?_isSome_iff ?_) fun error => Kind.ofParameter_of_rejection?
    rintro rfl
    decide
  · refine checked_of_validates (validates_byParameters kind params)
      (Kind.rejection?_isSome_iff ?_) fun error => Kind.ofParameter_of_rejection?
    rintro rfl
    decide
  · obtain ⟨trace, traced, same⟩ := run_trace _ _ failed
    rcases Kind.trace_resolve_ofParameter traced rfl with rfl | ⟨-, present, -⟩
    · exact unasked_of_visits (List.map_eq_nil_iff.1 same)
    · exact absurd rfl (present key)
  · obtain ⟨trace, traced, same⟩ := run_trace _ _ failed
    rcases Kind.trace_resolve_ofParameter traced rfl with
      rfl | ⟨name, -, address, gone, located, rfl, missing⟩
    · exact .inl (unasked_of_visits (List.map_eq_nil_iff.1 same))
    · refine .inr ⟨name, ?_⟩
      obtain ⟨found, only, visited⟩ := List.map_eq_singleton_iff.1 same
      obtain ⟨asked, replied⟩ := Prod.mk.inj visited
      refine ⟨found, address, only, ?_, located, asked, isGone_of_finding ?_⟩
      · rw [run_exchanges, only, List.flatMap_singleton]
      · have finds := map_finding same
        rw [only] at finds
        exact (List.cons.inj finds).1.trans (ofReply_of_missing missing)
  · rintro rfl found member
    exact allowed_of_visits (Kind.asks_resolve_mapper externalName params) member

/-- The lookup of a protocol mapper of a client whose name is no text. -/
def namelessMapper : Plan (Except Error (Option String)) :=
  Kind.genericProtocolMapper.resolve "m"
    (.ofEntries [("realm_id", .string "r"), ("name", .null), ("client_id", .string "c")])

theorem run_namelessMapper :
    (run (tokenServer true missing) Client.localClient namelessMapper fresh).1 =
      some (.error (.invalidParameter "name" "expected a string, got null")) := by
  decide +kernel

theorem visits_namelessMapper :
    (visits (tokenServer true missing) Client.localClient namelessMapper fresh).length = 1 := by
  decide +kernel

/-- A mapper whose name is no text is asked for by its external name, and is gone, before the name
is read. -/
theorem run_validated_namelessMapper :
    ∃ found, visits (tokenServer true missing) Client.localClient namelessMapper fresh = [found] ∧
      found.IsGone := by
  have validated := (run_validated (tokenServer true missing) Client.localClient fresh
    .genericProtocolMapper (.ofEntries [("realm_id", .string "r"), ("name", .null),
      ("client_id", .string "c")])).2.2 "m"
  rcases validated.invalid _ _ run_namelessMapper with
    ⟨none, -⟩ | ⟨-, found, _, only, -, -, -, gone⟩
  · have asked := visits_namelessMapper
    rw [namelessMapper, none] at asked
    cases asked
  · exact ⟨found, only, gone⟩

end Session

end RealmLookup
