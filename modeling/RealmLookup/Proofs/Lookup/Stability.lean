import RealmLookup.Proofs.Admin.Address
import RealmLookup.Proofs.Lookup.Collections
import RealmLookup.Proofs.Session.Steady

/-!
# Stability of identifiers

An external name that is stale is as good as none, and an identifier that was found is found again
by itself.  Both follow from where the objects of a kind are fetched: the address of an identifier
is formed from parameters that a search reads as well, and if they name no address, both strategies
fail alike.

## Main definitions

* `Kind.endpoint`, `Kind.address` : where the objects of a kind are fetched by identifier.
* `Kind.OnlyTexts` : parameters whose declared ones are texts.
* `Session.Gone`, `Session.Kept` : what a server answers at the address of an identifier.

## Main results

* `Kind.byExternalName_address` : an external name is looked up at its address.
* `Kind.resolve_or_stop` : a lookup asks for the address of its external name, or for nothing.
* `Session.run_resolve_stable` : stale external names are absent ones, and identifiers are stable.
-/

namespace RealmLookup

open RealmLookup.Admin RealmLookup.Admin.Plan RealmLookup.Lookup RealmLookup.Representation

namespace Kind

variable {kind : Kind} {params selected : Parameters} {externalName : String}

/-! ### Addresses of kinds -/

/-- The parameters that are read to fetch an object by its external name, in this order. -/
def namedBy : Kind → List String
  | .authenticationSubflow => [Param.realmId, Param.parentFlowAlias]
  | .organization => [Param.realm]
  | .genericProtocolMapper => [Param.realmId, Param.clientId, Param.clientScopeId]
  | _ => [Param.realmId]

/-- What is read to fetch an object is declared. -/
theorem declared_of_namedBy {key : String} (read : key ∈ kind.namedBy) :
    key ∈ kind.required ∨ key ∈ kind.optional := by
  have every : ∀ key ∈ kind.namedBy, key ∈ kind.required ∨ key ∈ kind.optional := by
    cases kind <;> decide
  exact every key read

/-- The parameter that names the realm. -/
def realmParam : Kind → String
  | .organization => Param.realm
  | _ => Param.realmId

/-- The endpoint at which the objects of a kind are fetched by identifier.  Subflows are flows; the
kinds of components share an endpoint; a protocol mapper is fetched below its owner. -/
def endpoint (kind : Kind) (params : Parameters) : Except Error Endpoint :=
  match kind with
  | .authenticationFlow | .authenticationSubflow => .ok .flow
  | .authenticationExecution => .ok .execution
  | .authenticationExecutionConfig => .ok .executionConfig
  | .organization => .ok .organization
  | .role => .ok .role
  | .group => .ok .group
  | .openIdClient => .ok .client
  | .realmKeystoreRsa | .ldapUserFederation => .ok .component
  | .genericProtocolMapper =>
      (ownerOf (params.textOf Param.clientId) (params.textOf Param.clientScopeId)).map .mapper

/-- The address of an identifier. -/
def address (kind : Kind) (params : Parameters) (id : String) : Except Error Address :=
  (kind.endpoint params).map fun endpoint => ⟨params.textOf kind.realmParam, endpoint, id⟩

/-- What the reply at an address tells of the identifier there. -/
def reported (address : Address) (reply : Reply) : Except Error String :=
  readReply address.endpoint.decoder (fun object => .ok (address.endpoint.id object)) reply

/-! ### Strategies as plans -/

section Strategies

/-- An external name is looked up at its address. -/
theorem byExternalName_address {address : Address}
    (texts : ∀ key ∈ kind.namedBy, selected.text key = .ok (params.textOf key))
    (reached : kind.address params externalName = .ok address) :
    (byExternalName kind externalName selected).run =
      .fetch address.resource fun reply => .done (reported address reply) := by
  unfold byExternalName
  cases kind with
  | authenticationSubflow =>
    cases reached
    dsimp only
    rw [run_param_bind (texts Param.realmId (by decide)),
      run_param_bind (texts Param.parentFlowAlias (by decide))]
    exact run_ask_bind _ _ _
  | organization =>
    cases reached
    dsimp only
    rw [run_param_bind (texts Param.realm (by decide))]
    exact run_ask_bind _ _ _
  | genericProtocolMapper =>
    dsimp only
    rw [run_param_bind (texts Param.realmId (by decide)),
      run_owner_bind (texts Param.clientId (by decide)) (texts Param.clientScopeId (by decide))]
    unfold Kind.address endpoint at reached
    dsimp only at reached
    cases owns : ownerOf (params.textOf Param.clientId) (params.textOf Param.clientScopeId) with
    | error error =>
      rw [owns] at reached
      cases reached
    | ok owner =>
      rw [owns] at reached
      cases reached
      dsimp only
      cases owner <;> exact run_ask_bind _ _ _
  | _ =>
    cases reached
    dsimp only
    rw [run_param_bind (texts Param.realmId (by decide))]
    exact run_ask_bind _ _ _

/-- If parameters name no address, both strategies fail alike. -/
theorem strategies_of_error {error : Error}
    (texts : ∀ key, key ∈ kind.required ∨ key ∈ kind.optional →
      selected.text key = .ok (params.textOf key))
    (lost : kind.endpoint params = .error error) :
    (byExternalName kind externalName selected).run = .done (.error error) ∧
      (byParameters kind selected).run = .done (.error error) ∧ error.isNotFound = false := by
  unfold byExternalName byParameters
  cases kind with
  | genericProtocolMapper =>
    unfold endpoint at lost
    dsimp only at lost ⊢
    rw [run_param_bind (texts Param.realmId (by decide)),
      run_param_bind (texts Param.realmId (by decide)),
      run_param_bind (texts Param.name (by decide)),
      run_owner_bind (texts Param.clientId (by decide)) (texts Param.clientScopeId (by decide)),
      run_owner_bind (texts Param.clientId (by decide)) (texts Param.clientScopeId (by decide))]
    cases owns : ownerOf (params.textOf Param.clientId) (params.textOf Param.clientScopeId) with
    | error given =>
      rw [owns] at lost
      cases lost
      exact ⟨rfl, rfl, isNotFound_of_ownerOf owns⟩
    | ok owner =>
      rw [owns] at lost
      cases lost
  | _ => cases lost

end Strategies

/-! ### Lookups as plans -/

/-- Whether the declared parameters that are there are texts. -/
def OnlyTexts (kind : Kind) (params : Parameters) : Prop :=
  ∀ key, key ∈ kind.required ∨ key ∈ kind.optional →
    ∀ value, params.get? key = some value → ∃ text, value = .string text

theorem HasTexts.onlyTexts (texts : kind.HasTexts params) : kind.OnlyTexts params := by
  rintro key (required | optional) value given
  · obtain ⟨text, same⟩ := texts.required key required
    exact ⟨text, Option.some.inj (given.symm.trans same)⟩
  · exact texts.optional key optional value given

/-- Parameters that are selected are all there. -/
theorem OnlyTexts.hasTexts (only : kind.OnlyTexts params)
    (selects : kind.strategy.select params = .ok selected) : kind.HasTexts params where
  required key declared := by
    obtain ⟨value, given⟩ := Strategy.present_of_select selects declared
    obtain ⟨text, rfl⟩ := only key (.inl declared) value given
    exact ⟨text, given⟩
  optional key declared := only key (.inr declared)

/-- What follows the reply at the address of an external name. -/
def followed (kind : Kind) (params : Parameters) :
    Except Error String → Plan (Except Error (Option String))
  | .ok id => .done (.ok (Strategy.nonEmpty id))
  | .error error => if error.isNotFound then kind.resolve "" params else .done (.error error)

theorem resolve_of_name (selects : kind.strategy.select params = .ok selected)
    (name : externalName ≠ "") : kind.resolve externalName params =
      (byExternalName kind externalName selected).run.bind (kind.followed params) := by
  have unnamed : kind.resolve "" params = kind.strategy.search selected := by
    rw [resolve, Strategy.resolve, selects]
    exact if_pos (String.isEmpty_iff.2 rfl)
  rw [resolve, Strategy.resolve, selects]
  dsimp only
  rw [if_neg (by rwa [String.isEmpty_iff])]
  show Plan.bind _ _ = _
  congr 1
  funext outcome
  rcases outcome with error | id
  · rw [followed, unnamed]
    rfl
  · rfl

/-- Where both strategies fail alike, the external name does not matter. -/
theorem resolve_of_error {error : Error} (selects : kind.strategy.select params = .ok selected)
    (named : (byExternalName kind externalName selected).run = .done (.error error))
    (searched : (byParameters kind selected).run = .done (.error error))
    (other : error.isNotFound = false) :
    kind.resolve externalName params = .done (.error error) := by
  by_cases name : externalName = ""
  · have found : kind.strategy.byParameters selected = .done (.error error) := searched
    rw [resolve, Strategy.resolve, selects]
    dsimp only
    rw [if_pos (String.isEmpty_iff.2 name), Strategy.search, found]
    show Plan.done (Strategy.settle (.error error)) = _
    rw [Strategy.settle, other]
    rfl
  · rw [resolve_of_name selects name, named]
    show kind.followed params (.error error) = _
    rw [followed, other]
    rfl

/-- A lookup with an external name asks for its address, and then goes on without the name if there
is no object there; or parameters are wrong, and no lookup asks for anything. -/
theorem resolve_or_stop (only : kind.OnlyTexts params) :
    (∃ error, ∀ externalName, kind.resolve externalName params = .done (.error error)) ∨
      ∀ externalName, ∃ address, kind.address params externalName = .ok address ∧
        (externalName ≠ "" → kind.resolve externalName params =
          .fetch address.resource fun reply => kind.followed params (reported address reply)) := by
  cases selects : kind.strategy.select params with
  | error error =>
    refine .inl ⟨error, fun externalName => ?_⟩
    rw [resolve, Strategy.resolve, selects]
    rfl
  | ok selected =>
    have texts (key : String) (declared : key ∈ kind.required ∨ key ∈ kind.optional) :=
      text_selected (Strategy.selected_of_select selects) (only.hasTexts selects) declared
    cases reached : kind.endpoint params with
    | error error =>
      refine .inl ⟨error, fun externalName => ?_⟩
      obtain ⟨named, searched, other⟩ := strategies_of_error texts reached
      exact resolve_of_error selects named searched other
    | ok endpoint =>
      refine .inr fun externalName => ?_
      have located : kind.address params externalName =
          .ok ⟨params.textOf kind.realmParam, endpoint, externalName⟩ := by
        rw [address, reached]
        rfl
      refine ⟨_, located, fun name => ?_⟩
      rw [resolve_of_name selects name,
        byExternalName_address (fun key read => texts key (declared_of_namedBy read)) located]
      rfl

/-! ### Lookups for given replies -/

section Replies

variable {replies : Resource → Reply}

/-- An external name without an object is as good as none. -/
theorem eval_resolve_of_gone (only : kind.OnlyTexts params) (name : externalName ≠ "")
    (gone : ∀ address, kind.address params externalName = .ok address →
      ∃ error, replies address.resource = .error error ∧ error.isNotFound = true) :
    (kind.resolve externalName params).eval replies = (kind.resolve "" params).eval replies := by
  rcases resolve_or_stop only with ⟨error, stops⟩ | goes
  · rw [stops, stops]
  · obtain ⟨address, reached, asks⟩ := goes externalName
    obtain ⟨error, replied, missing⟩ := gone address reached
    rw [asks name, eval, replied]
    show (if error.isNotFound then _ else _ : Plan _).eval replies = _
    rw [missing, if_pos rfl]

/-- An identifier that was found is looked up at its address. -/
theorem resolve_of_found (only : kind.OnlyTexts params) {id : String}
    (found : (kind.resolve externalName params).eval replies = .ok (some id)) :
    id ≠ "" ∧ ∃ address, kind.address params id = .ok address ∧ kind.resolve id params =
      .fetch address.resource fun reply => kind.followed params (reported address reply) := by
  have traced := trace_eval replies (kind.resolve externalName params)
  rw [found] at traced
  have name : id ≠ "" := Strategy.trace_resolve_some traced
  rcases resolve_or_stop only with ⟨error, stops⟩ | goes
  · rw [stops] at found
    cases found
  · obtain ⟨address, reached, asks⟩ := goes id
    exact ⟨name, address, reached, asks name⟩

/-- The identifier of an object at its own address is what a lookup finds there, and nothing else is
asked for. -/
theorem resolve_of_kept {id : String} {address : Address} (name : id ≠ "")
    (asks : kind.resolve id params =
      .fetch address.resource fun reply => kind.followed params (reported address reply))
    (kept : reported address (replies address.resource) = .ok id) :
    (kind.resolve id params).eval replies = .ok (some id) ∧
      (kind.resolve id params).asked replies = [address.resource] := by
  have same : Strategy.nonEmpty id = some id := by
    rw [nonEmpty_eq, if_neg name]
  rw [asks, eval, asked, kept, followed, same]
  exact ⟨rfl, rfl⟩

end Replies

end Kind

/-! ### Runs -/

namespace Session

open RealmLookup.Http

variable {client : Client} {environment : Environment} {answers : Url → Answer} {kind : Kind}
  {params : Parameters} {externalName id : String}

/-- The URL of an address. -/
def addressUrl (client : Client) (address : Address) : Url :=
  (client.resourceUrl address.resource).target

/-- There is no object of an identifier: its URL is answered with 404. -/
def Gone (client : Client) (answers : Url → Answer) (kind : Kind) (params : Parameters)
    (id : String) : Prop :=
  ∀ address, kind.address params id = .ok address →
    ∃ response, (answers (addressUrl client address)).response? = some response ∧
      response.status = 404

/-- There is an object of an identifier: its URL is answered with an object of the kind that reports
the same identifier. -/
def Kept (client : Client) (answers : Url → Answer) (kind : Kind) (params : Parameters)
    (id : String) : Prop :=
  ∀ address, kind.address params id = .ok address →
    ∃ response, (answers (addressUrl client address)).response? = some response ∧
      response.isSuccess = true ∧
        (response.body.read? address.endpoint.decoder).map address.endpoint.id = some id

theorem Gone.reply (gone : Gone client answers kind params id) {address : Address}
    (reached : kind.address params id = .ok address) :
    ∃ error, fixedReply client answers address.resource = .error error ∧
      error.isNotFound = true := by
  obtain ⟨⟨status, body⟩, answered, rfl⟩ := gone address reached
  rw [addressUrl] at answered
  rw [fixedReply, fixedResponse, answered]
  exact ⟨_, rfl, rfl⟩

theorem Kept.reported (kept : Kept client answers kind params id) {address : Address}
    (reached : kind.address params id = .ok address) :
    Kind.reported address (fixedReply client answers address.resource) = .ok id := by
  obtain ⟨response, answered, success, reads⟩ := kept address reached
  obtain ⟨object, decodes, reports⟩ := Option.map_eq_some_iff.1 reads
  rw [addressUrl] at answered
  rw [fixedReply, fixedResponse, answered]
  show Kind.reported address (replyTo _ response) = _
  rw [replyTo, success, if_pos rfl, Kind.reported, readReply, Except.bind, Document.decode,
    decodes, ← reports]

/-- An object that is there is requested once. -/
theorem Kept.attempts (kept : Kept client answers kind params id) {address : Address}
    (reached : kind.address params id = .ok address) :
    Session.attempts answers (addressUrl client address) = [addressUrl client address] := by
  obtain ⟨response, answered, success, -⟩ := kept address reached
  refine attempts_of_accepted answered fun rejected => ?_
  rw [Response.isSuccess, rejected] at success
  cases success

/-- Against a server whose answers depend on the URLs alone, an external name whose object is gone
is as good as none, and an identifier that was found is stable: as long as its object is there,
whatever else such a server answers by then, a lookup by the identifier requests this object alone,
once, and finds the identifier again. -/
theorem run_resolve_stable (only : kind.OnlyTexts params)
    (steady : Steady client environment answers) (externalName : String) {session : Session}
    (ready : Ready client session) :
    (externalName ≠ "" → Gone client answers kind params externalName →
      ∀ other, Ready client other → ∃ result,
        (run environment client (kind.resolve externalName params) session).1 = some result ∧
          (run environment client (kind.resolve "" params) other).1 = some result) ∧
      ∀ id, (run environment client (kind.resolve externalName params) session).1 =
          some (.ok (some id)) →
        ∀ changed given, Steady client changed given → Kept client given kind params id →
          ∀ later, Ready client later →
            (run changed client (kind.resolve id params) later).1 = some (.ok (some id)) ∧
              ∃ address, kind.address params id = .ok address ∧
                fetchedUrls changed client (kind.resolve id params) later =
                  [addressUrl client address] := by
  have value := (run_steady steady (kind.resolve externalName params) ready).1
  refine ⟨fun name gone other prepared => ⟨_, value, ?_⟩,
    fun id found changed given stays kept later prepared => ?_⟩
  · rw [(run_steady steady (kind.resolve "" params) prepared).1,
      Kind.eval_resolve_of_gone only name fun address reached => gone.reply reached]
  · obtain ⟨name, address, reached, asks⟩ :=
      Kind.resolve_of_found only (Option.some.inj (value.symm.trans found))
    obtain ⟨same, once⟩ := Kind.resolve_of_kept name asks (kept.reported reached)
    refine ⟨?_, address, reached, ?_⟩
    · rw [(run_steady stays (kind.resolve id params) prepared).1, same]
    · rw [fetchedUrls_steady stays (kind.resolve id params) prepared, once,
        List.flatMap_singleton]
      exact kept.attempts reached

/-! ### A group that is listed -/

/-- A realm with the group `a`, which every search finds, and without the group `x`. -/
def listedGroup (url : Url) : Response :=
  let group := "\x7b\"id\":\"a\",\"name\":\"n\"\x7d"
  if url = addressUrl Client.localClient ⟨"r", .group, "x"⟩ then ⟨404, .complete []⟩
  else if url = addressUrl Client.localClient ⟨"r", .group, "a"⟩ then
    ⟨200, .complete (Text.Utf8.encode group.toList)⟩
  else ⟨200, .complete (Text.Utf8.encode ("[" ++ group ++ "]").toList)⟩

/-- The group is found by its parameters, though its external name is stale, and is found again by
its identifier. -/
theorem run_resolve_stable_listedGroup :
    Kind.group.OnlyTexts groupParams ∧
      Steady Client.localClient (tokenServer true listedGroup)
        (fun url => .response (listedGroup url)) ∧
      (run (tokenServer true listedGroup) Client.localClient
        (Kind.group.resolve "" groupParams) fresh).1 = some (.ok (some "a")) ∧
      (run (tokenServer true listedGroup) Client.localClient
        (Kind.group.resolve "a" groupParams) fresh).1 = some (.ok (some "a")) := by
  have only := hasTexts_groupParams.onlyTexts
  have steady : Steady Client.localClient (tokenServer true listedGroup) _ :=
    steady_tokenServer rfl listedGroup
  have gone : Gone Client.localClient (fun url => .response (listedGroup url)) .group groupParams
      "x" := by
    rintro address ⟨⟩
    exact ⟨_, rfl, by decide +kernel⟩
  have kept : Kept Client.localClient (fun url => .response (listedGroup url)) .group groupParams
      "a" := by
    rintro address ⟨⟩
    exact ⟨_, rfl, by decide +kernel, by decide +kernel⟩
  have found : (run (tokenServer true listedGroup) Client.localClient
      (Kind.group.resolve "x" groupParams) fresh).1 = some (.ok (some "a")) := by
    decide +kernel
  obtain ⟨stale, again⟩ := run_resolve_stable only steady "x" ready_fresh
  obtain ⟨result, returned, unnamed⟩ := stale (by decide) gone fresh ready_fresh
  refine ⟨only, steady, ?_, (again "a" found _ _ steady kept fresh ready_fresh).1⟩
  rw [unnamed, ← returned, found]

end Session

end RealmLookup
