import RealmLookup.Proofs.Admin.Address
import RealmLookup.Proofs.Lookup.Collections
import RealmLookup.Proofs.Session.Admission

/-!
# Searches of subflows

A subflow is searched in several requests: for the list of the executions of its parent, and then
for one flow after another, in the order of the list, until a flow has the alias that is looked for
or cannot be fetched.  Only the flows directly below the parent are fetched.

## Main definitions

* `Lookup.directFlow?` : the flow that an entry of a list of executions stands for.
* `Lookup.decision?` : what the fetch of a flow decides.
* `Session.Scanned` : the requests for flows of a search, and its result.
* `Session.SubflowSearch` : all requests of a search, and its result.

## Main results

* `Session.scanned_firstFlow` : a search among flows goes through them in their order.
* `Session.run_resolve_subflow` : a lookup of a subflow is such a search.
-/

namespace RealmLookup

open RealmLookup.Http RealmLookup.Admin RealmLookup.Lookup RealmLookup.Representation

/-! ### Subflows of a list -/

namespace Lookup

/-- The flow that an entry of a list of executions stands for, if it is a subflow directly below the
flow that is listed. -/
def directFlow? (entry : AuthenticationExecutionInfo) : Option String :=
  if entry.authenticationFlow = true ∧ entry.level = 0 then entry.flowId else none

theorem subflowIds_eq (found : List AuthenticationExecutionInfo) :
    subflowIds found = found.filterMap directFlow? := by
  rw [subflowIds, List.filterMap_filter]
  refine congrArg (fun select => found.filterMap select) (funext fun entry => ?_)
  simp only [directFlow?, Bool.and_eq_true, beq_iff_eq]

/-- Flows that are searched lie directly below the flow that is listed. -/
theorem direct_of_mem {found : List AuthenticationExecutionInfo} {id : String}
    (member : id ∈ found.filterMap directFlow?) :
    ∃ entry ∈ found, entry.authenticationFlow = true ∧ entry.level = 0 ∧
      entry.flowId = some id := by
  obtain ⟨entry, listed, stands⟩ := List.mem_filterMap.1 member
  rw [directFlow?] at stands
  split at stands
  · rename_i direct
    exact ⟨entry, listed, direct.1, direct.2, stands⟩
  · cases stands

/-- What a search makes of a failed request: an object that is not found is not there yet. -/
def absence (error : Client.Error) : Except Error (Option String) :=
  if error.isNotFound then .ok none else .error (.client error)

/-- What the fetch of a flow decides in the search for an alias.  A failure ends the search, as does
a flow of the alias; behind any other flow the search goes on. -/
def decision? (aliasName : String) :
    Except Client.Error AuthenticationFlow → Option (Except Error (Option String))
  | .error error => some (absence error)
  | .ok flow =>
      if flow.aliasName = aliasName then
        some (.ok (if flow.id = "" then none else some flow.id))
      else none

/-! ### Searches as plans -/

/-- The plan of a search with what its outcome means. -/
def settled (search : Search (Option String)) : Plan (Except Error (Option String)) :=
  Plan.bind search.run fun outcome => .done (Strategy.settle outcome)

/-- The plan behind a request: what is done with the value that was read, or what its failure
means. -/
def resume {α : Type} (next : α → Search (Option String)) :
    Except Client.Error α → Plan (Except Error (Option String))
  | .ok value => settled (next value)
  | .error error => .done (absence error)

/-- A search that begins with a request goes on with what is read. -/
theorem settled_get_bind {α : Type} (decoder : Decoder α) (resource : Resource)
    (next : α → Search (Option String)) :
    settled (ask (Plan.get decoder resource) >>= next) =
      .fetch resource fun reply => resume next (reply.bind (Document.decode decoder)) := by
  rw [settled, run_bind]
  show Plan.fetch resource _ = _
  congr 1
  funext reply
  simp only [Plan.bind]
  cases reply.bind (Document.decode decoder) <;> rfl

end Lookup

/-! ### Runs of searches -/

namespace Session

variable {environment : Environment} {client : Client} {valid : String → Prop}
  {realm aliasName : String}

/-- The list of the executions of a flow. -/
def executionList (realm flowAlias : String) : Resource :=
  ⟨realm, ["authentication", "flows", flowAlias, "executions"], []⟩

/-- A flow. -/
def flowResource (realm id : String) : Resource :=
  (Address.mk realm .flow id).resource

/-- What the request for a flow decides. -/
def flowDecision? (client : Client) (realm aliasName : String) (fetched : String × Exchange) :
    Option (Except Error (Option String)) :=
  decision? aliasName
    (fetched.2.read client AuthenticationFlow.decode (flowResource realm fetched.1))

/-- The requests for flows of the search for an alias among some flows, with the identifiers of the
flows, and the result. -/
structure Scanned (client : Client) (realm aliasName : String) (ids : List String)
    (fetched : List (String × Exchange)) (result : Except Error (Option String)) : Prop where
  /-- Flows are fetched in their order, each once. -/
  order : fetched.map Prod.fst <+: ids
  targets : ∀ entry ∈ fetched, Fetches (client.resourceUrl (flowResource realm entry.1)) entry.2
  /-- No flow is fetched behind one that decides. -/
  passed : ∀ entry ∈ fetched.dropLast, flowDecision? client realm aliasName entry = none
  /-- The last one decides, or none of all flows does. -/
  ended : (∃ last, fetched.getLast? = some last ∧
      flowDecision? client realm aliasName last = some result) ∨
    fetched.map Prod.fst = ids ∧
      (∀ entry ∈ fetched, flowDecision? client realm aliasName entry = none) ∧ result = .ok none

/-- The requests of a search for a subflow, other than logins, and the result.  The list of the
executions of its parent cannot be read, or the flows directly below the parent are searched. -/
inductive SubflowSearch (client : Client) (realm parent aliasName : String) :
    List Exchange → Except Error (Option String) → Prop
  | unlisted {listing : Exchange} {error : Client.Error}
      (fetches : Fetches (client.resourceUrl (executionList realm parent)) listing)
      (fails : listing.read client (Record.list AuthenticationExecutionInfo.decode)
        (executionList realm parent) = .error error) :
      SubflowSearch client realm parent aliasName [listing] (absence error)
  | scanned {listing : Exchange} {found : List AuthenticationExecutionInfo}
      {fetched : List (String × Exchange)} {result : Except Error (Option String)}
      (fetches : Fetches (client.resourceUrl (executionList realm parent)) listing)
      (reads : listing.read client (Record.list AuthenticationExecutionInfo.decode)
        (executionList realm parent) = .ok found)
      (direct : ∀ entry ∈ fetched, ∃ execution ∈ found, execution.authenticationFlow = true ∧
        execution.level = 0 ∧ execution.flowId = some entry.1)
      (scans : Scanned client realm aliasName (found.filterMap directFlow?) fetched result) :
      SubflowSearch client realm parent aliasName (listing :: fetched.map Prod.snd) result

theorem scanned_nil : Scanned client realm aliasName [] [] (.ok none) where
  order := List.prefix_rfl
  targets := List.forall_mem_nil _
  passed := List.forall_mem_nil _
  ended := .inr ⟨rfl, List.forall_mem_nil _, rfl⟩

section Flows

variable {id : String} {rest : List String} {exchange : Exchange}
  {result : Except Error (Option String)}
  (fetches : Fetches (client.resourceUrl (flowResource realm id)) exchange)
include fetches

/-- The first flow decides. -/
theorem scanned_of_decision
    (decides : flowDecision? client realm aliasName (id, exchange) = some result) :
    Scanned client realm aliasName (id :: rest) [(id, exchange)] result where
  order := ⟨rest, rfl⟩
  targets entry member := by
    obtain rfl := List.mem_singleton.1 member
    exact fetches
  passed := List.forall_mem_nil _
  ended := .inl ⟨_, rfl, decides⟩

/-- The first flow does not decide, and those behind it are searched. -/
theorem Scanned.cons {fetched : List (String × Exchange)}
    (passes : flowDecision? client realm aliasName (id, exchange) = none)
    (scanned : Scanned client realm aliasName rest fetched result) :
    Scanned client realm aliasName (id :: rest) ((id, exchange) :: fetched) result where
  order := List.cons_prefix_cons.2 ⟨rfl, scanned.order⟩
  targets := List.forall_mem_cons.2 ⟨fetches, scanned.targets⟩
  passed entry member := by
    cases fetched with
    | nil => cases member
    | cons next later =>
      rw [List.dropLast_cons_cons] at member
      rcases List.mem_cons.1 member with rfl | member
      · exact passes
      · exact scanned.passed entry member
  ended := by
    rcases scanned.ended with ⟨last, ends, decides⟩ | ⟨all, undecided, nothing⟩
    · refine .inl ⟨last, ?_, decides⟩
      rw [List.getLast?_cons, ends, Option.getD_some]
    · refine .inr ⟨?_, List.forall_mem_cons.2 ⟨passes, undecided⟩, nothing⟩
      rw [List.map_cons, all]

end Flows

/-- What follows the fetch of a flow in the search for an alias among it and further flows. -/
def afterFlow (realm aliasName : String) (rest : List String) (flow : AuthenticationFlow) :
    Search (Option String) :=
  if flow.aliasName == aliasName then pure (some flow.id) else firstFlow realm aliasName rest

/-- A search among flows begins with the first one. -/
theorem settled_firstFlow_cons (id : String) (rest : List String) :
    settled (firstFlow realm aliasName (id :: rest)) =
      .fetch (flowResource realm id) fun reply =>
        resume (afterFlow realm aliasName rest)
          (reply.bind (Document.decode AuthenticationFlow.decode)) :=
  settled_get_bind AuthenticationFlow.decode (flowResource realm id) _

/-- A search among flows goes through them in their order, whatever the server answers. -/
theorem scanned_firstFlow (admits : Admits client environment valid) (ids : List String)
    {session : Session} (holds : Admitted client valid session) :
    ∃ fetched result,
      (run environment client (settled (firstFlow realm aliasName ids)) session).1 = some result ∧
        runGets environment client (settled (firstFlow realm aliasName ids)) session =
          fetched.map Prod.snd ∧
        Scanned client realm aliasName ids fetched result := by
  -- Each fetch leaves another session, of which the induction keeps that its token is accepted.
  induction ids generalizing session with
  | nil => exact ⟨[], .ok none, rfl, runGets_done environment client _ session, scanned_nil⟩
  | cons id rest ih =>
    obtain ⟨exchange, after, fetches, kept, returned, made⟩ :=
      run_fetch_admitted admits (flowResource realm id) (fun reply =>
        resume (afterFlow realm aliasName rest)
          (reply.bind (Document.decode AuthenticationFlow.decode))) holds
    rw [settled_firstFlow_cons, returned, made]
    show ∃ fetched result, (run environment client (resume (afterFlow realm aliasName rest)
      (exchange.read client AuthenticationFlow.decode (flowResource realm id))) after).1 = _ ∧
        exchange :: runGets environment client (resume (afterFlow realm aliasName rest)
          (exchange.read client AuthenticationFlow.decode (flowResource realm id))) after = _ ∧ _
    cases read : exchange.read client AuthenticationFlow.decode (flowResource realm id) with
    | error error =>
      have decides : flowDecision? client realm aliasName (id, exchange) =
          some (absence error) := by rw [flowDecision?, read]; rfl
      refine ⟨[(id, exchange)], absence error, rfl, ?_, scanned_of_decision fetches decides⟩
      rw [resume, runGets_done]
      rfl
    | ok flow =>
      rw [resume, afterFlow]
      by_cases same : flow.aliasName = aliasName
      · rw [if_pos (beq_iff_eq.2 same)]
        have decides : flowDecision? client realm aliasName (id, exchange) =
            some (.ok (if flow.id = "" then none else some flow.id)) := by
          rw [flowDecision?, read]
          exact if_pos same
        refine ⟨[(id, exchange)], _, ?_, ?_, scanned_of_decision fetches decides⟩
        · rw [← Collection.settle_id]
          rfl
        · exact congrArg _ (runGets_done environment client _ after)
      · rw [if_neg (by rwa [beq_iff_eq])]
        have passes : flowDecision? client realm aliasName (id, exchange) = none := by
          rw [flowDecision?, read]
          exact if_neg same
        obtain ⟨fetched, result, ended, later, scanned⟩ := ih kept
        exact ⟨(id, exchange) :: fetched, result, ended, congrArg _ later,
          scanned.cons fetches passes⟩

variable {params : Parameters}

/-- A lookup without an external name asks for the executions of the parent, and searches the flows
directly below it. -/
theorem resolve_subflow (texts : Kind.authenticationSubflow.HasTexts params) :
    Kind.authenticationSubflow.resolve "" params =
      .fetch (executionList (params.textOf Param.realmId) (params.textOf Param.parentFlowAlias))
        fun reply =>
          resume (fun found => firstFlow (params.textOf Param.realmId)
              (params.textOf Param.aliasName) (subflowIds found))
            (reply.bind (Document.decode (Record.list AuthenticationExecutionInfo.decode))) := by
  obtain ⟨selected, selects⟩ := Kind.select_of_hasTexts texts
  have given (key : String) (declared : key ∈ Kind.authenticationSubflow.required) :
      selected.text key = .ok (params.textOf key) :=
    Kind.text_selected (Strategy.selected_of_select selects) texts (.inl declared)
  rw [Kind.resolve, Strategy.resolve, selects]
  dsimp only
  rw [if_pos (String.isEmpty_iff.2 rfl)]
  show Plan.bind (byParameters .authenticationSubflow selected).run _ = _
  rw [byParameters, run_param_bind (given Param.realmId (by decide)),
    run_param_bind (given Param.parentFlowAlias (by decide)),
    run_param_bind (given Param.aliasName (by decide))]
  exact settled_get_bind _ (executionList _ _) _

/-- Against a server that accepts its tokens and may answer anything else, a lookup of a subflow
without an external name requests the list of executions of the parent once, and then the flows
directly below it, in their order, until one of them decides. -/
theorem run_resolve_subflow (texts : Kind.authenticationSubflow.HasTexts params)
    (admits : Admits client environment valid) {session : Session}
    (holds : Admitted client valid session) :
    ∃ result,
      (run environment client (Kind.authenticationSubflow.resolve "" params) session).1 =
          some result ∧
        SubflowSearch client (params.textOf Param.realmId) (params.textOf Param.parentFlowAlias)
          (params.textOf Param.aliasName)
          (runGets environment client (Kind.authenticationSubflow.resolve "" params) session)
          result := by
  obtain ⟨listing, after, fetches, kept, returned, made⟩ :=
    run_fetch_admitted admits (executionList (params.textOf Param.realmId)
      (params.textOf Param.parentFlowAlias)) (fun reply =>
        resume (fun found => firstFlow (params.textOf Param.realmId)
            (params.textOf Param.aliasName) (subflowIds found))
          (reply.bind (Document.decode (Record.list AuthenticationExecutionInfo.decode)))) holds
  rw [resolve_subflow texts, returned, made]
  cases read : listing.read client (Record.list AuthenticationExecutionInfo.decode)
    (executionList (params.textOf Param.realmId) (params.textOf Param.parentFlowAlias)) with
  | error error =>
    have failed := read
    rw [Exchange.read] at failed
    rw [failed, resume, runGets_done]
    exact ⟨absence error, rfl, .unlisted fetches read⟩
  | ok found =>
    have listed := read
    rw [Exchange.read] at listed
    rw [listed, resume]
    obtain ⟨fetched, result, ended, later, scanned⟩ :=
      scanned_firstFlow admits (subflowIds found) kept
    rw [ended, later]
    rw [subflowIds_eq] at scanned
    refine ⟨result, rfl, .scanned fetches read (fun entry member => ?_) scanned⟩
    exact direct_of_mem (scanned.order.subset (List.mem_map_of_mem member))

/-! ### A subflow among others -/

/-- The parameters of a subflow. -/
def subflowParams : Parameters :=
  .ofEntries [("realm_id", .string "r"), ("parent_flow_alias", .string "p"),
    ("alias", .string "a")]

theorem hasTexts_subflowParams : Kind.authenticationSubflow.HasTexts subflowParams where
  required key declared := by
    have listed : key = Param.realmId ∨ key = Param.parentFlowAlias ∨ key = Param.aliasName := by
      simpa [Kind.required] using declared
    rcases listed with rfl | rfl | rfl <;> exact ⟨_, rfl⟩
  optional _ declared := by cases declared

/-- The executions of a flow: a nested subflow, an execution, and three direct subflows. -/
def siblings : String :=
  "[\x7b\"id\":\"1\",\"authenticationFlow\":true,\"level\":1,\"flowId\":\"n\"\x7d," ++
    "\x7b\"id\":\"2\",\"flowId\":\"m\"\x7d," ++
    "\x7b\"id\":\"3\",\"authenticationFlow\":true,\"flowId\":\"f\"\x7d," ++
    "\x7b\"id\":\"4\",\"authenticationFlow\":true,\"flowId\":\"g\"\x7d," ++
    "\x7b\"id\":\"5\",\"authenticationFlow\":true,\"flowId\":\"h\"\x7d]"

/-- A realm with these executions below one flow; only the flow `g` has the alias `a`. -/
def siblingFlows (url : Url) : Response :=
  if url = (Client.localClient.resourceUrl (executionList "r" "p")).target then
    ⟨200, .complete (Text.Utf8.encode siblings.toList)⟩
  else if url = (Client.localClient.resourceUrl (flowResource "r" "f")).target then
    ⟨200, .complete (Text.Utf8.encode "\x7b\"id\":\"f\",\"alias\":\"b\"\x7d".toList)⟩
  else if url = (Client.localClient.resourceUrl (flowResource "r" "g")).target then
    ⟨200, .complete (Text.Utf8.encode "\x7b\"id\":\"g\",\"alias\":\"a\"\x7d".toList)⟩
  else ⟨404, .complete []⟩

theorem authorized_siblingFlows (url : Url) : (siblingFlows url).status ≠ unauthorized := by
  unfold siblingFlows
  split
  · decide
  split
  · decide
  split
  · decide
  · decide

/-- The subflow is found behind one with another alias, and the flow behind it is not fetched. -/
theorem run_resolve_subflow_siblings :
    Kind.authenticationSubflow.HasTexts subflowParams ∧
      Admits Client.localClient (tokenServer true siblingFlows) (fun _ => True) ∧
      (run (tokenServer true siblingFlows) Client.localClient
        (Kind.authenticationSubflow.resolve "" subflowParams) fresh).1 = some (.ok (some "g")) ∧
      SubflowSearch Client.localClient "r" "p" "a"
        (runGets (tokenServer true siblingFlows) Client.localClient
          (Kind.authenticationSubflow.resolve "" subflowParams) fresh) (.ok (some "g")) ∧
      fetchedUrls (tokenServer true siblingFlows) Client.localClient
          (Kind.authenticationSubflow.resolve "" subflowParams) fresh =
        [executionList "r" "p", flowResource "r" "f", flowResource "r" "g"].map fun resource =>
          (Client.localClient.resourceUrl resource).target := by
  have found : (run (tokenServer true siblingFlows) Client.localClient
      (Kind.authenticationSubflow.resolve "" subflowParams) fresh).1 = some (.ok (some "g")) := by
    decide +kernel
  have admits : Admits Client.localClient (tokenServer true siblingFlows) fun _ => True :=
    admits_tokenServer rfl authorized_siblingFlows
  obtain ⟨result, returned, searched⟩ :=
    run_resolve_subflow hasTexts_subflowParams admits admitted_fresh
  obtain rfl : result = .ok (some "g") := Option.some.inj (returned.symm.trans found)
  exact ⟨hasTexts_subflowParams, admits, found, searched, by decide +kernel⟩

end Session

end RealmLookup
