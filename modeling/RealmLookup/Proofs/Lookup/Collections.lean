import RealmLookup.Proofs.Lookup.Absence
import RealmLookup.Proofs.Session.Discipline

/-!
# Searches of collections

Most kinds of objects are searched in one list that the server answers with.  The objects that match
the parameters are counted exactly: none of them is missed, and no other entry of the list counts,
so the result depends on the matching entries alone.

## Main definitions

* `Lookup.Collection` : a list that a search asks for, and the entries that it looks for.
* `Kind.collection?` : the collection in which the objects of a kind are searched.
* `Kind.HasTexts` : parameters that are texts.
* `Lookup.Collection.Selects` : the result of a search by the entries that match.

## Main results

* `Kind.collection?_isSome_iff` : which kinds are searched in a collection.
* `Kind.resolve_collection` : a search asks for its collection and settles what it is replied.
* `Session.run_resolve_collection` : a run of a search selects the matching entries.
-/

namespace RealmLookup

open RealmLookup.Admin RealmLookup.Admin.Plan RealmLookup.Lookup RealmLookup.Representation

/-! ### Collections -/

/-- A list that a search asks for, and the entries that it looks for. -/
structure Lookup.Collection where
  resource : Resource
  Entry : Type
  decoder : Decoder Entry
  id : Entry → String
  /-- Whether an entry is looked for. -/
  isMatch : Entry → Bool
  /-- Whether several entries are ambiguous; the first one is taken if they are not. -/
  unique : Bool

namespace Lookup

/-- The components of a kind and a name. -/
def ComponentKind.collection (kind : ComponentKind) (realm name : String) : Collection where
  resource := ⟨realm, ["components"],
    [("type", kind.providerType), ("parent", realm), ("name", name)]⟩
  Entry := Component
  decoder := Component.decode
  id := Component.id
  isMatch component := component.providerId == kind.providerId && component.name == name
  unique := true

end Lookup

namespace Kind

/-- The collection in which the objects of a kind are searched.  Subflows are searched in several
requests, roles have addresses of their own, settings of executions are not searched, and protocol
mappers must have one owner. -/
def collection? (kind : Kind) (params : Parameters) : Option Collection :=
  let realm := params.textOf Param.realmId
  let name := params.textOf Param.name
  match kind with
  | .authenticationFlow =>
      some {
        resource := ⟨realm, ["authentication", "flows"], []⟩
        Entry := AuthenticationFlow
        decoder := AuthenticationFlow.decode
        id := AuthenticationFlow.id
        isMatch flow := flow.aliasName == params.textOf Param.aliasName
        unique := false }
  | .authenticationExecution =>
      some {
        resource := ⟨realm,
          ["authentication", "flows", params.textOf Param.parentFlowAlias, "executions"], []⟩
        Entry := AuthenticationExecutionInfo
        decoder := AuthenticationExecutionInfo.decode
        id := AuthenticationExecutionInfo.id
        isMatch execution :=
          !execution.authenticationFlow && execution.level == 0 &&
            execution.providerId == some (params.textOf Param.authenticator)
        unique := true }
  | .organization =>
      some {
        resource := ⟨params.textOf Param.realm, ["organizations"],
          [("search", name), ("exact", "true")]⟩
        Entry := Organization
        decoder := Organization.decode
        id := Organization.id
        isMatch organization := organization.name == name
        unique := false }
  | .group =>
      let parent := params.textOf Param.parentId
      some {
        resource := ⟨realm, if parent = "" then ["groups"] else ["groups", parent, "children"],
          [("search", name), ("exact", "true")]⟩
        Entry := Group
        decoder := Group.decode
        id := Group.id
        isMatch group := group.name == name
        unique := true }
  | .openIdClient =>
      some {
        resource := ⟨realm, ["clients"], [("clientId", params.textOf Param.clientId)]⟩
        Entry := Representation.Client
        decoder := Representation.Client.decode
        id := Representation.Client.id
        isMatch client := client.clientId == params.textOf Param.clientId
        unique := true }
  | .realmKeystoreRsa => some (rsaKeystore.collection realm name)
  | .ldapUserFederation => some (ldapFederation.collection realm name)
  | .genericProtocolMapper =>
      (ownerOf (params.textOf Param.clientId) (params.textOf Param.clientScopeId)).toOption.map
        fun owner => {
          resource := ⟨realm, owner.segments ++ ["protocol-mappers", "models"], []⟩
          Entry := ProtocolMapper
          decoder := ProtocolMapper.decode
          id := ProtocolMapper.id
          isMatch mapper := mapper.name == name
          unique := true }
  | .authenticationSubflow | .authenticationExecutionConfig | .role => none

/-- Whether parameters are texts: all required ones, and the optional ones that are there. -/
structure HasTexts (kind : Kind) (params : Parameters) : Prop where
  required : ∀ key ∈ kind.required, ∃ text, params.get? key = some (.string text)
  optional : ∀ key ∈ kind.optional, ∀ value, params.get? key = some value →
    ∃ text, value = .string text

end Kind

namespace Lookup.Collection

variable (collection : Collection)

/-- The number of entries that are looked for. -/
def count (found : List collection.Entry) : Nat :=
  found.countP collection.isMatch

/-- The result of a search by the entries that match.  An empty identifier is none. -/
structure Selects (found : List collection.Entry) (result : Except Error (Option String)) : Prop
    where
  missing : collection.count found = 0 → result = .ok none
  single : ∀ entry ∈ found, collection.isMatch entry = true → collection.count found = 1 →
    result = .ok (if collection.id entry = "" then none else some (collection.id entry))
  several : 2 ≤ collection.count found → collection.unique = true →
    result = .error (.ambiguous (collection.count found))
  first : ∀ before entry later, found = before ++ entry :: later →
    (∀ other ∈ before, collection.isMatch other = false) → collection.isMatch entry = true →
      collection.unique = false →
        result = .ok (if collection.id entry = "" then none else some (collection.id entry))

/-- The identifier of the entry that is looked for. -/
def pick (found : List collection.Entry) : Except Error (Option String) :=
  if collection.unique then singleOrNone collection.id (found.filter collection.isMatch)
  else .ok ((found.find? collection.isMatch).map collection.id)

/-- What a search makes of the reply to the request for a collection. -/
def outcome (reply : Reply) : Except Error (Option String) :=
  readReply (Record.list collection.decoder) collection.pick reply

variable {collection} {found : List collection.Entry}

theorem settle_id (id : String) :
    Strategy.settle (.ok (some id)) = .ok (if id = "" then none else some id) :=
  congrArg Except.ok (nonEmpty_eq id)

theorem pick_of_unique (unique : collection.unique = true) :
    collection.pick found = singleOrNone collection.id (found.filter collection.isMatch) := by
  rw [pick, unique, if_pos rfl]

theorem pick_of_first (first : collection.unique = false) :
    collection.pick found =
      .ok ((found.filter collection.isMatch).head?.map collection.id) := by
  rw [pick, first, if_neg Bool.false_ne_true, List.head?_filter]

/-- The matching entries determine the result. -/
theorem selects_pick : collection.Selects found (Strategy.settle (collection.pick found)) := by
  have counted : collection.count found = (found.filter collection.isMatch).length :=
    List.countP_eq_length_filter
  refine ⟨fun missing => ?_, fun entry member fits single => ?_, fun several unique => ?_, ?_⟩
  · have blank : found.filter collection.isMatch = [] :=
      List.length_eq_zero_iff.1 (counted.symm.trans missing)
    cases unique : collection.unique with
    | true =>
      rw [pick_of_unique unique, blank]
      rfl
    | false =>
      rw [pick_of_first unique, blank]
      rfl
  · obtain ⟨only, matching⟩ := List.length_eq_one_iff.1 (counted.symm.trans single)
    have listed : entry ∈ found.filter collection.isMatch := List.mem_filter.2 ⟨member, fits⟩
    rw [matching, List.mem_singleton] at listed
    rw [← settle_id, listed]
    cases unique : collection.unique with
    | true =>
      rw [pick_of_unique unique, matching]
      rfl
    | false =>
      rw [pick_of_first unique, matching]
      rfl
  · rw [counted] at several ⊢
    rw [pick_of_unique unique]
    match matching : found.filter collection.isMatch with
    | [] => simp [matching] at several
    | [_] => simp [matching] at several
    | _ :: _ :: _ => rfl
  · rintro before entry later rfl others fits first
    have none : before.filter collection.isMatch = [] :=
      List.filter_eq_nil_iff.2 fun other member => by simp [others other member]
    rw [pick_of_first first, List.filter_append, none, List.nil_append,
      List.filter_cons_of_pos fits]
    exact settle_id _

end Lookup.Collection

/-! ### Searches as plans -/

namespace Kind

variable {kind : Kind} {params selected : Parameters} {collection : Collection}

theorem byParameters_collection
    (texts : ∀ key, key ∈ kind.required ∨ key ∈ kind.optional →
      selected.text key = .ok (params.textOf key))
    (collected : kind.collection? params = some collection) :
    (byParameters kind selected).run =
      .fetch collection.resource fun reply => .done (collection.outcome reply) := by
  unfold byParameters
  cases kind with
  | authenticationSubflow => cases collected
  | authenticationExecutionConfig => cases collected
  | role => cases collected
  | authenticationFlow =>
    cases collected
    dsimp only
    rw [run_param_bind (texts Param.realmId (by decide)),
      run_param_bind (texts Param.aliasName (by decide))]
    exact run_ask_map_bind _ _ _ _
  | authenticationExecution =>
    cases collected
    dsimp only
    rw [run_param_bind (texts Param.realmId (by decide)),
      run_param_bind (texts Param.parentFlowAlias (by decide)),
      run_param_bind (texts Param.authenticator (by decide))]
    exact run_ask_bind _ _ _
  | organization =>
    cases collected
    dsimp only
    rw [run_param_bind (texts Param.realm (by decide)),
      run_param_bind (texts Param.name (by decide))]
    exact run_ask_map_bind _ _ _ _
  | group =>
    cases collected
    dsimp only
    rw [run_param_bind (texts Param.realmId (by decide)),
      run_param_bind (texts Param.name (by decide)),
      run_param_bind (texts Param.parentId (by decide))]
    by_cases topLevel : params.textOf Param.parentId = ""
    · rw [topLevel, if_pos rfl]
      exact run_ask_map_bind _ _ _ _
    · rw [if_neg topLevel, if_neg (by rwa [String.isEmpty_iff])]
      exact run_ask_map_bind _ _ _ _
  | openIdClient =>
    cases collected
    dsimp only
    rw [run_param_bind (texts Param.realmId (by decide)),
      run_param_bind (texts Param.clientId (by decide))]
    exact run_ask_map_bind _ _ _ _
  | realmKeystoreRsa =>
    cases collected
    dsimp only
    rw [run_param_bind (texts Param.realmId (by decide)),
      run_param_bind (texts Param.name (by decide))]
    exact run_ask_bind _ _ _
  | ldapUserFederation =>
    cases collected
    dsimp only
    rw [run_param_bind (texts Param.realmId (by decide)),
      run_param_bind (texts Param.name (by decide))]
    exact run_ask_bind _ _ _
  | genericProtocolMapper =>
    unfold collection? at collected
    dsimp only at collected
    cases owns : ownerOf (params.textOf Param.clientId) (params.textOf Param.clientScopeId) with
    | error error =>
      rw [owns] at collected
      cases collected
    | ok owner =>
      rw [owns] at collected
      cases collected
      dsimp only
      rw [run_param_bind (texts Param.realmId (by decide)),
        run_param_bind (texts Param.name (by decide)),
        run_owner_bind (texts Param.clientId (by decide)) (texts Param.clientScopeId (by decide)),
        owns]
      exact run_ask_bind _ _ _

/-- Which kinds are searched in a collection: all but three, protocol mappers if they have exactly
one owner. -/
theorem collection?_isSome_iff : (kind.collection? params).isSome = true ↔
    kind ≠ .authenticationSubflow ∧ kind ≠ .authenticationExecutionConfig ∧ kind ≠ .role ∧
      (kind = .genericProtocolMapper →
        (params.textOf Param.clientId = "" ↔ params.textOf Param.clientScopeId ≠ "")) := by
  cases kind with
  | genericProtocolMapper =>
    have owned : (ownerOf (params.textOf Param.clientId)
        (params.textOf Param.clientScopeId)).toOption.isSome = true ↔
          (params.textOf Param.clientId = "" ↔ params.textOf Param.clientScopeId ≠ "") := by
      unfold ownerOf
      rw [← String.isEmpty_iff, ne_eq, ← String.isEmpty_iff]
      cases (params.textOf Param.clientId).isEmpty <;>
        cases (params.textOf Param.clientScopeId).isEmpty <;> simp [Except.toOption]
    simp [collection?, owned]
  | _ => simp [collection?]

/-- Texts are selected as texts. -/
theorem text_selected (selects : kind.strategy.Selected params selected)
    (texts : kind.HasTexts params) {key : String}
    (declared : key ∈ kind.required ∨ key ∈ kind.optional) :
    selected.text key = .ok (params.textOf key) := by
  have value := selects.values key ((selects.keys key).2 declared)
  unfold Parameters.text Parameters.textOf
  rw [value]
  rcases declared with required | optional
  · obtain ⟨text, given⟩ := texts.required key required
    rw [given]
    rfl
  · cases given : params.get? key with
    | none => rfl
    | some found =>
      obtain ⟨text, rfl⟩ := texts.optional key optional found given
      rfl

theorem select_of_hasTexts (texts : kind.HasTexts params) :
    ∃ selected, kind.strategy.select params = .ok selected := by
  have present : kind.strategy.required.find? (Strategy.isAbsent params) = none := by
    refine List.find?_eq_none.2 fun key member => ?_
    obtain ⟨text, given⟩ := texts.required key member
    simp [Strategy.isAbsent, given]
  rw [Strategy.select_eq, present]
  exact ⟨_, rfl⟩

/-- A search without an external name asks for its collection and settles what it is replied. -/
theorem resolve_collection (texts : kind.HasTexts params)
    (collected : kind.collection? params = some collection) :
    kind.resolve "" params = .fetch collection.resource fun reply =>
      .done (Strategy.settle (collection.outcome reply)) := by
  obtain ⟨selected, selects⟩ := select_of_hasTexts texts
  have searched := byParameters_collection
    (fun _ declared => text_selected (Strategy.selected_of_select selects) texts declared) collected
  have found : kind.strategy.byParameters selected = .fetch collection.resource fun reply =>
      .done (collection.outcome reply) := searched
  rw [resolve, Strategy.resolve, selects]
  dsimp only
  rw [if_pos (String.isEmpty_iff.2 rfl), Strategy.search, found]
  rfl

end Kind

/-! ### Runs of searches -/

namespace Session

variable {environment : Environment} {client : Client} {kind : Kind} {params : Parameters}
  {session : Session} {collection : Collection}

/-- A run that searches a collection. -/
structure Searched (environment : Environment) (client : Client) (collection : Collection)
    (plan : Plan (Except Error (Option String))) (session : Session) : Prop where
  /-- One resource is asked for, the collection. -/
  asks : visits environment client plan session =
    [visit environment client collection.resource session]
  /-- One request is sent for its URL, and another one just if the first one was rejected. -/
  requests : Leads environment client (client.resourceUrl collection.resource) session
    (visit environment client collection.resource session).exchanges
  /-- Nothing else is sent. -/
  sent : (run environment client plan session).2.exchanges =
    session.exchanges ++ (visit environment client collection.resource session).exchanges
  /-- If the server answers with a list, its matching entries determine the result. -/
  selects : ∀ body found,
    (visit environment client collection.resource session).finding = .body body →
      body.read? (Record.list collection.decoder) = some found →
        ∃ result, (run environment client plan session).1 = some result ∧
          collection.Selects found result

/-- A run of a search without an external name selects the matching entries of its collection. -/
theorem run_resolve_collection (texts : kind.HasTexts params)
    (collected : kind.collection? params = some collection) (environment : Environment)
    (client : Client) (session : Session) :
    Searched environment client collection (kind.resolve "" params) session := by
  have asks : visits environment client (kind.resolve "" params) session =
      [visit environment client collection.resource session] := by
    rw [Kind.resolve_collection texts collected, visits]
    cases (visit environment client collection.resource session).reply <;> rfl
  refine ⟨asks, ?_, ?_, fun body found finds reads => ?_⟩
  · obtain ⟨result, responded, -⟩ := visit_responded environment client collection.resource session
    exact responded.leads
  · rw [run_exchanges, asks, List.flatMap_singleton]
  · obtain ⟨url, replied⟩ := reply_of_finding finds
    refine ⟨Strategy.settle (collection.pick found), ?_, Collection.selects_pick⟩
    rw [Kind.resolve_collection texts collected, run_fetch_visit, replied]
    have outcome : collection.outcome (.ok ⟨url, body⟩) = collection.pick found := by
      rw [Collection.outcome, readReply, Except.bind, Document.decode, reads]
    dsimp only
    rw [outcome]
    rfl

/-! ### Groups of one name -/

/-- The parameters of a top-level group. -/
def groupParams : Parameters :=
  .ofEntries [("realm_id", .string "r"), ("name", .string "n")]

theorem hasTexts_groupParams : Kind.group.HasTexts groupParams where
  required key declared := by
    have listed : key = Param.realmId ∨ key = Param.name := by simpa [Kind.required] using declared
    rcases listed with rfl | rfl <;> exact ⟨_, rfl⟩
  optional key declared value given := by
    obtain rfl := List.mem_singleton.1 declared
    cases given

/-- A list of groups, two of which have the name that is looked for. -/
def groupsBody : Http.Body :=
  .complete (Text.Utf8.encode ("[\x7b\"id\":\"a\",\"name\":\"n\"\x7d," ++
    "\x7b\"id\":\"b\",\"name\":\"m\"\x7d,\x7b\"id\":\"a\",\"name\":\"n\"\x7d]").toList)

/-- Two groups of the name are ambiguous, even if they have the same identifier. -/
theorem run_resolve_collection_groups :
    Kind.group.HasTexts groupParams ∧ (Kind.group.collection? groupParams).isSome = true ∧
      (run (tokenServer true fun _ => ⟨200, groupsBody⟩) Client.localClient
        (Kind.group.resolve "" groupParams) fresh).1 = some (.error (.ambiguous 2)) := by
  refine ⟨hasTexts_groupParams, rfl, ?_⟩
  have serves := @serves_tokenServer (fun _ => ⟨200, groupsBody⟩) Client.localClient true
    fun _ => by decide
  have searched := run_resolve_collection hasTexts_groupParams rfl
    (tokenServer true fun _ => ⟨200, groupsBody⟩) Client.localClient fresh
  have counted : (groupsBody.read? (Record.list Group.decode)).map
      (fun found => found.countP (·.name == "n")) = some 2 := by
    decide +kernel
  obtain ⟨found, reads, counted⟩ := Option.map_eq_some_iff.1 counted
  obtain ⟨result, returned, selects⟩ := searched.selects groupsBody found
    (by rw [visit_finding, (visit_served serves _ ready_fresh).1]; rfl) reads
  rw [returned, selects.several (Nat.le_of_eq counted.symm) rfl]
  exact congrArg (fun count => some (Except.error (Error.ambiguous count))) counted

end Session

end RealmLookup
