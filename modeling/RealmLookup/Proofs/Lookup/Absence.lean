import RealmLookup.Proofs.Lookup.Searches
import RealmLookup.Proofs.Session.Failures
import RealmLookup.Proofs.Session.Transparency

/-!
# Absence

When a lookup says that an object is not there yet, the server has said so: its last answer was
that there is no such object, or a body without one.  No failure is taken for absence.

## Main definitions

* `Kind.id?` : the identifier in the body of an object that is fetched by its external name.
* `Kind.matches?` : the identifiers of the objects in a body that match the parameters.
* `Kind.InVain`, `Kind.Vain` : what the last request, and the requests of a lookup find if there is
  no object.

## Main results

* `Kind.trace_none` : a lookup that finds nothing has searched in vain.
* `Session.run_resolve_honest` : no failure of a run is taken for absence.
-/

namespace RealmLookup

open RealmLookup.Http RealmLookup.Admin RealmLookup.Admin.Plan RealmLookup.Representation
  RealmLookup.Lookup

/-! ### Identifiers in bodies -/

/-- The text of a parameter, empty if there is none. -/
def Parameters.textOf (params : Parameters) (key : String) : String :=
  match params.get? key with
  | some (.string text) => text
  | _ => ""

namespace Kind

/-- The identifier in the body of an object that is fetched by its external name. -/
def id? (kind : Kind) (body : Body) : Option String :=
  match kind with
  | .authenticationFlow => (body.read? AuthenticationFlow.decode).map AuthenticationFlow.id
  | .authenticationSubflow => (body.read? AuthenticationFlow.decode).map AuthenticationFlow.id
  | .authenticationExecution =>
      (body.read? AuthenticationExecution.decode).map AuthenticationExecution.id
  | .authenticationExecutionConfig =>
      (body.read? AuthenticationExecutionConfig.decode).map AuthenticationExecutionConfig.id
  | .organization => (body.read? Organization.decode).map Organization.id
  | .role => (body.read? Role.decode).map Role.id
  | .group => (body.read? Group.decode).map Group.id
  | .openIdClient => (body.read? Representation.Client.decode).map Representation.Client.id
  | .realmKeystoreRsa => (body.read? Component.decode).map Component.id
  | .ldapUserFederation => (body.read? Component.decode).map Component.id
  | .genericProtocolMapper => (body.read? ProtocolMapper.decode).map ProtocolMapper.id

/-- The identifiers of the components of a kind and a name. -/
def componentIds (kind : ComponentKind) (name : String) (found : List Component) : List String :=
  (found.filter fun component =>
    component.providerId == kind.providerId && component.name == name).map Component.id

/-- The identifiers of the objects in a body that match the parameters, where the first one is
selected if several can have the same name; none if the body cannot be read. -/
def matches? (kind : Kind) (params : Parameters) (body : Body) : Option (List String) :=
  match kind with
  | .authenticationFlow =>
      (body.read? (Record.list AuthenticationFlow.decode)).map fun found =>
        ((found.find? (·.aliasName == params.textOf Param.aliasName)).map
          AuthenticationFlow.id).toList
  | .authenticationSubflow =>
      (body.read? AuthenticationFlow.decode).map fun flow =>
        if flow.aliasName == params.textOf Param.aliasName then [flow.id] else []
  | .authenticationExecution =>
      (body.read? (Record.list AuthenticationExecutionInfo.decode)).map fun found =>
        (executionsOf (params.textOf Param.authenticator) found).map AuthenticationExecutionInfo.id
  | .authenticationExecutionConfig => none
  | .organization =>
      (body.read? (Record.list Organization.decode)).map fun found =>
        ((found.find? (·.name == params.textOf Param.name)).map Organization.id).toList
  | .role => (body.read? Role.decode).map fun role => [role.id]
  | .group =>
      (body.read? (Record.list Group.decode)).map fun found =>
        (found.filter (·.name == params.textOf Param.name)).map Group.id
  | .openIdClient =>
      (body.read? (Record.list Representation.Client.decode)).map fun found =>
        (found.filter (·.clientId == params.textOf Param.clientId)).map Representation.Client.id
  | .realmKeystoreRsa =>
      (body.read? (Record.list Component.decode)).map
        (componentIds rsaKeystore (params.textOf Param.name))
  | .ldapUserFederation =>
      (body.read? (Record.list Component.decode)).map
        (componentIds ldapFederation (params.textOf Param.name))
  | .genericProtocolMapper =>
      (body.read? (Record.list ProtocolMapper.decode)).map fun found =>
        (found.filter (·.name == params.textOf Param.name)).map ProtocolMapper.id

/-- What the last request of a search finds if there is no object: that there is none, a body in
which no object matches or the selected one has no identifier, or a flow without subflows. -/
inductive InVain (kind : Kind) (params : Parameters) : Finding → Prop
  | absent : InVain kind params .absent
  | unmatched {body : Body} {ids : List String} (read : kind.matches? params body = some ids)
      (nothing : ids = [] ∨ ids = [""]) : InVain kind params (.body body)
  | childless {body : Body} {found : List AuthenticationExecutionInfo}
      (subflow : kind = .authenticationSubflow)
      (read : body.read? (Record.list AuthenticationExecutionInfo.decode) = some found)
      (none : subflowIds found = []) : InVain kind params (.body body)

/-- What the requests of a lookup find if there is no object.  The object of the external name has
no identifier; or it is gone, or there is no external name, and then the search is in vain, which
for settings of an execution asks nothing. -/
inductive Vain (kind : Kind) (externalName : String) (params : Parameters) : List Finding → Prop
  | anonymous {body : Body} (named : externalName ≠ "") (read : kind.id? body = some "") :
      Vain kind externalName params [.body body]
  | notAsked (settings : kind = .authenticationExecutionConfig) (unnamed : externalName = "") :
      Vain kind externalName params []
  | gone (settings : kind = .authenticationExecutionConfig) (named : externalName ≠ "") :
      Vain kind externalName params [.absent]
  | searched {earlier : List Finding} {last : Finding} (unnamed : externalName = "")
      (vain : kind.InVain params last) : Vain kind externalName params (earlier ++ [last])
  | moved {earlier : List Finding} {last : Finding} (named : externalName ≠ "")
      (vain : kind.InVain params last) :
      Vain kind externalName params (.absent :: (earlier ++ [last]))

end Kind

/-! ### Traces in vain -/

namespace Lookup

variable {α β : Type} {trace : List (Resource × Reply)} {params : Parameters}
  {kind : Kind}

/-- What the replies of a trace say. -/
def findings (trace : List (Resource × Reply)) : List Finding :=
  trace.map fun entry => .ofReply entry.2

theorem ofReply_of_missing {error : Client.Error} (missing : error.isNotFound = true) :
    Finding.ofReply (.error error) = .absent := by
  rw [Finding.ofReply, missing]
  rfl

theorem textOf_of_text {key text : String} (given : params.text key = .ok text) :
    params.textOf key = text := by
  unfold Parameters.text at given
  unfold Parameters.textOf
  split at given
  · rename_i value
    rw [value]
    exact Except.ok.inj given
  · cases given
  · cases given

/-- An outcome that is settled as nothing does not report a failure. -/
theorem calm_of_settle {outcome : Except Error (Option String)}
    (nothing : Strategy.settle outcome = .ok none) : Calm outcome := by
  rintro error rfl
  unfold Strategy.settle at nothing
  dsimp only at nothing
  cases missing : error.isNotFound with
  | true => rfl
  | false =>
    rw [missing] at nothing
    cases nothing

/-- An optional identifier that is settled as nothing is absent or empty. -/
theorem toList_of_settle {id : Option String} (nothing : Strategy.settle (.ok id) = .ok none) :
    id.toList = [] ∨ id.toList = [""] := by
  cases id with
  | none => exact .inl rfl
  | some id =>
    have anonymous : Strategy.nonEmpty id = none := Except.ok.inj nothing
    rw [Strategy.eq_empty_of_nonEmpty anonymous]
    exact .inr rfl

/-- A single identifier that is settled as nothing is absent or empty. -/
theorem map_of_settle {id : α → String} {items : List α}
    (nothing : Strategy.settle (singleOrNone id items) = .ok none) :
    items.map id = [] ∨ items.map id = [""] := by
  match items with
  | [] => exact .inl rfl
  | [item] => exact toList_of_settle nothing
  | _ :: _ :: _ => cases nothing

/-- An object that is fetched by its external name. -/
theorem asked_ask_pure {decoder : Decoder α} {resource : Resource} {f : α → String}
    {outcome : Except Error String}
    (traced : Trace (do return f (← ask (Plan.get decoder resource)) : Search String).run trace
      outcome) (calm : Calm outcome) :
    Asked (fun body => (body.read? decoder).map f) trace outcome := by
  rcases trace_asked_bind traced calm trace_ask_get with
    ⟨resource, error, missing, rfl, rfl⟩ | ⟨resource, document, value, rfl, reads, rfl⟩
  · exact .missing missing
  · exact .found (by rw [reads, Option.map_some])

/-- An object that is fetched by its external name has the identifier of the body. -/
theorem trace_byExternalName {id : String} {outcome : Except Error String}
    (traced : Trace (byExternalName kind id params).run trace outcome) (calm : Calm outcome) :
    Asked kind.id? trace outcome := by
  cases kind with
  | authenticationSubflow =>
    obtain ⟨realm, -, traced⟩ := trace_param_bind traced calm
    obtain ⟨parent, -, traced⟩ := trace_param_bind traced calm
    exact asked_ask_pure traced calm
  | genericProtocolMapper =>
    obtain ⟨realm, -, traced⟩ := trace_param_bind traced calm
    obtain ⟨owner, traced⟩ := trace_owner_bind traced calm
    exact asked_ask_pure traced calm
  | _ =>
    obtain ⟨realm, -, traced⟩ := trace_param_bind traced calm
    exact asked_ask_pure traced calm

/-- What the last request of a trace found, if the search is in vain. -/
def EndsInVain (kind : Kind) (params : Parameters) (trace : List (Resource × Reply)) : Prop :=
  ∃ earlier last, findings trace = earlier ++ [last] ∧ kind.InVain params last

theorem endsInVain_of_missing {resource : Resource} {error : Client.Error}
    (missing : error.isNotFound = true) : EndsInVain kind params [(resource, .error error)] :=
  ⟨[], .absent, by rw [findings, List.map_singleton, ofReply_of_missing missing]; rfl, .absent⟩

theorem endsInVain_of_unmatched {resource : Resource} {document : Document} {ids : List String}
    (read : kind.matches? params document.body = some ids) (nothing : ids = [] ∨ ids = [""]) :
    EndsInVain kind params [(resource, .ok document)] :=
  ⟨[], .body document.body, rfl, .unmatched read nothing⟩

/-- A search by one request, whose reply the kind reads as the search does. -/
theorem endsInVain_of_asked {search : Search α} {read : Body → Option α}
    {next : α → Except Error (Option String)} {ids : α → List String}
    {outcome : Except Error (Option String)}
    (traced : Trace (search >>= fun value => ExceptT.mk (Plan.done (next value))).run trace outcome)
    (nothing : Strategy.settle outcome = .ok none)
    (asks : ∀ {first} {given : Except Error α}, Trace search.run first given → Calm given →
      Asked read first given)
    (selects : ∀ value, Strategy.settle (next value) = .ok none →
      ids value = [] ∨ ids value = [""])
    (matching : ∀ body, kind.matches? params body = (read body).map ids) :
    EndsInVain kind params trace := by
  rcases trace_asked_bind traced (calm_of_settle nothing) asks with
    ⟨resource, error, missing, rfl, -⟩ | ⟨resource, document, value, rfl, reads, rfl⟩
  · exact endsInVain_of_missing missing
  · refine endsInVain_of_unmatched ?_ (selects value nothing)
    rw [matching, reads]
    rfl

/-- A search for components. -/
theorem endsInVain_of_components {realm name : String} {component : ComponentKind}
    {outcome : Except Error (Option String)}
    (traced : Trace (componentId realm component name).run trace outcome)
    (nothing : Strategy.settle outcome = .ok none)
    (matching : ∀ body, kind.matches? params body =
      (body.read? (Record.list Component.decode)).map (Kind.componentIds component name)) :
    EndsInVain kind params trace :=
  endsInVain_of_asked traced nothing trace_ask_get (fun _ => map_of_settle) matching

/-- A search for a role. -/
theorem endsInVain_of_role {resource : Resource} {outcome : Except Error (Option String)}
    (traced : Trace (do
      return (← ask (Plan.getOptional Role.decode resource)).map Role.id : Search _).run trace
        outcome)
    (nothing : Strategy.settle outcome = .ok none) : EndsInVain .role params trace := by
  have calm := calm_of_settle nothing
  rcases trace_search_bind traced with ⟨error, rfl, ended⟩ | ⟨first, second, role, rfl, led, ended⟩
  · rcases trace_ask_getOptional ended calm.of_error with
      ⟨_, -, -, same⟩ | ⟨_, _, -, -, same⟩
    · cases same
    · cases same
  · obtain ⟨rfl, rfl⟩ := trace_done_iff.1 ended
    rw [List.append_nil]
    rcases trace_ask_getOptional led (calm_ok role) with
      ⟨error, missing, rfl, -⟩ | ⟨document, value, rfl, reads, same⟩
    · exact endsInVain_of_missing missing
    · obtain rfl := Except.ok.inj same
      refine endsInVain_of_unmatched ?_ (toList_of_settle nothing)
      rw [Kind.matches?, reads]
      rfl

/-- A search among subflows has none to fetch, or is in vain at the last one it fetches. -/
theorem endsInVain_of_firstFlow {realm : String} {ids : List String}
    {outcome : Except Error (Option String)}
    (traced : Trace (firstFlow realm (params.textOf Param.aliasName) ids).run trace outcome)
    (nothing : Strategy.settle outcome = .ok none) :
    ids = [] ∧ trace = [] ∨ EndsInVain .authenticationSubflow params trace := by
  have calm := calm_of_settle nothing
  induction ids generalizing trace with
  | nil => exact .inl ⟨rfl, (trace_done_iff.1 traced).1⟩
  | cons id rest ih =>
    refine .inr ?_
    rcases trace_search_bind traced with
      ⟨error, rfl, ended⟩ | ⟨first, second, flow, rfl, led, ended⟩
    · have asked := trace_ask_get ended calm.of_error
      cases asked with
      | missing missing => exact endsInVain_of_missing missing
    · have asked := trace_ask_get led (calm_ok flow)
      cases asked with
      | @found resource document _ reads =>
        have matching : Kind.authenticationSubflow.matches? params document.body =
            some (if flow.aliasName == params.textOf Param.aliasName then [flow.id] else []) := by
          rw [Kind.matches?, reads]
          rfl
        cases same : flow.aliasName == params.textOf Param.aliasName with
        | true =>
          rw [same] at ended matching
          obtain ⟨rfl, rfl⟩ := trace_done_iff.1 ended
          exact endsInVain_of_unmatched matching (toList_of_settle nothing)
        | false =>
          rw [same] at ended matching
          rcases ih ended with ⟨-, rfl⟩ | ⟨earlier, last, said, vain⟩
          · exact endsInVain_of_unmatched matching (.inl rfl)
          · refine ⟨.body document.body :: earlier, last, ?_, vain⟩
            rw [List.singleton_append, findings, List.map_cons]
            exact congrArg _ said

/-- A search for a subflow. -/
theorem endsInVain_of_subflows {realm parent : String} {outcome : Except Error (Option String)}
    (traced : Trace (ask (executions realm parent) >>= fun found =>
      firstFlow realm (params.textOf Param.aliasName) (subflowIds found)).run trace outcome)
    (nothing : Strategy.settle outcome = .ok none) :
    EndsInVain .authenticationSubflow params trace := by
  rcases trace_search_bind traced with ⟨error, rfl, ended⟩ | ⟨first, second, found, rfl, led, ended⟩
  · have asked := trace_ask_get ended (calm_of_settle nothing).of_error
    cases asked with
    | missing missing => exact endsInVain_of_missing missing
  · have asked := trace_ask_get led (calm_ok found)
    cases asked with
    | @found resource document _ reads =>
      rcases endsInVain_of_firstFlow ended nothing with ⟨none, rfl⟩ | ⟨earlier, last, said, vain⟩
      · exact ⟨[], .body document.body, rfl, .childless rfl reads none⟩
      · refine ⟨.body document.body :: earlier, last, ?_, vain⟩
        rw [List.singleton_append, findings, List.map_cons]
        exact congrArg _ said

/-- A search that finds nothing is in vain at its last request; settings of an execution are not
searched. -/
theorem trace_byParameters {outcome : Except Error (Option String)}
    (traced : Trace (byParameters kind params).run trace outcome)
    (nothing : Strategy.settle outcome = .ok none) :
    kind = .authenticationExecutionConfig ∧ trace = [] ∨ EndsInVain kind params trace := by
  have calm := calm_of_settle nothing
  cases kind with
  | authenticationExecutionConfig => exact .inl ⟨rfl, (trace_done_iff.1 traced).1⟩
  | authenticationFlow =>
    obtain ⟨realm, -, traced⟩ := trace_param_bind traced calm
    obtain ⟨aliasName, given, traced⟩ := trace_param_bind traced calm
    refine .inr (endsInVain_of_asked traced nothing trace_ask_map (fun _ => toList_of_settle) ?_)
    intro body
    rw [Kind.matches?, textOf_of_text given, Option.map_map]
    rfl
  | authenticationSubflow =>
    obtain ⟨realm, -, traced⟩ := trace_param_bind traced calm
    obtain ⟨parent, -, traced⟩ := trace_param_bind traced calm
    obtain ⟨aliasName, given, traced⟩ := trace_param_bind traced calm
    refine .inr ?_
    rw [← textOf_of_text given] at traced
    exact endsInVain_of_subflows traced nothing
  | authenticationExecution =>
    obtain ⟨realm, -, traced⟩ := trace_param_bind traced calm
    obtain ⟨parent, -, traced⟩ := trace_param_bind traced calm
    obtain ⟨authenticator, given, traced⟩ := trace_param_bind traced calm
    refine .inr (endsInVain_of_asked traced nothing trace_ask_get (fun _ => map_of_settle) ?_)
    intro body
    rw [Kind.matches?, textOf_of_text given]
  | organization =>
    obtain ⟨realm, -, traced⟩ := trace_param_bind traced calm
    obtain ⟨name, given, traced⟩ := trace_param_bind traced calm
    refine .inr (endsInVain_of_asked traced nothing trace_ask_map (fun _ => toList_of_settle) ?_)
    intro body
    rw [Kind.matches?, textOf_of_text given, Option.map_map]
    rfl
  | role =>
    obtain ⟨realm, -, traced⟩ := trace_param_bind traced calm
    obtain ⟨name, -, traced⟩ := trace_param_bind traced calm
    obtain ⟨clientId, -, traced⟩ := trace_param_bind traced calm
    refine .inr ?_
    cases realmRole : clientId.isEmpty with
    | true =>
      rw [realmRole] at traced
      exact endsInVain_of_role traced nothing
    | false =>
      rw [realmRole] at traced
      exact endsInVain_of_role traced nothing
  | group =>
    obtain ⟨realm, -, traced⟩ := trace_param_bind traced calm
    obtain ⟨name, given, traced⟩ := trace_param_bind traced calm
    obtain ⟨parent, -, traced⟩ := trace_param_bind traced calm
    have matching (body : Body) : Kind.group.matches? params body =
        ((body.read? (Record.list Group.decode)).map fun found =>
          found.filter (·.name == name)).map fun groups => groups.map Group.id := by
      rw [Kind.matches?, textOf_of_text given, Option.map_map]
      rfl
    refine .inr ?_
    cases topLevel : parent.isEmpty with
    | true =>
      rw [topLevel] at traced
      exact endsInVain_of_asked traced nothing trace_ask_map (fun _ => map_of_settle) matching
    | false =>
      rw [topLevel] at traced
      exact endsInVain_of_asked traced nothing trace_ask_map (fun _ => map_of_settle) matching
  | openIdClient =>
    obtain ⟨realm, -, traced⟩ := trace_param_bind traced calm
    obtain ⟨clientId, given, traced⟩ := trace_param_bind traced calm
    refine .inr (endsInVain_of_asked traced nothing trace_ask_map (fun _ => map_of_settle) ?_)
    intro body
    rw [Kind.matches?, textOf_of_text given, Option.map_map]
    rfl
  | realmKeystoreRsa =>
    obtain ⟨realm, -, traced⟩ := trace_param_bind traced calm
    obtain ⟨name, given, traced⟩ := trace_param_bind traced calm
    refine .inr (endsInVain_of_components traced nothing fun body => ?_)
    rw [Kind.matches?, textOf_of_text given]
  | ldapUserFederation =>
    obtain ⟨realm, -, traced⟩ := trace_param_bind traced calm
    obtain ⟨name, given, traced⟩ := trace_param_bind traced calm
    refine .inr (endsInVain_of_components traced nothing fun body => ?_)
    rw [Kind.matches?, textOf_of_text given]
  | genericProtocolMapper =>
    obtain ⟨realm, -, traced⟩ := trace_param_bind traced calm
    obtain ⟨name, given, traced⟩ := trace_param_bind traced calm
    obtain ⟨owner, traced⟩ := trace_owner_bind traced calm
    refine .inr (endsInVain_of_asked traced nothing trace_ask_get (fun _ => map_of_settle) ?_)
    intro body
    rw [Kind.matches?, textOf_of_text given]

end Lookup

namespace Kind

variable {kind : Kind} {externalName : String} {params selected : Parameters}

theorem textOf_selected (selects : kind.strategy.Selected params selected) {key : String}
    (declared : key ∈ kind.required ∨ key ∈ kind.optional) :
    selected.textOf key = params.textOf key := by
  have value := selects.values key ((selects.keys key).2 declared)
  unfold Parameters.textOf
  rw [value]
  cases params.get? key <;> rfl

/-- The objects that match the selected parameters match the given ones. -/
theorem matches?_selected (selects : kind.strategy.Selected params selected) (body : Body) :
    kind.matches? selected body = kind.matches? params body := by
  have same (key : String) (declared : key ∈ kind.required) :
      selected.textOf key = params.textOf key := textOf_selected selects (.inl declared)
  cases kind with
  | authenticationExecutionConfig => rfl
  | role => rfl
  | authenticationExecution =>
    rw [matches?, matches?, same Param.authenticator (by decide)]
  | openIdClient => rw [matches?, matches?, same Param.clientId (by decide)]
  | authenticationFlow => rw [matches?, matches?, same Param.aliasName (by decide)]
  | authenticationSubflow => rw [matches?, matches?, same Param.aliasName (by decide)]
  | _ => rw [matches?, matches?, same Param.name (by decide)]

theorem InVain.of_selected (selects : kind.strategy.Selected params selected) {last : Finding}
    (vain : kind.InVain selected last) : kind.InVain params last := by
  cases vain with
  | absent => exact .absent
  | unmatched read nothing =>
    rw [matches?_selected selects] at read
    exact .unmatched read nothing
  | childless subflow read none => exact .childless subflow read none

/-- A lookup that finds nothing has searched in vain. -/
theorem trace_none {trace : List (Resource × Reply)}
    (traced : Trace (kind.resolve externalName params) trace (.ok none)) :
    kind.Vain externalName params (findings trace) := by
  have ends := Strategy.trace_resolve traced
  generalize nothing : (Except.ok none : Except Error (Option String)) = result at ends
  cases ends with
  | unselected selects => cases nothing
  | failed selects name led other => cases nothing
  | named selects name led =>
    obtain rfl := Strategy.eq_empty_of_nonEmpty (Except.ok.inj nothing).symm
    have asked := trace_byExternalName led (calm_ok "")
    cases asked with
    | found reads => exact .anonymous name reads
  | searched selects unnamed led =>
    rcases trace_byParameters led nothing.symm with
      ⟨settings, rfl⟩ | ⟨earlier, last, said, vain⟩
    · exact .notAsked settings unnamed
    · rw [said]
      exact .searched unnamed (vain.of_selected (Strategy.selected_of_select selects))
  -- The first request said that the object is missing, and what follows is a search.
  | @moved _ first second error _ selects name gone missing led =>
    have asked := trace_byExternalName gone (by rintro _ ⟨⟩; exact missing)
    cases asked with
    | missing missing =>
      rw [List.singleton_append, findings, List.map_cons, ofReply_of_missing missing, ← findings]
      rcases trace_byParameters led nothing.symm with
        ⟨settings, rfl⟩ | ⟨earlier, last, said, vain⟩
      · exact .gone settings name
      · rw [said]
        exact .moved name (vain.of_selected (Strategy.selected_of_select selects))

end Kind

/-! ### Runs of lookups -/

namespace Session

variable {environment : Environment} {client : Client} {kind : Kind} {externalName : String}
  {params : Parameters} {session : Session}

/-- A run of a lookup that takes no failure for absence. -/
structure Honest (environment : Environment) (client : Client) (kind : Kind)
    (externalName : String) (params : Parameters) (session : Session)
    (result : Except Error (Option String)) : Prop where
  /-- If nothing is found, the last request was in vain, or none was made. -/
  nothing : result = .ok none → kind.Vain externalName params
    ((visits environment client (kind.resolve externalName params) session).map Visit.finding)
  /-- The first exchange of a visit that fails ends the run, in its error. -/
  exchanges : ∀ before found later,
    visits environment client (kind.resolve externalName params) session =
      before ++ found :: later →
        ∀ error rest,
          firstFailure? client found.resource true found.exchanges = some (error, rest) →
            rest = [] ∧ later = [] ∧ result = .error (.client error)
  /-- A visit that fails, even if nothing was sent, ends the run in its error. -/
  replies : ∀ before found later,
    visits environment client (kind.resolve externalName params) session =
      before ++ found :: later →
        ∀ error, found.reply = some (.error error) → error.isNotFound = false →
          later = [] ∧ result = .error (.client error)
  errors : ∀ error, result = .error error →
    error.isNotFound = false ∧ error.reason ≠ "KeycloakNotFound"
  /-- Nothing is sent but the exchanges of the visits. -/
  sent : (run environment client (kind.resolve externalName params) session).2.exchanges =
    session.exchanges ++
      (visits environment client (kind.resolve externalName params) session).flatMap Visit.exchanges

/-- The reason of an error says that an object is missing only if it is. -/
theorem reason_ne {error : Error} (other : error.isNotFound = false) :
    error.reason ≠ "KeycloakNotFound" := by
  rcases error with key | ⟨key, reason⟩ | count | error | error
  iterate 4 simp [Error.reason]
  cases error with
  | api status url message =>
    have present : status ≠ 404 := by
      rintro rfl
      cases other
    show (if status = 404 then "KeycloakNotFound" else "KeycloakApiError") ≠ "KeycloakNotFound"
    rw [if_neg present]
    decide
  | _ => simp [Error.reason]

section Traced

variable {α : Type} {plan : Plan α} {trace : List (Resource × Reply)}
  (same : (visits environment client plan session).map
      (fun found => (found.resource, found.reply)) =
    trace.map fun entry => (entry.1, some entry.2))
include same

/-- What the visits of a run find is what the replies of its trace say. -/
theorem map_finding : (visits environment client plan session).map Visit.finding =
    findings trace := by
  let said (entry : Resource × Option Reply) : Finding :=
    (entry.2.map Finding.ofReply).getD .unknown
  have finds : (visits environment client plan session).map Visit.finding =
      ((visits environment client plan session).map
        fun found => (found.resource, found.reply)).map said := by
    rw [List.map_map]
    refine List.map_congr_left fun found member => ?_
    rw [eq_visit_of_mem member]
    exact visit_finding
  rw [finds, same, List.map_map]
  rfl

/-- A visit of a run is a fetch of its trace. -/
theorem trace_split {before later : List Visit} {found : Visit} {reply : Reply}
    (split : visits environment client plan session = before ++ found :: later)
    (replied : found.reply = some reply) :
    ∃ first rest, trace = first ++ (found.resource, reply) :: rest ∧ (rest = [] → later = []) := by
  rw [split, List.map_append, List.map_cons] at same
  obtain ⟨first, more, rfl, -, same⟩ := List.map_eq_append_iff.1 same.symm
  obtain ⟨entry, rest, rfl, equal, tail⟩ := List.map_eq_cons_iff.1 same
  obtain ⟨resource, answer⟩ := entry
  obtain ⟨rfl, given⟩ := Prod.mk.inj equal
  obtain rfl := Option.some.inj (given.trans replied)
  refine ⟨first, rest, rfl, ?_⟩
  rintro rfl
  exact List.map_eq_nil_iff.1 tail.symm

end Traced

/-- No run of a lookup that returns takes a failure for absence, whatever the kind, the token that
is kept and the server. -/
theorem run_resolve_honest {result : Except Error (Option String)}
    (returned : (run environment client (kind.resolve externalName params) session).1 =
      some result) :
    Honest environment client kind externalName params session result := by
  obtain ⟨trace, traced, same⟩ := run_trace _ _ returned
  -- A reply that fails is the last one, since resolving is strict.
  have fails {before later : List Visit} {found : Visit} {reply : Reply} {error : Client.Error}
      (split : visits environment client (kind.resolve externalName params) session =
        before ++ found :: later) (replied : found.reply = some reply)
      (failed : found.resource.failure? reply = some error) :
      later = [] ∧ result = .error (.client error) := by
    obtain ⟨first, rest, rfl, last⟩ := trace_split same split replied
    obtain ⟨none, ended⟩ := strict_trace (kind.strict_resolve externalName params) traced failed
    exact ⟨last none, ended⟩
  refine ⟨?_, fun before found later split error rest failed => ?_,
    fun before found later split error replied other => ?_, ?_, run_exchanges _ _ _ _⟩
  · rintro rfl
    rw [map_finding same]
    exact Kind.trace_none traced
  · have member : found ∈ visits environment client (kind.resolve externalName params) session := by
      rw [split]
      exact List.mem_append_right _ List.mem_cons_self
    have visited := eq_visit_of_mem member
    have failed : firstFailure? client found.resource true
        (visit environment client found.resource found.before).exchanges = some (error, rest) := by
      rw [← visited]
      exact failed
    obtain ⟨none, reply, replied, failure⟩ := visit_failure failed
    have replied : found.reply = some reply := by
      rw [visited]
      exact replied
    exact ⟨none, fails split replied failure⟩
  · exact fails split replied (failure?_of_error other)
  · rintro error rfl
    have other := Strategy.trace_resolve_error traced
    exact ⟨other, reason_ne other⟩

/-- A role that the server does not know is not there. -/
theorem run_roleQuery :
    (run (tokenServer true missing) Client.localClient
      (Kind.role.resolve roleQuery.externalName roleQuery.params) fresh).1 = some (.ok none) := by
  obtain ⟨answered, -⟩ := run_eval (serves_tokenServer Client.localClient true authorized_missing)
    (Kind.role.resolve roleQuery.externalName roleQuery.params) ready_fresh
  rw [answered]
  rfl

theorem run_resolve_honest_roleQuery :
    (run (tokenServer true missing) Client.localClient
        (Kind.role.resolve roleQuery.externalName roleQuery.params) fresh).1 = some (.ok none) ∧
      Honest (tokenServer true missing) Client.localClient .role roleQuery.externalName
        roleQuery.params fresh (.ok none) :=
  ⟨run_roleQuery, run_resolve_honest run_roleQuery⟩

end Session

end RealmLookup
