import RealmLookup.Proofs.Lookup.Composition
import RealmLookup.Proofs.Lookup.Procedure

/-!
# Searches

The strategies of all kinds are strict: a request that fails ends them in its error, whatever they
have found so far.  A trace of a search splits into the traces of its steps.

## Main definitions

* `Lookup.failed` : the outcome of a search whose request failed.
* `Lookup.readReply` : what a search makes of a reply.
* `Lookup.Strategy.Ends` : how a lookup can end, with the requests that it made.

## Main results

* `Lookup.run_param_bind`, `Lookup.run_ask_bind` : the steps of searches as plans.
* `Lookup.Composed.strict` : what searches are made of is strict.
* `Kind.strict_resolve` : resolving is strict.
* `Lookup.trace_search_bind`, `Lookup.trace_ask_get` : the traces of searches.
* `Lookup.Strategy.trace_resolve` : the traces of lookups.
-/

namespace RealmLookup

open RealmLookup.Admin RealmLookup.Admin.Plan RealmLookup.Representation

namespace Lookup

variable {α β : Type}

/-- The outcome of a search whose request failed. -/
def failed (error : Client.Error) : Except Error α :=
  .error (.client error)

/-! ### Searches as plans -/

/-- What is made of the value that a reply is read as. -/
def readReply (decoder : Decoder α) (next : α → Except Error β) (reply : Reply) : Except Error β :=
  match reply.bind (Document.decode decoder) with
  | .ok value => next value
  | .error error => .error (.client error)

section Plans

variable {γ : Type} {params : Parameters}

theorem run_param_bind {key text : String} (given : params.text key = .ok text)
    (next : String → Search β) : (param params key >>= next).run = (next text).run := by
  rw [run_bind, param, given]
  rfl

theorem run_owner_bind {clientId clientScopeId : String}
    (client : params.text Param.clientId = .ok clientId)
    (scope : params.text Param.clientScopeId = .ok clientScopeId)
    (next : MapperOwner → Search β) :
    (owner params >>= next).run =
      match ownerOf clientId clientScopeId with
      | .ok found => (next found).run
      | .error error => .done (.error error) := by
  rw [run_bind, owner, run_param_bind client, run_param_bind scope]
  cases ownerOf clientId clientScopeId <;> rfl

/-- One request, and what is made of the value that its reply is read as. -/
theorem run_ask_bind (decoder : Decoder α) (resource : Resource) (next : α → Except Error β) :
    (ask (Plan.get decoder resource) >>= fun value => ExceptT.mk (Plan.done (next value))).run =
      .fetch resource fun reply => .done (readReply decoder next reply) := by
  rw [run_bind]
  show Plan.fetch resource _ = _
  congr 1
  funext reply
  simp only [Plan.bind, readReply]
  cases reply.bind (Document.decode decoder) <;> rfl

theorem run_ask_map_bind (decoder : Decoder α) (resource : Resource) (f : α → β)
    (next : β → Except Error γ) :
    (ask (Fetch.map f (Plan.get decoder resource)) >>= fun value =>
        ExceptT.mk (Plan.done (next value))).run =
      .fetch resource fun reply =>
        .done (readReply decoder (fun value => next (f value)) reply) := by
  rw [run_bind]
  show Plan.fetch resource _ = _
  congr 1
  funext reply
  simp only [Plan.bind, readReply]
  cases reply.bind (Document.decode decoder) <;> rfl

end Plans

/-! ### Strict searches -/

section Strictness

theorem strict_search_bind {search : Search α} {next : α → Search β}
    (strict : Strict failed search.run) (follows : ∀ value, Strict failed (next value).run) :
    Strict failed (search >>= next).run := by
  rw [run_bind]
  refine strict_bind strict (fun _ _ => rfl) fun outcome => ?_
  cases outcome with
  | error error => exact .done _
  | ok value => exact follows value

theorem strict_done (outcome : Except Error α) :
    Strict failed (ExceptT.mk (Plan.done outcome) : Search α).run :=
  .done outcome

theorem strict_ask {fetch : Fetch α} (strict : Strict .error fetch) :
    Strict failed (ask fetch).run :=
  strict_bind strict (fun _ _ => rfl) fun _ => .done _

theorem strict_map {fetch : Fetch α} (strict : Strict .error fetch) (f : α → β) :
    Strict .error (fetch.map f) :=
  strict_bind strict (fun _ _ => rfl) fun _ => .done _

end Strictness

/-- What is made of steps that are strict is strict. -/
theorem Composed.strict {search : Search α} (composed : Composed search) :
    Strict failed search.run := by
  induction composed with
  | done => exact strict_done _
  | get reads => exact strict_ask (strict_get reads.reads)
  | map f reads => exact strict_ask (strict_map (strict_get reads.reads) f)
  | optional reads => exact strict_ask (strict_getOptional reads.reads)
  | bind _ _ first follows => exact strict_search_bind first follows

/-! ### Traces of searches -/

/-- Outcomes that do not report a failure: a value, or that an object is missing. -/
def Calm (outcome : Except Error α) : Prop :=
  ∀ error, outcome = .error error → error.isNotFound = true

theorem calm_ok (value : α) : Calm (.ok value : Except Error α) := by
  rintro error ⟨⟩

theorem Calm.of_error {error : Error} (calm : Calm (.error error : Except Error α)) :
    Calm (.error error : Except Error β) := by
  rintro _ ⟨⟩
  exact calm error rfl

/-- What one request leaves: that an object is missing, or the value of a body. -/
inductive Asked (read : Http.Body → Option α) : List (Resource × Reply) → Except Error α → Prop
  | missing {resource : Resource} {error : Client.Error} (missing : error.isNotFound = true) :
      Asked read [(resource, .error error)] (.error (.client error))
  | found {resource : Resource} {document : Document} {value : α}
      (reads : read document.body = some value) : Asked read [(resource, .ok document)] (.ok value)

section Traces

variable {trace : List (Resource × Reply)}

theorem trace_search_bind {search : Search α} {next : α → Search β} {outcome : Except Error β}
    (traced : Trace (search >>= next).run trace outcome) :
    (∃ error, outcome = .error error ∧ Trace search.run trace (.error error)) ∨
      ∃ first second value, trace = first ++ second ∧ Trace search.run first (.ok value) ∧
        Trace (next value).run second outcome := by
  rw [run_bind] at traced
  obtain ⟨first, second, value, rfl, led, ended⟩ := trace_bind traced
  cases value with
  | error error =>
    obtain ⟨rfl, rfl⟩ := trace_done_iff.1 ended
    rw [List.append_nil]
    exact .inl ⟨error, rfl, led⟩
  | ok value => exact .inr ⟨first, second, value, rfl, led, ended⟩

/-- A value that no request gives: parameters are wrong in another way than missing. -/
theorem trace_done_bind {given : Except Error α} {next : α → Search β} {outcome : Except Error β}
    (traced : Trace ((ExceptT.mk (Plan.done given) : Search α) >>= next).run trace outcome)
    (calm : Calm outcome) (other : ∀ error, given = .error error → error.isNotFound = false) :
    ∃ value, given = .ok value ∧ Trace (next value).run trace outcome := by
  rcases trace_search_bind traced with ⟨error, rfl, ended⟩ | ⟨first, second, value, rfl, led, ended⟩
  · obtain ⟨-, same⟩ := trace_done_iff.1 ended
    cases (calm error rfl).symm.trans (other error same.symm)
  · obtain ⟨rfl, same⟩ := trace_done_iff.1 led
    exact ⟨value, same.symm, ended⟩

theorem isNotFound_of_text {params : Parameters} {key : String} {error : Error}
    (given : params.text key = .error error) : error.isNotFound = false := by
  unfold Parameters.text at given
  split at given
  · cases given
  · cases given
    rfl
  · cases given
    rfl

theorem trace_param_bind {params : Parameters} {key : String} {next : String → Search β}
    {outcome : Except Error β} (traced : Trace (param params key >>= next).run trace outcome)
    (calm : Calm outcome) :
    ∃ text, params.text key = .ok text ∧ Trace (next text).run trace outcome :=
  trace_done_bind traced calm fun _ given => isNotFound_of_text given

theorem isNotFound_of_ownerOf {clientId clientScopeId : String} {error : Error}
    (given : ownerOf clientId clientScopeId = .error error) : error.isNotFound = false := by
  rw [ownerOf] at given
  split at given
  · cases given
  · cases given
  · cases given
    rfl
  · cases given
    rfl

theorem trace_owner {params : Parameters} {outcome : Except Error MapperOwner}
    (traced : Trace (owner params).run trace outcome) (calm : Calm outcome) :
    ∃ owner, trace = [] ∧ outcome = .ok owner := by
  obtain ⟨clientId, -, traced⟩ := trace_param_bind traced calm
  obtain ⟨clientScopeId, -, traced⟩ := trace_param_bind traced calm
  obtain ⟨rfl, given⟩ := trace_done_iff.1 traced
  rcases outcome with error | owner
  · cases (calm error rfl).symm.trans (isNotFound_of_ownerOf given.symm)
  · exact ⟨owner, rfl, rfl⟩

theorem trace_owner_bind {params : Parameters} {next : MapperOwner → Search β}
    {outcome : Except Error β} (traced : Trace (owner params >>= next).run trace outcome)
    (calm : Calm outcome) : ∃ owner, Trace (next owner).run trace outcome := by
  rcases trace_search_bind traced with ⟨error, rfl, ended⟩ | ⟨first, second, owner, rfl, led, ended⟩
  · obtain ⟨owner, -, same⟩ := trace_owner ended calm.of_error
    cases same
  · obtain ⟨_, rfl, -⟩ := trace_owner led (calm_ok owner)
    exact ⟨owner, ended⟩

/-- A request that does not fail. -/
theorem trace_ask_get {decoder : Decoder α} {resource : Resource} {outcome : Except Error α}
    (traced : Trace (ask (Plan.get decoder resource)).run trace outcome) (calm : Calm outcome) :
    Asked (Http.Body.read? decoder) trace outcome := by
  obtain ⟨first, second, value, rfl, led, ended⟩ := trace_bind traced
  obtain ⟨rfl, rfl⟩ := trace_done_iff.1 ended
  rw [List.append_nil]
  cases value with
  | error error =>
    have missing : error.isNotFound = true := calm _ rfl
    rw [trace_get_notFound led missing]
    exact .missing missing
  | ok value =>
    obtain ⟨document, rfl, reads⟩ := trace_get_ok led
    exact .found reads

theorem trace_ask_map {decoder : Decoder α} {resource : Resource} {f : α → β}
    {outcome : Except Error β}
    (traced : Trace (ask (Fetch.map f (Plan.get decoder resource))).run trace outcome)
    (calm : Calm outcome) :
    Asked (fun body => (body.read? decoder).map f) trace outcome := by
  obtain ⟨_, _, image, rfl, mapped, ended⟩ := trace_bind traced
  obtain ⟨rfl, rfl⟩ := trace_done_iff.1 ended
  obtain ⟨first, _, value, rfl, led, changed⟩ := trace_bind mapped
  obtain ⟨rfl, rfl⟩ := trace_done_iff.1 changed
  rw [List.append_nil, List.append_nil]
  cases value with
  | error error =>
    have missing : error.isNotFound = true := calm _ rfl
    rw [trace_get_notFound led missing]
    exact .missing missing
  | ok value =>
    obtain ⟨document, rfl, reads⟩ := trace_get_ok led
    exact .found (by rw [reads, Option.map_some])

/-- A request for an object that need not exist. -/
theorem trace_ask_getOptional {decoder : Decoder α} {resource : Resource}
    {outcome : Except Error (Option α)}
    (traced : Trace (ask (Plan.getOptional decoder resource)).run trace outcome)
    (calm : Calm outcome) :
    (∃ error, error.isNotFound = true ∧ trace = [(resource, .error error)] ∧ outcome = .ok none) ∨
      ∃ document value, trace = [(resource, .ok document)] ∧
        document.body.read? decoder = some value ∧ outcome = .ok (some value) := by
  obtain ⟨_, _, image, rfl, mapped, ended⟩ := trace_bind traced
  obtain ⟨rfl, rfl⟩ := trace_done_iff.1 ended
  obtain ⟨first, _, value, rfl, led, settled⟩ := trace_bind mapped
  cases value with
  | error error =>
    obtain ⟨rfl, rfl⟩ := trace_done_iff.1 settled
    cases missing : error.isNotFound with
    | true =>
      rw [trace_get_notFound led missing]
      exact .inl ⟨error, missing, rfl, rfl⟩
    | false =>
      have gone := calm (.client error) (by rw [missing]; rfl)
      cases missing.symm.trans gone
  | ok value =>
    obtain ⟨rfl, rfl⟩ := trace_done_iff.1 settled
    obtain ⟨document, rfl, reads⟩ := trace_get_ok led
    exact .inr ⟨document, value, rfl, reads, rfl⟩

/-- One request, and what is made of its value. -/
theorem trace_asked_bind {search : Search α} {read : Http.Body → Option α}
    {next : α → Except Error β} {outcome : Except Error β}
    (traced : Trace (search >>= fun value => ExceptT.mk (Plan.done (next value))).run trace outcome)
    (calm : Calm outcome)
    (asks : ∀ {first} {given : Except Error α}, Trace search.run first given → Calm given →
      Asked read first given) :
    (∃ resource error, error.isNotFound = true ∧ trace = [(resource, .error error)] ∧
        outcome = .error (.client error)) ∨
      ∃ resource document value, trace = [(resource, .ok document)] ∧
        read document.body = some value ∧ outcome = next value := by
  rcases trace_search_bind traced with ⟨error, rfl, ended⟩ | ⟨first, second, value, rfl, led, ended⟩
  · have asked := asks ended calm.of_error
    cases asked with
    | missing missing => exact .inl ⟨_, _, missing, rfl, rfl⟩
  · obtain ⟨rfl, rfl⟩ := trace_done_iff.1 ended
    have asked := asks led (calm_ok value)
    cases asked with
    | found reads => exact .inr ⟨_, _, value, rfl, reads, rfl⟩

end Traces

/-! ### Strict lookups -/

namespace Strategy

variable {strategy : Strategy Plan} {externalName : String} {params selected : Parameters}

theorem settle_failed {error : Client.Error} (other : error.isNotFound = false) :
    settle (failed error) = failed error := by
  rw [failed, settle, Error.isNotFound, other]
  rfl

/-- A lookup is strict if its strategies are. -/
theorem strict_resolve
    (named : ∀ selected, Strict failed (strategy.byExternalName externalName selected))
    (searched : ∀ selected, Strict failed (strategy.byParameters selected)) :
    Strict failed (strategy.resolve externalName params) := by
  have search (selected : Parameters) : Strict failed (strategy.search selected) := by
    refine strict_bind (searched selected) (fun error other => ?_) fun outcome => .done _
    rw [settle_failed other]
    rfl
  rw [resolve]
  cases strategy.select params with
  | error error => exact .done _
  | ok selected =>
    dsimp only
    cases externalName.isEmpty with
    | true => exact search selected
    | false =>
      refine strict_bind (named selected) (fun error other => ?_) fun outcome => ?_
      · show (if error.isNotFound then strategy.search selected else Plan.done (failed error)) = _
        rw [other]
        rfl
      · rcases outcome with error | id
        · dsimp only
          cases error.isNotFound
          · exact .done _
          · exact search selected
        · exact .done _

/-! ### Traces of lookups -/

/-- How a lookup can end, with the requests that it made. -/
inductive Ends (strategy : Strategy Plan) (externalName : String) (params : Parameters) :
    List (Resource × Reply) → Except Error (Option String) → Prop
  /-- A required parameter is absent. -/
  | unselected {error : Error} (selects : strategy.select params = .error error) :
      Ends strategy externalName params [] (.error error)
  /-- There is an object of the external name. -/
  | named {selected : Parameters} {trace : List (Resource × Reply)} {id : String}
      (selects : strategy.select params = .ok selected) (name : externalName ≠ "")
      (led : Trace (strategy.byExternalName externalName selected) trace (.ok id)) :
      Ends strategy externalName params trace (.ok (nonEmpty id))
  /-- It is not known whether there is an object of the external name. -/
  | failed {selected : Parameters} {trace : List (Resource × Reply)} {error : Error}
      (selects : strategy.select params = .ok selected) (name : externalName ≠ "")
      (led : Trace (strategy.byExternalName externalName selected) trace (.error error))
      (other : error.isNotFound = false) :
      Ends strategy externalName params trace (.error error)
  /-- There is no external name. -/
  | searched {selected : Parameters} {trace : List (Resource × Reply)}
      {outcome : Except Error (Option String)}
      (selects : strategy.select params = .ok selected) (unnamed : externalName = "")
      (led : Trace (strategy.byParameters selected) trace outcome) :
      Ends strategy externalName params trace (settle outcome)
  /-- There is no object of the external name any more. -/
  | moved {selected : Parameters} {first second : List (Resource × Reply)} {error : Error}
      {outcome : Except Error (Option String)}
      (selects : strategy.select params = .ok selected) (name : externalName ≠ "")
      (gone : Trace (strategy.byExternalName externalName selected) first (.error error))
      (missing : error.isNotFound = true)
      (led : Trace (strategy.byParameters selected) second outcome) :
      Ends strategy externalName params (first ++ second) (settle outcome)

section Traces

variable {trace : List (Resource × Reply)}

theorem trace_search {selected : Parameters} {result : Except Error (Option String)}
    (traced : Trace (strategy.search selected) trace result) :
    ∃ outcome, Trace (strategy.byParameters selected) trace outcome ∧ settle outcome = result := by
  obtain ⟨first, second, outcome, rfl, led, ended⟩ := trace_bind traced
  obtain ⟨rfl, settled⟩ := trace_done_iff.1 ended
  rw [List.append_nil]
  exact ⟨outcome, led, settled.symm⟩

theorem trace_resolve {result : Except Error (Option String)}
    (traced : Trace (strategy.resolve externalName params) trace result) :
    Ends strategy externalName params trace result := by
  rw [resolve] at traced
  cases selects : strategy.select params with
  | error error =>
    rw [selects] at traced
    obtain ⟨rfl, rfl⟩ := trace_done_iff.1 traced
    exact .unselected selects
  | ok selected =>
    rw [selects] at traced
    dsimp only at traced
    by_cases unnamed : externalName = ""
    · rw [if_pos (String.isEmpty_iff.2 unnamed)] at traced
      obtain ⟨outcome, led, rfl⟩ := trace_search traced
      exact .searched selects unnamed led
    · rw [if_neg (by rwa [String.isEmpty_iff])] at traced
      obtain ⟨first, second, outcome, rfl, led, followed⟩ := trace_bind traced
      rcases outcome with error | id
      · dsimp only at followed
        cases missing : error.isNotFound with
        | true =>
          rw [missing, if_pos rfl] at followed
          obtain ⟨outcome, searched, rfl⟩ := trace_search followed
          exact .moved selects unnamed led missing searched
        | false =>
          rw [missing, if_neg Bool.false_ne_true] at followed
          obtain ⟨rfl, rfl⟩ := trace_done_iff.1 followed
          rw [List.append_nil]
          exact .failed selects unnamed led missing
      · obtain ⟨rfl, rfl⟩ := trace_done_iff.1 followed
        rw [List.append_nil]
        exact .named selects unnamed led

/-- An identifier that a lookup takes for none is empty. -/
theorem eq_empty_of_nonEmpty {id : String} (anonymous : nonEmpty id = none) : id = "" := by
  rw [nonEmpty] at anonymous
  split at anonymous
  · rename_i blank
    exact String.isEmpty_iff.1 blank
  · cases anonymous

/-- What is settled as an error was that error. -/
theorem eq_error_of_settle {outcome : Except Error (Option String)} {error : Error}
    (settled : settle outcome = .error error) : outcome = .error error := by
  rcases outcome with other | id
  · rw [settle] at settled
    split at settled
    · cases settled
    · exact settled
  · cases settled

theorem isNotFound_of_settle {outcome : Except Error (Option String)} {error : Error}
    (settled : settle outcome = .error error) : error.isNotFound = false := by
  rcases outcome with other | id
  · rw [settle] at settled
    split at settled
    · cases settled
    · rename_i known
      cases settled
      exact Bool.eq_false_of_not_eq_true known
  · cases settled

theorem isNotFound_of_select {error : Error}
    (selects : strategy.select params = .error error) : error.isNotFound = false := by
  rw [select_eq] at selects
  split at selects
  · cases selects
    rfl
  · cases selects

/-- No lookup ends in the error that there is no such object. -/
theorem trace_resolve_error {error : Error}
    (traced : Trace (strategy.resolve externalName params) trace (.error error)) :
    error.isNotFound = false := by
  generalize ended : (Except.error error : Except Error (Option String)) = result at traced
  cases trace_resolve traced with
  | unselected selects =>
    cases ended
    exact isNotFound_of_select selects
  | named selects name led => cases ended
  | failed selects name led other =>
    cases ended
    exact other
  | searched selects unnamed led => exact isNotFound_of_settle ended.symm
  | moved selects name gone missing led => exact isNotFound_of_settle ended.symm

/-- An identifier that a lookup finds is not empty. -/
theorem trace_resolve_some {id : String}
    (traced : Trace (strategy.resolve externalName params) trace (.ok (some id))) : id ≠ "" := by
  have full {found : String} (named : nonEmpty found = some id) : id ≠ "" := by
    rw [nonEmpty_eq] at named
    split at named
    · cases named
    · rename_i filled
      obtain rfl := Option.some.inj named
      exact filled
  have settled {outcome : Except Error (Option String)} (ends : settle outcome = .ok (some id)) :
      id ≠ "" := by
    rcases outcome with error | _ | found
    · rw [settle] at ends
      split at ends <;> cases ends
    · cases ends
    · exact full (Except.ok.inj ends)
  generalize ended : (Except.ok (some id) : Except Error (Option String)) = result at traced
  cases trace_resolve traced with
  | unselected selects => cases ended
  | named selects name led => exact full (Except.ok.inj ended).symm
  | failed selects name led other => cases ended
  | searched selects unnamed led => exact settled ended.symm
  | moved selects name gone missing led => exact settled ended.symm

end Traces

end Strategy

end Lookup

/-- Resolving is strict for every kind. -/
theorem Kind.strict_resolve (kind : Kind) (externalName : String) (params : Parameters) :
    Strict Lookup.failed (kind.resolve externalName params) :=
  Lookup.Strategy.strict_resolve
    (fun selected => (Lookup.composed_byExternalName selected kind _).strict)
    fun selected => (Lookup.composed_byParameters selected kind).strict

end RealmLookup
