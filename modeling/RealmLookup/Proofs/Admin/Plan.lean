import RealmLookup.Admin.Endpoints
import Mathlib.Tactic.Common

/-!
# Traces and strictness of plans

A trace of a plan is a list of fetches with their replies that leads the plan to a value.  A plan
is strict if every reply that is a failure ends it at once in that failure; an object that is not
found is no failure, but a body that cannot be read as the resource is one.

## Main definitions

* `Admin.Plan.Trace` : the resources and replies with which a plan ends in a value.
* `Admin.Plan.asked` : the resources that a plan asks for.
* `Admin.Resource.isReadable` : the bodies that represent a resource.
* `Admin.Resource.failure?` : the failure that a reply is.
* `Admin.Plan.Strict` : plans that end in every failure at once.
* `Admin.Resource.Named` : the resources of the endpoints, which begin with a name.
* `Admin.Plan.Asks` : plans that ask for allowed resources only.

## Main results

* `Admin.Plan.trace_bind` : a trace of a plan that goes on splits.
* `Admin.Plan.strict_bind` : strict plans compose.
* `Admin.Plan.strict_trace` : a failure is the last reply of a trace, and its value.
-/

namespace RealmLookup.Admin

open RealmLookup.Http RealmLookup.Representation

variable {α β : Type}

namespace Plan

/-! ### Traces -/

/-- The resources and replies with which a plan ends in a value. -/
inductive Trace : Plan α → List (Resource × Reply) → α → Prop
  | done (value : α) : Trace (.done value) [] value
  | fetch {resource : Resource} {next : Reply → Plan α} {reply : Reply}
      {rest : List (Resource × Reply)} {value : α} (followed : Trace (next reply) rest value) :
      Trace (.fetch resource next) ((resource, reply) :: rest) value

theorem trace_done_iff {value found : α} {trace : List (Resource × Reply)} :
    Trace (.done value) trace found ↔ trace = [] ∧ found = value := by
  constructor
  · rintro ⟨⟩
    exact ⟨rfl, rfl⟩
  · rintro ⟨rfl, rfl⟩
    exact .done found

/-- The resources that a plan asks for, for given replies. -/
def asked (replies : Resource → Reply) : Plan α → List Resource
  | done _ => []
  | fetch resource next => resource :: (next (replies resource)).asked replies

/-- The value of a plan has a trace, with the resources that it asks for. -/
theorem trace_eval (replies : Resource → Reply) (plan : Plan α) :
    Trace plan ((plan.asked replies).map fun resource => (resource, replies resource))
      (plan.eval replies) := by
  induction plan with
  | done value => exact .done value
  | fetch resource next ih => exact .fetch (ih _)

/-- A trace of a plan that goes on is a trace of the plan, and one of what follows. -/
theorem trace_bind {plan : Plan α} {next : α → Plan β} {trace : List (Resource × Reply)}
    {found : β} (traced : Trace (plan.bind next) trace found) :
    ∃ first second value, trace = first ++ second ∧ Trace plan first value ∧
      Trace (next value) second found := by
  induction plan generalizing trace with
  | done value => exact ⟨[], trace, value, rfl, .done value, traced⟩
  | fetch resource following ih =>
    obtain _ | traced := traced
    rename_i reply rest
    obtain ⟨first, second, value, rfl, led, ended⟩ := ih reply traced
    exact ⟨(resource, reply) :: first, second, value, rfl, .fetch led, ended⟩

end Plan

/-! ### Readable resources -/

/-- Whether a body represents a resource of the admin API. -/
def Resource.isReadable (resource : Resource) (body : Body) : Bool :=
  match resource.segments with
  | ["authentication", "flows"] => (body.read? (Record.list AuthenticationFlow.decode)).isSome
  | ["authentication", "flows", _] => (body.read? AuthenticationFlow.decode).isSome
  | ["authentication", "flows", _, "executions"] =>
      (body.read? (Record.list AuthenticationExecutionInfo.decode)).isSome
  | ["authentication", "executions", _] => (body.read? AuthenticationExecution.decode).isSome
  | ["authentication", "config", _] => (body.read? AuthenticationExecutionConfig.decode).isSome
  | ["organizations"] => (body.read? (Record.list Organization.decode)).isSome
  | ["organizations", _] => (body.read? Organization.decode).isSome
  | ["roles-by-id", _] => (body.read? Role.decode).isSome
  | ["roles", _] => (body.read? Role.decode).isSome
  | ["clients", _, "roles", _] => (body.read? Role.decode).isSome
  | ["groups"] => (body.read? (Record.list Group.decode)).isSome
  | ["groups", _] => (body.read? Group.decode).isSome
  | ["groups", _, "children"] => (body.read? (Record.list Group.decode)).isSome
  | ["clients"] => (body.read? (Record.list Representation.Client.decode)).isSome
  | ["clients", _] => (body.read? Representation.Client.decode).isSome
  | ["components"] => (body.read? (Record.list Component.decode)).isSome
  | ["components", _] => (body.read? Component.decode).isSome
  | [_, _, "protocol-mappers", "models"] =>
      (body.read? (Record.list ProtocolMapper.decode)).isSome
  | [_, _, "protocol-mappers", "models", _] => (body.read? ProtocolMapper.decode).isSome
  | _ => false

/-- The failure that a reply is, unless it only says that there is no such object. -/
def Resource.failure? (resource : Resource) : Reply → Option Client.Error
  | .error error => if error.isNotFound then none else some error
  | .ok document =>
      if resource.isReadable document.body then none else some (.decode document.url)

/-- No failure says that there is no such object. -/
theorem Resource.isNotFound_of_failure? {resource : Resource} {reply : Reply}
    {error : Client.Error} (fails : resource.failure? reply = some error) :
    error.isNotFound = false := by
  unfold failure? at fails
  split at fails
  · split at fails
    · cases fails
    · rename_i other
      cases fails
      exact Bool.eq_false_iff.2 other
  · split at fails
    · cases fails
    · cases fails
      rfl

namespace Plan

/-! ### Strict plans -/

/-- The plans that end in every failure at once; `fails` is the value of a failure. -/
inductive Strict (fails : Client.Error → α) : Plan α → Prop
  | done (value : α) : Strict fails (.done value)
  | fetch {resource : Resource} {next : Reply → Plan α}
      (ends : ∀ reply error, resource.failure? reply = some error →
        next reply = .done (fails error))
      (follows : ∀ reply, Strict fails (next reply)) : Strict fails (.fetch resource next)

variable {fails : Client.Error → α} {ends : Client.Error → β}

/-- A strict plan goes on strictly if what follows it passes failures on. -/
theorem strict_bind {plan : Plan α} {next : α → Plan β} (strict : Strict fails plan)
    (passes : ∀ error, error.isNotFound = false → next (fails error) = .done (ends error))
    (follows : ∀ value, Strict ends (next value)) : Strict ends (plan.bind next) := by
  induction strict with
  | done value => exact follows value
  | fetch stops _ ih =>
    refine .fetch (fun reply error failed => ?_) ih
    rw [stops reply error failed]
    exact passes error (Resource.isNotFound_of_failure? failed)

/-- A failure is the last reply of a trace of a strict plan, and its value. -/
theorem strict_trace {plan : Plan α} (strict : Strict fails plan)
    {before later : List (Resource × Reply)} {resource : Resource} {reply : Reply} {value : α}
    (traced : Trace plan (before ++ (resource, reply) :: later) value) {error : Client.Error}
    (failed : resource.failure? reply = some error) : later = [] ∧ value = fails error := by
  induction before generalizing plan with
  | nil =>
    obtain _ | followed := traced
    obtain _ | ⟨stops, -⟩ := strict
    rw [stops reply error failed] at followed
    exact trace_done_iff.1 followed
  | cons entry rest ih =>
    obtain _ | followed := traced
    obtain _ | ⟨-, follows⟩ := strict
    exact ih (follows _) followed

/-! ### Reading resources -/

section Reading

variable {decoder : Decoder α} {resource : Resource}

/-- A resource that is read as what it represents is read strictly. -/
theorem strict_get (reads : ∀ body, resource.isReadable body = (body.read? decoder).isSome) :
    Strict .error (Plan.get decoder resource) := by
  refine .fetch (fun reply error failed => ?_) fun reply => .done _
  unfold Resource.failure? at failed
  rcases reply with other | document
  · dsimp only at failed
    split at failed
    · cases failed
    · cases failed
      rfl
  · dsimp only at failed
    rw [reads] at failed
    show Plan.done (document.decode decoder) = _
    rw [Document.decode]
    cases read : document.body.read? decoder with
    | none =>
      rw [read] at failed
      cases failed
      rfl
    | some value =>
      rw [read] at failed
      cases failed

theorem strict_getOptional
    (reads : ∀ body, resource.isReadable body = (body.read? decoder).isSome) :
    Strict .error (Plan.getOptional decoder resource) := by
  refine strict_bind (strict_get reads) (fun error other => ?_) fun value => ?_
  · show Plan.done (if error.isNotFound then Except.ok none else Except.error error) = _
    rw [other]
    rfl
  · rcases value with error | value <;> exact .done _

theorem trace_get {trace : List (Resource × Reply)} {result : Except Client.Error α}
    (traced : Trace (Plan.get decoder resource) trace result) :
    ∃ reply, trace = [(resource, reply)] ∧ result = reply.bind (Document.decode decoder) := by
  obtain _ | followed := traced
  obtain ⟨rfl, rfl⟩ := trace_done_iff.1 followed
  exact ⟨_, rfl, rfl⟩

/-- A value that is read comes from the body of the reply. -/
theorem trace_get_ok {trace : List (Resource × Reply)} {value : α}
    (traced : Trace (Plan.get decoder resource) trace (.ok value)) :
    ∃ document, trace = [(resource, .ok document)] ∧
      document.body.read? decoder = some value := by
  obtain ⟨reply, rfl, same⟩ := trace_get traced
  rcases reply with error | document
  · cases same
  · refine ⟨document, rfl, ?_⟩
    replace same : Except.ok value = document.decode decoder := same
    rw [Document.decode] at same
    cases read : document.body.read? decoder with
    | none =>
      rw [read] at same
      cases same
    | some other =>
      rw [read] at same
      rw [Except.ok.inj same]

/-- That there is no such object is what the reply says. -/
theorem trace_get_notFound {trace : List (Resource × Reply)} {error : Client.Error}
    (traced : Trace (Plan.get decoder resource) trace (.error error))
    (missing : error.isNotFound = true) : trace = [(resource, .error error)] := by
  obtain ⟨reply, rfl, same⟩ := trace_get traced
  rcases reply with other | document
  · obtain rfl := Except.error.inj same
    rfl
  · replace same : Except.error error = document.decode decoder := same
    rw [Document.decode] at same
    split at same
    · cases same
    · cases same
      cases missing

end Reading

end Plan

/-! ### Resources of endpoints -/

namespace Resource

/-- The names with which the paths of resources begin, below their realm. -/
def names : List String :=
  ["authentication", "organizations", "roles-by-id", "roles", "groups", "clients",
    "client-scopes", "components"]

/-- A resource whose path begins with such a name. -/
def Named (resource : Resource) : Prop :=
  ∃ name rest, resource.segments = name :: rest ∧ name ∈ names

end Resource

namespace Plan

/-- Whether a plan asks for allowed resources only, whatever the replies are. -/
def Asks (allowed : Resource → Prop) : Plan α → Prop
  | done _ => True
  | fetch resource next => allowed resource ∧ ∀ reply, Asks allowed (next reply)

theorem asks_bind {allowed : Resource → Prop} {plan : Plan α} {next : α → Plan β}
    (asks : plan.Asks allowed) (follows : ∀ value, (next value).Asks allowed) :
    (plan.bind next).Asks allowed := by
  induction plan with
  | done value => exact follows value
  | fetch resource step ih => exact ⟨asks.1, fun reply => ih reply (asks.2 reply)⟩

end Plan

end RealmLookup.Admin
