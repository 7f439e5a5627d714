import RealmLookup.CommandLine.Run
import RealmLookup.Proofs.Lookup.Searches
import RealmLookup.Proofs.Session.Visits

/-!
# Phases of a run

A request of the command line is carried out in four phases: the settings are loaded, then the
parameters, a session is started, and the identifier is resolved.  The first phase that fails
ends the run with its error, and nothing but the last two phases sends anything.

## Main definitions

* `CommandLine.settings`, `CommandLine.parameters`, `CommandLine.lookup` : the phases of a request.
* `CommandLine.Fails` : the phase that ends a run, with its error.
* `CommandLine.Resolves` : the phases of a run that ends with an identifier.
* `CommandLine.Refines` : what a run is, in terms of its phases.

## Main results

* `CommandLine.fails_or_resolves` : a run fails in a phase, or resolves, unless it is aborted.
* `Session.ne_empty_of_run_resolve` : an identifier that is resolved is not empty.
* `CommandLine.run_refines` : the command line is made of its phases.
-/

namespace RealmLookup

/-- An identifier that is resolved is not empty. -/
theorem Session.ne_empty_of_run_resolve {environment : Environment} {client : Client} {kind : Kind}
    {externalName id : String} {params : Parameters} {session : Session}
    (resolved : (run environment client (kind.resolve externalName params) session).1 =
      some (.ok (some id))) : id ≠ "" := by
  obtain ⟨trace, traced, -⟩ := run_trace _ session resolved
  exact Lookup.Strategy.trace_resolve_some traced

namespace CommandLine

variable (environment : Environment) (read : String → Option (List UInt8)) (request : Request)

/-! ### The phases -/

/-- The settings in the credentials file. -/
def settings : Except Config.Error Config :=
  Config.ofFile request.credentials (read request.credentials)

/-- The parameters of the file, if there is one, and of the command line. -/
def parameters : Except LoadError Parameters :=
  loadParameters (request.paramsFile.map fun path => ⟨path, read path⟩) request.params

/-- The plan of a request with its parameters. -/
def plan (params : Parameters) : Admin.Plan (Except Lookup.Error (Option String)) :=
  request.kind.resolve request.externalName params

/-- The lookup of a request in the session that its settings start. -/
def lookup (config : Config) (params : Parameters) (client : Client) :
    Option (Except Lookup.Error (Option String)) × Session :=
  Session.run environment client (plan request params) (Session.start environment config).2

/-- The exchanges of the lookup of a request. -/
def lookupExchanges (config : Config) (params : Parameters) (client : Client) : List Exchange :=
  (Session.visits environment client (plan request params)
    (Session.start environment config).2).flatMap Session.Visit.exchanges

/-- The phase that ends a run, with its error; the phases before it succeed. -/
inductive Fails : Failure → Prop
  | settings {error : Config.Error} (unset : settings read request = .error error) :
      Fails (.config error)
  | parameters {config : Config} {error : LoadError} (set : settings read request = .ok config)
      (unloaded : parameters read request = .error error) : Fails (.params error)
  | opening {config : Config} {params : Parameters} {error : Client.Error}
      (set : settings read request = .ok config) (loaded : parameters read request = .ok params)
      (unopened : (Session.start environment config).1 = some (.error error)) :
      Fails (.connection error)
  | resolution {config : Config} {params : Parameters} {client : Client} {error : Lookup.Error}
      (set : settings read request = .ok config) (loaded : parameters read request = .ok params)
      (opened : (Session.start environment config).1 = some (.ok client))
      (unresolved : (lookup environment request config params client).1 = some (.error error)) :
      Fails (.resolution request.kind error)

/-- The phases of a run that ends with an identifier, or with none. -/
inductive Resolves (id : Option String) : Prop
  | all {config : Config} {params : Parameters} {client : Client}
      (set : settings read request = .ok config) (loaded : parameters read request = .ok params)
      (opened : (Session.start environment config).1 = some (.ok client))
      (resolved : (lookup environment request config params client).1 = some (.ok id))

/-- What a run with some outcome and session is, in terms of its phases. -/
structure Refines (outcome : Outcome) (session : Session) : Prop where
  /-- Nothing is sent before the settings and the parameters are loaded. -/
  unset : ∀ error, settings read request = .error error → session = .fresh
  unloaded : ∀ error, parameters read request = .error error → session = .fresh
  /-- What is sent is what opening and resolving send, one after the other. -/
  unopened : ∀ config params, settings read request = .ok config →
    parameters read request = .ok params →
    (∀ client, (Session.start environment config).1 ≠ some (.ok client)) →
      session = (Session.start environment config).2
  sent : ∀ config params client, settings read request = .ok config →
    parameters read request = .ok params →
    (Session.start environment config).1 = some (.ok client) →
      session = (lookup environment request config params client).2 ∧
        session.exchanges = (Session.start environment config).2.exchanges ++
          lookupExchanges environment request config params client
  /-- The first phase that fails is reported. -/
  failed : ∀ failure, Fails environment read request failure →
    outcome = .failed failure ∧ outcome.exitCode = 1 ∧ outcome.output = ""
  /-- If no phase fails, the identifier is printed, and an empty line only if there is none. -/
  resolved : ∀ id, Resolves environment read request id →
    outcome.exitCode = 0 ∧ outcome.output = id.getD "" ++ "\n" ∧
      (outcome.output = "\n" ↔ id = none)
  /-- Only a run that is aborted does neither. -/
  ends : outcome ≠ .aborted →
    (∃ failure, Fails environment read request failure) ∨
      ∃ id, Resolves environment read request id

/-! ### Runs in phases -/

variable {environment read request}

/-- An identifier is printed as a line that is empty only if there is none. -/
theorem idLine_eq_newline_iff {id : Option String} (filled : ∀ text, id = some text → text ≠ "") :
    idLine id = "\n" ↔ id = none := by
  cases id with
  | none => exact iff_of_true rfl rfl
  | some text =>
    have line : idLine (some text) = "\n" ↔ text = "" := by
      rw [idLine, Option.getD_some, ← String.toList_inj, String.toList_append,
        List.append_left_eq_self, String.toList_eq_nil_iff]
    rw [line]
    exact iff_of_false (filled text rfl) (by simp)

/-- The identifier of a request that resolves is not empty. -/
theorem Resolves.filled {id : Option String} (resolves : Resolves environment read request id)
    {text : String} (found : id = some text) : text ≠ "" := by
  obtain ⟨-, -, -, resolved⟩ := resolves
  rw [found] at resolved
  exact Session.ne_empty_of_run_resolve resolved

section Runs

variable {arguments : List String} (parses : parse arguments = .ok (.resolve request))
include parses

/-- The run of arguments that ask for an identifier, phase by phase. -/
theorem run_of_request :
    run environment read arguments =
      match settings read request with
      | .error error => (.failed (.config error), .fresh)
      | .ok config =>
          match parameters read request with
          | .error error => (.failed (.params error), .fresh)
          | .ok params =>
              match (Session.start environment config).1 with
              | none => (.aborted, (Session.start environment config).2)
              | some (.error error) =>
                  (.failed (.connection error), (Session.start environment config).2)
              | some (.ok client) =>
                  (match (lookup environment request config params client).1 with
                    | none => .aborted
                    | some (.error error) => .failed (.resolution request.kind error)
                    | some (.ok id) => .printed (idLine id),
                    (lookup environment request config params client).2) := by
  rw [run, parses]
  dsimp only
  rw [resolve]
  show (match settings read request with | .error error => _ | .ok config => _) = _
  cases settings read request with
  | error error => rfl
  | ok config =>
    show (match parameters read request with | .error error => _ | .ok params => _) = _
    cases parameters read request with
    | error error => rfl
    | ok params =>
      dsimp only [lookup, plan]
      rcases Session.start environment config with ⟨_ | _ | client, session⟩
      · rfl
      · rfl
      · dsimp only
        rcases Session.run environment client _ session with ⟨_ | _ | id, after⟩ <;> rfl

/-- The first phase that fails is the outcome. -/
theorem run_of_fails {failure : Failure} (fails : Fails environment read request failure) :
    (run environment read arguments).1 = .failed failure := by
  rw [run_of_request parses]
  cases fails with
  | settings unset => rw [unset]
  | parameters set unloaded => rw [set, unloaded]
  | opening set loaded unopened =>
    rw [set, loaded]
    dsimp only
    rw [unopened]
  | resolution set loaded opened unresolved =>
    rw [set, loaded]
    dsimp only
    rw [opened]
    dsimp only
    rw [unresolved]

/-- The identifier is the outcome if no phase fails. -/
theorem run_of_resolves {id : Option String} (resolves : Resolves environment read request id) :
    (run environment read arguments).1 = .printed (idLine id) := by
  rw [run_of_request parses]
  obtain ⟨set, loaded, opened, resolved⟩ := resolves
  rw [set, loaded]
  dsimp only
  rw [opened]
  dsimp only
  rw [resolved]

/-- A run fails in a phase, or resolves, unless it is aborted. -/
theorem fails_or_resolves (ended : (run environment read arguments).1 ≠ .aborted) :
    (∃ failure, Fails environment read request failure) ∨
      ∃ id, Resolves environment read request id := by
  rw [run_of_request parses] at ended
  cases set : settings read request with
  | error error => exact .inl ⟨_, .settings set⟩
  | ok config =>
    cases loaded : parameters read request with
    | error error => exact .inl ⟨_, .parameters set loaded⟩
    | ok params =>
      rw [set, loaded] at ended
      dsimp only at ended
      rcases opened : (Session.start environment config).1 with _ | error | client
      · rw [opened] at ended
        exact absurd rfl ended
      · exact .inl ⟨_, .opening set loaded opened⟩
      · rw [opened] at ended
        dsimp only at ended
        rcases resolved : (lookup environment request config params client).1 with _ | error | id
        · rw [resolved] at ended
          exact absurd rfl ended
        · exact .inl ⟨_, .resolution set loaded opened resolved⟩
        · exact .inr ⟨id, set, loaded, opened, resolved⟩

/-- Opening is the last phase that sends anything if it gives no client. -/
theorem run_of_unopened {config : Config} {params : Parameters}
    (set : settings read request = .ok config) (loaded : parameters read request = .ok params)
    (unopened : ∀ client, (Session.start environment config).1 ≠ some (.ok client)) :
    (run environment read arguments).2 = (Session.start environment config).2 := by
  rw [run_of_request parses, set, loaded]
  dsimp only
  cases opened : (Session.start environment config).1 with
  | none => dsimp only
  | some result =>
    cases result with
    | error error => dsimp only
    | ok client => exact absurd opened (unopened client)

/-- With a client, the session of a run is the one of the lookup. -/
theorem run_of_opened {config : Config} {params : Parameters} {client : Client}
    (set : settings read request = .ok config) (loaded : parameters read request = .ok params)
    (opened : (Session.start environment config).1 = some (.ok client)) :
    (run environment read arguments).2 =
      (lookup environment request config params client).2 := by
  rw [run_of_request parses, set, loaded]
  dsimp only
  rw [opened]

/-! ### The command line refines its phases -/

/-- The run of arguments that ask for an identifier is made of its phases. -/
theorem run_refines :
    Refines environment read request (run environment read arguments).1
      (run environment read arguments).2 where
  unset error unset := by rw [run_of_request parses, unset]
  unloaded error unloaded := by
    rw [run_of_request parses]
    cases settings read request with
    | error error => rfl
    | ok config =>
      dsimp only
      rw [unloaded]
  unopened config params set loaded unopened := run_of_unopened parses set loaded unopened
  sent config params client set loaded opened := by
    rw [run_of_opened parses set loaded opened]
    exact ⟨rfl, Session.run_exchanges environment client _ _⟩
  failed failure fails := by
    rw [run_of_fails parses fails]
    exact ⟨rfl, rfl, rfl⟩
  resolved id resolves := by
    rw [run_of_resolves parses resolves]
    exact ⟨rfl, rfl, idLine_eq_newline_iff fun _ => resolves.filled⟩
  ends ended := fails_or_resolves parses ended

end Runs

/-- Arguments that ask for the role `n` of the realm `r`. -/
def roleArguments : List String :=
  ["resolve", "--kind=role", "--credentials=c.json", "--param=realm_id=r", "--param=name=n"]

/-- The request of these arguments. -/
def roleRequest : Request :=
  ⟨.role, "c.json", "", [("realm_id", "r"), ("name", "n")], none⟩

theorem parse_roleArguments : parse roleArguments = .ok (.resolve roleRequest) := by
  have parsed : (parse roleArguments).toOption = some (.resolve roleRequest) := by
    decide +kernel
  revert parsed
  cases parse roleArguments <;> simp [Except.toOption]

/-- The run for this role, with whatever files and server, is made of its phases. -/
theorem run_refines_roleArguments :
    parse roleArguments = .ok (.resolve roleRequest) ∧
      ∀ (environment : Environment) (read : String → Option (List UInt8)),
        Refines environment read roleRequest (run environment read roleArguments).1
          (run environment read roleArguments).2 :=
  ⟨parse_roleArguments, fun _ _ => run_refines parse_roleArguments⟩

end CommandLine

end RealmLookup
