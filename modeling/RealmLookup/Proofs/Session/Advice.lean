import RealmLookup.Proofs.Lookup.Causes
import RealmLookup.Proofs.Session.Transparency

/-!
# Advice to retry

The error that a run ends in is explained by the last request that the run attempted, and so is what
it says about the status of the server and about a retry.  One advice is not what one would expect:
a response that promises success and breaks off is reported as one that cannot be read, for which no
retry is advised.

## Main definitions

* `Session.Attempt` : a request that was attempted, sent or not.
* `Session.startAttempts`, `Session.runAttempts` : the attempts of starting a session and of a plan.
* `Session.Explains` : the errors that an attempt explains.
* `Session.Advises` : what an error says of the last attempt.

## Main results

* `Session.tried_sendAuthorized` : the last attempt explains how a request and its retry end.
* `Session.visit_explained`, `Session.run_explained` : so does the last one of a visit and of a run.
* `Session.retry_advice` : the advice of every error.
* `Session.retry_advice_brokenServer` : a lost connection for which no retry is advised.
-/

namespace RealmLookup.Session

open RealmLookup.Http RealmLookup.Admin

variable {α : Type}

/-! ### Attempts -/

/-- A request that was attempted: it could not be sent, or it was exchanged. -/
inductive Attempt
  | unsent
  | sent (exchange : Exchange)
deriving DecidableEq

namespace Attempt

/-- The exchange of an attempt, if the request could be sent. -/
def exchange? : Attempt → Option Exchange
  | unsent => none
  | sent exchange => some exchange

/-- The response to an attempt, if one arrived. -/
def response? (attempt : Attempt) : Option Response :=
  attempt.exchange?.bind fun exchange => exchange.answer.response?

/-- Whether a response to an attempt promised success, but broke off. -/
def isInterrupted (attempt : Attempt) : Bool :=
  attempt.response?.any fun response => response.isSuccess && response.body == .truncated

/-- Whether an attempt failed in transport: it could not be sent, the connection was lost before a
response arrived, or while the body of a success was read. -/
def isLost (attempt : Attempt) : Bool :=
  attempt.response?.isNone || attempt.isInterrupted

/-- The status of the response to an attempt, if it is not one of success. -/
def failure? (attempt : Attempt) : Option Nat :=
  (attempt.response?.filter fun response => !response.isSuccess).map Response.status

end Attempt

variable (environment : Environment) (client : Client)

/-- The attempt to log in. -/
def loginAttempt (session : Session) : Attempt :=
  if client.canSend then .sent (session.exchange environment client.tokenRequest) else .unsent

/-- The attempt to get a URL with a token. -/
def resourceAttempt (url : Url) (token : String) (session : Session) : Attempt :=
  match client.canSend, client.resourceRequest? url token with
  | true, some request => .sent (session.exchange environment request)
  | _, _ => .unsent

/-- The attempts to obtain a token. -/
def tokenAttempts (session : Session) : List Attempt :=
  if session.isStale environment then [loginAttempt environment client session.checked] else []

/-- The attempts of a request with its retry. -/
def urlAttempts (url : Url) (session : Session) : List Attempt :=
  tokenAttempts environment client session ++
    match (accessToken environment client).run.run session with
    | (.error _, _) => []
    | (.ok token, ready) =>
        resourceAttempt environment client url token ready ::
          match (sendWith environment client url token).run.run ready with
          | (.error _, _) => []
          | (.ok response, denied) =>
              if response.status = unauthorized then
                loginAttempt environment client denied ::
                  match (login environment client).run.run denied with
                  | (.error _, _) => []
                  | (.ok renewed, restored) =>
                      [resourceAttempt environment client url renewed restored]
              else []

/-- The attempts of the run of a plan. -/
def runAttempts (plan : Plan α) (session : Session) : List Attempt :=
  (visits environment client plan session).flatMap fun found =>
    urlAttempts environment client (client.resourceUrl found.resource) found.before

/-- The attempts of starting a session. -/
def startAttempts (config : Config) (client : Client) : List Attempt :=
  if config.initialLogin then [loginAttempt environment client fresh] else []

/-! ### Errors of attempts -/

/-- The errors that an attempt explains. -/
inductive Explains (attempt : Attempt) : Client.Error → Prop
  | lost {url : String} (lost : attempt.response? = none) : Explains attempt (.request url)
  | rejected {response : Response} {error : Client.Error}
      (answered : attempt.response? = some response) (rejected : response.isSuccess = false)
      (reports : error.status? = some response.status) : Explains attempt error
  | unread {response : Response} {url : String} (answered : attempt.response? = some response)
      (accepted : response.isSuccess = true) : Explains attempt (.decode url)

/-- A property of the last one of some attempts. -/
def Last (attempts : List Attempt) (holds : Attempt → Prop) : Prop :=
  ∃ last, attempts.getLast? = some last ∧ holds last

theorem last_singleton {attempt : Attempt} {holds : Attempt → Prop} (last : holds attempt) :
    Last [attempt] holds :=
  ⟨attempt, rfl, last⟩

theorem Last.prepend {attempts : List Attempt} {holds : Attempt → Prop}
    (last : Last attempts holds) (before : List Attempt) : Last (before ++ attempts) holds := by
  obtain ⟨attempt, ends, holds⟩ := last
  exact ⟨attempt, by rw [List.getLast?_append, ends, Option.some_or], holds⟩

section Steps

variable {environment client} {session after : Session} {own : List Exchange}

theorem Login.own_eq {result : Except Stop String}
    (login : Login environment client session own result after) :
    own = (loginAttempt environment client session).exchange?.toList := by
  unfold loginAttempt
  cases login with
  | unsent closed => rw [closed]; rfl
  | failed opened | overflow opened | kept opened => rw [opened]; rfl

/-- A login that fails is explained by its attempt. -/
theorem Login.explains {error : Client.Error}
    (login : Login environment client session own (.error (.failed error)) after) :
    Explains (loginAttempt environment client session) error := by
  unfold loginAttempt
  cases login with
  | unsent closed =>
    rw [closed]
    exact .lost rfl
  | failed opened refused =>
    rw [opened, if_pos rfl]
    unfold loginError? at refused
    cases answered : (session.answer environment client.tokenRequest).response? with
    | none =>
      rw [answered] at refused
      obtain rfl := Option.some.inj refused
      exact .lost answered
    | some response =>
      rw [answered] at refused
      cases success : response.isSuccess with
      | false =>
        simp only [success, Bool.not_false, if_true] at refused
        obtain rfl := Option.some.inj refused
        exact .rejected answered success rfl
      | true =>
        simp only [success, Bool.not_true, Bool.false_eq_true, if_false] at refused
        split at refused
        · obtain rfl := Option.some.inj refused
          exact .unread answered success
        · cases refused

theorem Sent.own_eq {url : Url} {token : String} {result : Except Stop Response}
    (sent : Sent environment client url token session own result after) :
    own = (resourceAttempt environment client url token session).exchange?.toList := by
  unfold resourceAttempt
  cases sent with
  | unsent blocked =>
    rcases blocked with closed | unmade
    · rw [closed]; rfl
    · rw [unmade]
      cases client.canSend <;> rfl
  | lost opened made | answered opened made =>
    rw [opened, made]
    rfl

/-- The response to a request, or the lack of one, is that to its attempt. -/
theorem Sent.response {url : Url} {token : String} {result : Except Stop Response}
    (sent : Sent environment client url token session own result after) :
    match result with
    | .ok response =>
        (resourceAttempt environment client url token session).response? = some response
    | .error stop => (resourceAttempt environment client url token session).response? = none ∧
        stop = .failed (.request url.text) := by
  unfold resourceAttempt
  cases sent with
  | unsent blocked =>
    refine ⟨?_, rfl⟩
    rcases blocked with closed | unmade
    · rw [closed]; rfl
    · rw [unmade]
      cases client.canSend <;> rfl
  | lost opened made lost =>
    rw [opened, made]
    exact ⟨lost, rfl⟩
  | answered opened made answered =>
    rw [opened, made]
    exact answered

/-! ### Attempts of steps -/

/-- Attempts that lead from a session to another one: those that were sent are its exchanges, and
the last one explains the error, if it is one. -/
structure Tried (attempts : List Attempt) (session after : Session) (result : Except Stop α) :
    Prop where
  exchanges : after.exchanges = session.exchanges ++ attempts.filterMap Attempt.exchange?
  failed : ∀ error, result = .error (.failed error) → Last attempts (Explains · error)

theorem Tried.append {β : Type} {before attempts : List Attempt} {middle : Session} {value : α}
    {result : Except Stop β} (first : Tried before session middle (.ok value))
    (second : Tried attempts middle after result) :
    Tried (before ++ attempts) session after result where
  exchanges := by
    rw [second.exchanges, first.exchanges, List.append_assoc, List.filterMap_append]
  failed error same := (second.failed error same).prepend before

/-- An action that stops is one of any type. -/
theorem Tried.stopped {β : Type} {attempts : List Attempt} {stop : Stop}
    (tried : Tried attempts session after (.error stop : Except Stop α)) :
    Tried attempts session after (.error stop : Except Stop β) where
  exchanges := tried.exchanges
  failed error same := by
    obtain rfl := Except.error.inj same
    exact tried.failed error rfl

theorem filterMap_exchange? (attempt : Attempt) :
    [attempt].filterMap Attempt.exchange? = attempt.exchange?.toList := by
  cases attempt <;> rfl

theorem tried_login {result : Except Stop String}
    (ran : (login environment client).run.run session = (result, after)) :
    Tried [loginAttempt environment client session] session after result := by
  obtain ⟨own, login⟩ := login_login ran
  refine ⟨?_, ?_⟩
  · rw [login.exchanges, filterMap_exchange?, login.own_eq]
  · rintro error rfl
    exact last_singleton login.explains

theorem tried_accessToken {result : Except Stop String}
    (ran : (accessToken environment client).run.run session = (result, after)) :
    Tried (tokenAttempts environment client session) session after result := by
  unfold tokenAttempts
  obtain ⟨own, obtained⟩ := accessToken_obtained ran
  cases obtained with
  | cached kept fresh =>
    rw [fresh]
    exact ⟨(List.append_nil _).symm, fun _ same => by cases same⟩
  | requested stale login =>
    rw [stale, if_pos rfl]
    refine ⟨?_, ?_⟩
    · rw [login.exchanges, filterMap_exchange?, login.own_eq]
      rfl
    · rintro error rfl
      exact last_singleton login.explains

theorem tried_sendWith {url : Url} {token : String} {result : Except Stop Response}
    (ran : (sendWith environment client url token).run.run session = (result, after)) :
    Tried [resourceAttempt environment client url token session] session after result ∧
      ∀ response, result = .ok response →
        (resourceAttempt environment client url token session).response? = some response := by
  obtain ⟨own, sent⟩ := sendWith_sent ran
  have arrives := sent.response
  refine ⟨⟨?_, ?_⟩, ?_⟩
  · rw [sent.exchanges, filterMap_exchange?, sent.own_eq]
  · rintro error rfl
    obtain ⟨lost, same⟩ := arrives
    obtain rfl := Stop.failed.inj same
    exact last_singleton (.lost lost)
  · rintro response rfl
    exact arrives

/-- The last attempt explains how a request and its retry end. -/
theorem tried_sendAuthorized {url : Url} {result : Except Stop Response}
    (ran : (sendAuthorized environment client url).run.run session = (result, after)) :
    Tried (urlAttempts environment client url session) session after result ∧
      ∀ response, result = .ok response →
        Last (urlAttempts environment client url session) (·.response? = some response) := by
  rw [sendAuthorized, run_bind] at ran
  unfold urlAttempts
  rcases first : (accessToken environment client).run.run session with ⟨_ | token, ready⟩
  · rw [first] at ran
    cases ran
    rw [List.append_nil]
    exact ⟨(tried_accessToken first).stopped, fun _ same => by cases same⟩
  have obtained := tried_accessToken first
  rw [first] at ran
  dsimp only at ran ⊢
  rw [run_bind] at ran
  rcases second : (sendWith environment client url token).run.run ready with
    ⟨_ | response, denied⟩
  · rw [second] at ran
    cases ran
    exact ⟨obtained.append (tried_sendWith second).1, fun _ same => by cases same⟩
  obtain ⟨sent, answered⟩ := tried_sendWith second
  rw [second] at ran
  dsimp only at ran ⊢
  by_cases rejected : response.status = unauthorized
  · rw [if_pos rejected, run_bind] at ran
    rw [if_pos rejected]
    rcases third : (login environment client).run.run denied with ⟨_ | renewed, restored⟩
    · rw [third] at ran
      cases ran
      refine ⟨obtained.append (sent.append (tried_login third).stopped), ?_⟩
      rintro _ ⟨⟩
    rw [third] at ran
    obtain ⟨resent, again⟩ := tried_sendWith ran
    refine ⟨obtained.append (sent.append ((tried_login third).append resent)), ?_⟩
    intro response same
    exact ((last_singleton (again response same)).prepend [_, _]).prepend _
  · rw [if_neg rejected] at ran ⊢
    cases ran
    refine ⟨obtained.append sent, ?_⟩
    rintro _ ⟨⟩
    exact (last_singleton (answered response rfl)).prepend _

end Steps

/-! ### Attempts of runs -/

section Runs

variable {environment client} {session : Session} {error : Client.Error}

/-- The last attempt of a step explains every error that its reply causes. -/
theorem step_explained (resource : Resource) (session : Session) :
    (step environment client resource session).2.exchanges = session.exchanges ++
        (urlAttempts environment client (client.resourceUrl resource) session).filterMap
          Attempt.exchange? ∧
      ∀ reply error, (step environment client resource session).1 = some reply →
        Causes reply error →
          Last (urlAttempts environment client (client.resourceUrl resource) session)
            (Explains · error) := by
  unfold step fetch
  dsimp only
  rw [run_bind]
  rcases ran : (sendAuthorized environment client (client.resourceUrl resource)).run.run session
    with ⟨stop | response, after⟩
  · obtain ⟨tried, -⟩ := tried_sendAuthorized ran
    cases stop with
    | failed other =>
      refine ⟨tried.exchanges, ?_⟩
      rintro _ error ⟨⟩ ⟨⟩
      exact tried.failed other rfl
    | clockOverflow => exact ⟨tried.exchanges, fun _ _ replied => by cases replied⟩
  · obtain ⟨tried, answered⟩ := tried_sendAuthorized ran
    obtain ⟨last, ends, arrived⟩ := answered response rfl
    dsimp only
    cases success : response.isSuccess with
    | true =>
      refine ⟨tried.exchanges, ?_⟩
      rintro _ error ⟨⟩ ⟨⟩
      exact ⟨last, ends, .unread arrived success⟩
    | false =>
      refine ⟨tried.exchanges, ?_⟩
      rintro _ error ⟨⟩ ⟨⟩
      exact ⟨last, ends, .rejected arrived success rfl⟩

theorem visit_attempts (resource : Resource) (session : Session) :
    (visit environment client resource session).exchanges =
      (urlAttempts environment client (client.resourceUrl resource) session).filterMap
        Attempt.exchange? := by
  rw [Visit.exchanges]
  show (step environment client resource session).2.exchanges.drop session.exchanges.length = _
  rw [(step_explained resource session).1, List.drop_left]

/-- The exchanges of a run are its attempts, as far as they could be sent. -/
theorem run_attempts (plan : Plan α) (session : Session) :
    (run environment client plan session).2.exchanges =
      session.exchanges ++
        (runAttempts environment client plan session).filterMap Attempt.exchange? := by
  have same : (visits environment client plan session).flatMap Visit.exchanges =
      (visits environment client plan session).flatMap fun found =>
        (urlAttempts environment client (client.resourceUrl found.resource) found.before).filterMap
          Attempt.exchange? := by
    refine List.flatMap_congr fun found member => ?_
    rw [eq_visit_of_mem member]
    exact visit_attempts found.resource found.before
  rw [run_exchanges, same, runAttempts, List.filterMap_flatMap]

/-- The last attempt of a lookup explains the error of a request in which it ends. -/
theorem run_explained {kind : Kind} {externalName : String} {params : Parameters}
    (failed : (run environment client (kind.resolve externalName params) session).1 =
      some (Lookup.failed error)) :
    Last (runAttempts environment client (kind.resolve externalName params) session)
      (Explains · error) := by
  obtain ⟨trace, traced, same⟩ := run_trace _ session failed
  obtain ⟨before, resource, reply, rfl, causes⟩ := Kind.endsIn_resolve traced
  rw [List.map_append, List.map_singleton] at same
  obtain ⟨earlier, rest, split, -, last⟩ := List.map_eq_append_iff.1 same
  obtain ⟨found, rfl, ends⟩ := List.map_eq_singleton_iff.1 last
  have member : found ∈ visits environment client (kind.resolve externalName params) session := by
    rw [split]
    exact List.mem_append_right _ (List.mem_singleton_self found)
  have visited := eq_visit_of_mem member
  have replied : (visit environment client found.resource found.before).reply = some reply := by
    rw [← visited]
    exact congrArg Prod.snd ends
  rw [runAttempts, split, List.flatMap_append, List.flatMap_singleton]
  exact ((step_explained found.resource found.before).2 reply error replied causes).prepend _

/-- The attempt of an initial login explains the error in which opening ends. -/
theorem start_explained {config : Config} (built : Client.build config = .ok client)
    (failed : (start environment config).1 = some (.error error)) :
    Last (startAttempts environment config client) (Explains · error) := by
  cases eager : config.initialLogin with
  | false =>
    rw [start_of_lazy environment built eager] at failed
    cases failed
  | true =>
    obtain ⟨own, result, login, opened⟩ := start_of_eager environment built eager
    rw [startAttempts, eager, if_pos rfl]
    rw [failed] at opened
    rcases result with (_ | _) | _
    · obtain rfl := Except.error.inj (Option.some.inj opened)
      exact last_singleton login.explains
    · cases opened
    · cases opened

end Runs

/-! ### Advice -/

/-- What an error says of the last attempt.  Its status is the one of the response, if that is not
one of success.  A retry is advised if the attempt failed in transport, or the status may be another
one later; but not if the attempt was interrupted. -/
structure Advises (last : Attempt) (error : Client.Error) : Prop where
  status : error.status? = last.failure?
  transient : last.isInterrupted = false →
    (error.isTransient = true ↔
      last.isLost = true ∨ ∃ status, last.failure? = some status ∧
        Client.Error.isTransientStatus status = true)
  interrupted : last.isInterrupted = true →
    error.isTransient = false ∧ ∃ url, error = .decode url

section Advice

variable {attempt : Attempt} {response : Response} {error : Client.Error}

theorem Attempt.failure?_eq (answered : attempt.response? = some response) :
    attempt.failure? = if response.isSuccess then none else some response.status := by
  rw [Attempt.failure?, answered]
  cases success : response.isSuccess <;> simp [Option.filter, success]

theorem Attempt.isInterrupted_eq (answered : attempt.response? = some response) :
    attempt.isInterrupted = (response.isSuccess && response.body == .truncated) := by
  rw [Attempt.isInterrupted, answered, Option.any_some]

/-- The status that an error reports decides whether it advises a retry. -/
theorem isTransient_of_status? {status : Nat} (reports : error.status? = some status) :
    error.isTransient = Client.Error.isTransientStatus status := by
  cases error with
  | api | authentication =>
    obtain rfl := Option.some.inj reports
    rfl
  | request | decode | invalidUrl | invalidHeader | build => cases reports

/-- An error gives the advice that its attempt explains. -/
theorem Explains.advises (explains : Explains attempt error) : Advises attempt error := by
  cases explains with
  | lost lost =>
    have calm : attempt.isInterrupted = false := by rw [Attempt.isInterrupted, lost]; rfl
    refine ⟨?_, fun _ => ?_, fun broken => ?_⟩
    · rw [Attempt.failure?, lost]
      rfl
    · rw [Attempt.isLost, lost]
      exact iff_of_true rfl (.inl rfl)
    · cases calm.symm.trans broken
  | rejected answered rejected reports =>
    have calm : attempt.isInterrupted = false := by
      rw [attempt.isInterrupted_eq answered, rejected, Bool.false_and]
    have status := attempt.failure?_eq answered
    rw [rejected, if_neg Bool.false_ne_true] at status
    refine ⟨reports.trans status.symm, fun _ => ?_, fun broken => ?_⟩
    · rw [isTransient_of_status? reports, Attempt.isLost, answered, calm, status]
      simp
    · cases calm.symm.trans broken
  | unread answered accepted =>
    have status := attempt.failure?_eq answered
    rw [accepted, if_pos rfl] at status
    refine ⟨status.symm, fun calm => ?_, fun _ => ⟨rfl, _, rfl⟩⟩
    rw [Attempt.isLost, answered, calm, status]
    exact iff_of_false Bool.false_ne_true (by simp)

end Advice

/-- The exchange of an initial login is its attempt, if it could be sent. -/
theorem start_attempts {environment : Environment} {client : Client} {config : Config}
    (built : Client.build config = .ok client) :
    (start environment config).2.exchanges =
      (startAttempts environment config client).filterMap Attempt.exchange? := by
  unfold startAttempts
  cases eager : config.initialLogin with
  | false =>
    rw [start_of_lazy environment built eager]
    rfl
  | true =>
    obtain ⟨own, result, login, -⟩ := start_of_eager environment built eager
    rw [if_pos rfl, filterMap_exchange?, login.exchanges, login.own_eq]
    rfl

/-- Every error of a request that opening or a lookup ends in gives the advice of the last request
that was attempted. -/
theorem retry_advice {config : Config} {client : Client} (built : Client.build config = .ok client)
    (environment : Environment) :
    ((start environment config).2.exchanges =
        (startAttempts environment config client).filterMap Attempt.exchange? ∧
      ∀ error, (start environment config).1 = some (.error error) →
        Last (startAttempts environment config client) (Advises · error)) ∧
      ∀ (session : Session) (kind : Kind) (externalName : String) (params : Parameters),
        let lookup := kind.resolve externalName params
        (run environment client lookup session).2.exchanges = session.exchanges ++
            (runAttempts environment client lookup session).filterMap Attempt.exchange? ∧
          ∀ error, (run environment client lookup session).1 = some (.error (.client error)) →
            Last (runAttempts environment client lookup session) (Advises · error) := by
  have advised {attempts : List Attempt} {error : Client.Error}
      (explained : Last attempts (Explains · error)) : Last attempts (Advises · error) := by
    obtain ⟨last, ends, explains⟩ := explained
    exact ⟨last, ends, explains.advises⟩
  refine ⟨⟨start_attempts built, fun error failed => ?_⟩, fun session kind name params => ?_⟩
  · exact advised (start_explained built failed)
  · exact ⟨run_attempts _ session, fun error failed => advised (run_explained failed)⟩

/-! ### Lost connections -/

/-- The lookup of a role. -/
def roleLookup : Plan (Except Lookup.Error (Option String)) :=
  Kind.role.resolve roleQuery.externalName roleQuery.params

/-- The server of the local host when it cannot be reached. -/
def absentServer : Environment := ⟨Network.unreachable, id⟩

/-- The error of a login that does not reach the local host. -/
def unreached : Client.Error :=
  .request "http://localhost:8080/realms/master/protocol/openid-connect/token"

theorem run_absentServer : (run absentServer Client.localClient roleLookup fresh).1 =
    some (.error (.client unreached)) := by
  decide +kernel

/-- For a server that cannot be reached a retry is advised. -/
theorem retry_advice_absentServer :
    (run absentServer Client.localClient roleLookup fresh).1 = some (.error (.client unreached)) ∧
      unreached.isTransient = true ∧
      Last (runAttempts absentServer Client.localClient roleLookup fresh)
        (Advises · unreached) :=
  ⟨run_absentServer, rfl,
    ((retry_advice Client.build_localConfig absentServer).2 fresh .role roleQuery.externalName
      roleQuery.params).2 unreached run_absentServer⟩

/-- A server whose responses to requests for resources break off. -/
def brokenServer : Environment where
  network _ request :=
    match request.method with
    | .post => grant
    | .get => .response ⟨200, .truncated⟩
  clock := id

/-- The error of a role whose representation breaks off. -/
def undecoded : Client.Error :=
  .decode "http://localhost:8080/admin/realms/r/roles-by-id/a"

theorem run_brokenServer : (run brokenServer Client.localClient roleLookup fresh).1 =
    some (.error (.client undecoded)) := by
  decide +kernel

theorem isLost_brokenServer :
    ((runAttempts brokenServer Client.localClient roleLookup fresh).getLast?.map
      Attempt.isLost) = some true := by
  decide +kernel

/-- A connection that is lost while the body of a success is read is lost in transport, but no retry
is advised. -/
theorem retry_advice_brokenServer :
    ¬ ∀ (environment : Environment) (session : Session) (kind : Kind) (externalName : String)
        (params : Parameters) (error : Client.Error),
      (run environment Client.localClient (kind.resolve externalName params) session).1 =
          some (.error (.client error)) →
        Last (runAttempts environment Client.localClient (kind.resolve externalName params) session)
          fun last => error.isTransient = true ↔
            last.isLost = true ∨ ∃ status, last.failure? = some status ∧
              Client.Error.isTransientStatus status = true := by
  intro law
  obtain ⟨last, ends, advice⟩ := law brokenServer fresh .role roleQuery.externalName
    roleQuery.params undecoded run_brokenServer
  have lost := isLost_brokenServer
  unfold roleLookup at lost
  rw [ends, Option.map_some] at lost
  exact Bool.false_ne_true (advice.2 (.inl (Option.some.inj lost)))

end RealmLookup.Session
