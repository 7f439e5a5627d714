import RealmLookup.Lookup.Strategies
import RealmLookup.Proofs.Client.Requests
import RealmLookup.Proofs.Session.Visits

/-!
# Transparency of tokens

What is resolved through a session does not show that there are tokens.  Against a server that
issues a token whenever it is asked for one, whose resources have fixed responses, and which may
reject any token at any time except right after it was issued again, every plan ends as if it were
evaluated against the resources.

## Main definitions

* `Session.Issues`, `Session.Serves` : servers that issue tokens, and such a server.
* `Session.replies` : the replies that a client gets of its resources.
* `Session.Ready` : what every session with such a server keeps.
* `Session.answers` : the answers to one query after another.

## Main results

* `Session.run_eval` : a run ends in the value of its plan for the fixed replies.
* `Session.answers_transparent` : every answer is the one that a fresh session gets of a server
  with the same resources.
-/

namespace RealmLookup

open RealmLookup.Http RealmLookup.Admin

/-- A question for the identifier of an object. -/
structure Lookup.Query where
  kind : Kind
  externalName : String
  params : Parameters

/-- The plan that answers a query. -/
def Lookup.Query.plan (query : Lookup.Query) : Plan (Except Lookup.Error (Option String)) :=
  query.kind.resolve query.externalName query.params

namespace Session

variable {α : Type} {client : Client} {environment : Environment} {resources : Url → Response}
  {valid : List Request → String → Prop}

/-! ### Servers that issue tokens -/

/-- A server that answers every login with a token that can be sent and whose expiry the clock can
hold. -/
def Issues (client : Client) (environment : Environment) : Prop :=
  ∀ earlier, ∃ issued, issued? (environment.network earlier client.tokenRequest) = some issued ∧
    Header.isValue issued.token = true ∧
      ∀ seconds, issued.expiresIn = some seconds → ∀ reading,
        (after? (environment.clock reading) seconds).isSome = true

/-- What every session keeps: its token can be sent. -/
def Ready (client : Client) (session : Session) : Prop :=
  ∀ token, session.token = some token →
    client.canSend = true ∧ Header.isValue token.value = true

theorem ready_fresh : Ready client fresh := by
  intro token kept
  cases kept

section Logins

variable (issuing : Issues client environment) {session after : Session} {own : List Exchange}
include issuing

/-- A login that is sent issues a token, which is kept. -/
theorem Login.served {result : Except Stop String}
    (login : Login environment client session own result after) :
    (client.canSend = false ∧ result = .error (.failed (.request client.tokenUrl.text)) ∧
        after = session) ∨
      ∃ issued, client.canSend = true ∧ result = .ok issued.token ∧
        issued? (session.answer environment client.tokenRequest) = some issued ∧
          Header.isValue issued.token = true ∧
            after = (session.record environment client.tokenRequest).keep environment issued := by
  obtain ⟨granted, grants, safe, fits⟩ := issuing (session.exchanges.map Exchange.request)
  rw [← answer] at grants
  cases login with
  | unsent closed => exact .inl ⟨closed, rfl, rfl⟩
  | failed opened refused =>
    rw [loginError?_eq_none_iff.2 ⟨granted, grants⟩] at refused
    cases refused
  | @overflow issued seconds opened issues expires late =>
    obtain rfl : granted = issued := Option.some.inj (grants.symm.trans issues)
    have timely := fits seconds expires session.readings
    rw [late] at timely
    cases timely
  | @kept issued opened issues =>
    obtain rfl : granted = issued := Option.some.inj (grants.symm.trans issues)
    exact .inr ⟨granted, opened, rfl, issues, safe, rfl⟩

/-- A login leaves a token that can be sent. -/
theorem Login.ready {result : Except Stop String}
    (login : Login environment client session own result after) (ready : Ready client session) :
    Ready client after := by
  rcases login.served issuing with ⟨-, -, rfl⟩ | ⟨issued, opened, -, -, safe, rfl⟩
  · exact ready
  · intro token kept
    obtain rfl := Option.some.inj kept
    exact ⟨opened, safe⟩

/-- A token that is obtained can be sent. -/
theorem Obtained.served {token : String}
    (obtained : Obtained environment client session own (.ok token) after)
    (ready : Ready client session) :
    client.canSend = true ∧ Header.isValue token = true ∧ Ready client after := by
  cases obtained with
  | @cached token kept =>
    obtain ⟨opened, safe⟩ := ready token kept
    exact ⟨opened, safe, ready⟩
  | requested _ login =>
    rcases login.served issuing with ⟨-, failed, -⟩ | ⟨issued, opened, given, -, safe, -⟩
    · cases failed
    · obtain rfl := Except.ok.inj given
      exact ⟨opened, safe, login.ready issuing ready⟩

/-- No token is obtained only where nothing can be sent. -/
theorem Obtained.unserved {stop : Stop}
    (obtained : Obtained environment client session own (.error stop) after)
    (ready : Ready client session) :
    client.canSend = false ∧ stop = .failed (.request client.tokenUrl.text) ∧
      Ready client after := by
  cases obtained with
  | requested _ login =>
    rcases login.served issuing with ⟨closed, failed, -⟩ | ⟨issued, -, given, -⟩
    · exact ⟨closed, Except.error.inj failed, login.ready issuing ready⟩
    · cases given

/-- A session is started unless it has to log in and nothing can be sent. -/
theorem start_served {config : Config} (built : Client.build config = .ok client) :
    (start environment config).1 = some (if config.initialLogin && !client.canSend then
        .error (.request client.tokenUrl.text) else .ok client) ∧
      Ready client (start environment config).2 := by
  cases eager : config.initialLogin with
  | false =>
    rw [start_of_lazy environment built eager]
    exact ⟨rfl, ready_fresh⟩
  | true =>
    obtain ⟨own, result, login, outcome⟩ := start_of_eager environment built eager
    refine ⟨?_, login.ready issuing ready_fresh⟩
    rw [outcome]
    rcases login.served issuing with ⟨closed, rfl, -⟩ | ⟨issued, opened, rfl, -⟩
    · rw [closed]
      rfl
    · rw [opened]
      rfl

end Logins

/-! ### Servers with fixed resources -/

/-- A server that issues tokens and has resources of fixed responses.  After the requests so far a
token is valid or not; nothing relates its validity after different requests, except that a token
which is issued right after another one was rejected is valid for the next request. -/
structure Serves (client : Client) (environment : Environment) (resources : Url → Response)
    (valid : List Request → String → Prop) : Prop where
  issues : ∀ earlier, ∃ issued,
    issued? (environment.network earlier client.tokenRequest) = some issued ∧
      Header.isValue issued.token = true ∧
        ∀ seconds, issued.expiresIn = some seconds → ∀ reading,
          (after? (environment.clock reading) seconds).isSome = true
  accepts : ∀ earlier request token, request.method = .get → request.bearer? = some token →
    valid earlier token →
      environment.network earlier request = .response (resources request.url)
  rejects : ∀ earlier request token, request.method = .get → request.bearer? = some token →
    ¬ valid earlier token →
      ∃ body, environment.network earlier request = .response ⟨401, body⟩
  renews : ∀ earlier request token body issued, request.method = .get →
    request.bearer? = some token →
      environment.network earlier request = .response ⟨401, body⟩ →
        issued? (environment.network (earlier ++ [request]) client.tokenRequest) = some issued →
          valid (earlier ++ [request, client.tokenRequest]) issued.token
  /-- No resource is answered with the status of a rejected token. -/
  authorized : ∀ url, (resources url).status ≠ 401

/-- A request with a token gets the response of the resource, unless the token is rejected. -/
theorem Serves.answers (serves : Serves client environment resources valid)
    (earlier : List Request) {request : Request} {token : String} (gets : request.method = .get)
    (presents : request.bearer? = some token) :
    ∃ response, environment.network earlier request = .response response ∧
      (response = resources request.url ∨ response.status = 401 ∧ ¬ valid earlier token) := by
  by_cases accepted : valid earlier token
  · exact ⟨_, serves.accepts earlier request token gets presents accepted, .inl rfl⟩
  · obtain ⟨body, rejected⟩ := serves.rejects earlier request token gets presents accepted
    exact ⟨_, rejected, .inr ⟨rfl, accepted⟩⟩

/-- The reply that a client gets of a resource. -/
def replies (client : Client) (resources : Url → Response) (resource : Resource) : Reply :=
  if client.canSend then
    replyTo (client.resourceUrl resource) (resources (client.resourceUrl resource).target)
  else .error (.request client.tokenUrl.text)

/-! ### Steps against such a server -/

theorem record_requests (session : Session) (request : Request) :
    (session.record environment request).exchanges.map Exchange.request =
      session.exchanges.map Exchange.request ++ [request] :=
  List.map_append

section Steps

variable (serves : Serves client environment resources valid) {session after : Session}
  {own : List Exchange} {url : Url}
include serves

/-- A request with a token that can be sent gets the response of the resource, unless the token is
rejected. -/
theorem Sent.served {token : String} {result : Except Stop Response}
    (sent : Sent environment client url token session own result after)
    (opened : client.canSend = true) (safe : Header.isValue token = true) :
    ∃ request response, request.method = .get ∧ request.bearer? = some token ∧
      environment.network (session.exchanges.map Exchange.request) request = .response response ∧
        (response = resources url.target ∨ response.status = 401 ∧
          ¬ valid (session.exchanges.map Exchange.request) token) ∧
          result = .ok response ∧ after = session.record environment request := by
  have answer {request : Request} (made : client.resourceRequest? url token = some request) :
      request.method = .get ∧ request.bearer? = some token ∧ ∃ response,
        session.answer environment request = .response response ∧
          (response = resources url.target ∨ response.status = 401 ∧
            ¬ valid (session.exchanges.map Exchange.request) token) := by
    have presents := Client.bearer?_of_resourceRequest? made
    obtain ⟨-, rfl⟩ := Client.resourceRequest?_eq_some_iff.1 made
    exact ⟨rfl, presents, serves.answers _ rfl presents⟩
  cases sent with
  | unsent blocked =>
    rcases blocked with closed | unmade
    · cases opened.symm.trans closed
    · exact absurd unmade (Client.resourceRequest?_ne_none safe url)
  | lost _ made lost =>
    obtain ⟨-, -, response, found, -⟩ := answer made
    rw [found] at lost
    cases lost
  | @answered request response _ made answered =>
    obtain ⟨gets, presents, given, found, possible⟩ := answer made
    rw [found] at answered
    obtain rfl : given = response := Option.some.inj answered
    exact ⟨request, given, gets, presents, found, possible, rfl, rfl⟩

/-- A request and its retry get the response of the resource, if anything can be sent. -/
theorem Responded.served {result : Except Stop Response}
    (responded : Responded environment client url session own result after)
    (ready : Ready client session) :
    Ready client after ∧ result =
      if client.canSend then .ok (resources url.target)
      else .error (.failed (.request client.tokenUrl.text)) := by
  cases responded with
  | tokenless obtained =>
    obtain ⟨closed, rfl, kept⟩ := obtained.unserved serves.issues ready
    rw [closed, if_neg Bool.false_ne_true]
    exact ⟨kept, rfl⟩
  | stopped obtained sent =>
    obtain ⟨opened, safe, kept⟩ := obtained.served serves.issues ready
    obtain ⟨_, _, -, -, -, -, same, -⟩ := sent.served serves opened safe
    cases same
  | answered obtained sent accepted =>
    obtain ⟨opened, safe, kept⟩ := obtained.served serves.issues ready
    obtain ⟨request, response, -, -, -, possible, same, rfl⟩ := sent.served serves opened safe
    obtain rfl := Except.ok.inj same
    rcases possible with rfl | ⟨rejected, -⟩
    · rw [opened, if_pos rfl]
      exact ⟨kept, rfl⟩
    · exact absurd rejected accepted
  | refused obtained sent _ login =>
    obtain ⟨opened, safe, kept⟩ := obtained.served serves.issues ready
    rcases login.served serves.issues with ⟨closed, -⟩ | ⟨issued, -, given, -⟩
    · cases opened.symm.trans closed
    · cases given
  | @retried lead _ _ _ token _ _ _ held _ _ _ obtained sent rejected login resent =>
    obtain ⟨opened, safe, kept⟩ := obtained.served serves.issues ready
    obtain ⟨request, ⟨status, body⟩, gets, presents, found, -, same, rfl⟩ :=
      sent.served serves opened safe
    obtain rfl := Except.ok.inj same
    obtain rfl : status = 401 := rejected
    rcases login.served serves.issues with ⟨closed, -⟩ | ⟨issued, -, given, issues, renewed, rfl⟩
    · cases opened.symm.trans closed
    obtain rfl := Except.ok.inj given
    -- The token of the login just sent is valid for the request that follows it.
    rw [answer, record_requests] at issues
    have accepted := serves.renews _ request token body issued gets presents found issues
    obtain ⟨_, response, -, -, -, possible, rfl, rfl⟩ := resent.served serves opened renewed
    rw [keep, record_requests, record_requests, List.append_assoc] at possible
    rcases possible with rfl | ⟨-, invalid⟩
    · rw [opened, if_pos rfl]
      refine ⟨fun token kept => ?_, rfl⟩
      obtain rfl := Option.some.inj kept
      exact ⟨opened, renewed⟩
    · exact absurd accepted invalid

end Steps

/-! ### Runs against such a server -/

/-- If every visit has a fixed reply, a run ends in the value of its plan for these replies. -/
theorem run_eval_of_visits {fixed : Resource → Reply}
    (visited : ∀ resource session, Ready client session →
      (visit environment client resource session).reply = some (fixed resource) ∧
        Ready client (visit environment client resource session).after)
    (plan : Plan α) {session : Session} (ready : Ready client session) :
    (run environment client plan session).1 = some (plan.eval fixed) ∧
      Ready client (run environment client plan session).2 := by
  induction plan generalizing session with
  | done value => exact ⟨rfl, ready⟩
  | fetch resource next ih =>
    obtain ⟨replied, kept⟩ := visited resource session ready
    rw [run_fetch_visit, replied]
    exact ih _ kept

section Runs

variable (serves : Serves client environment resources valid)
include serves

/-- A visit has the reply of its resource. -/
theorem visit_served (resource : Resource) {session : Session} (ready : Ready client session) :
    (visit environment client resource session).reply = some (replies client resources resource) ∧
      Ready client (visit environment client resource session).after := by
  obtain ⟨result, responded, replied⟩ := visit_responded environment client resource session
  obtain ⟨kept, rfl⟩ := responded.served serves ready
  refine ⟨?_, kept⟩
  rw [replied, replies]
  cases client.canSend <;> rfl

/-- A run ends in the value of its plan for the fixed replies. -/
theorem run_eval (plan : Plan α) {session : Session} (ready : Ready client session) :
    (run environment client plan session).1 = some (plan.eval (replies client resources)) ∧
      Ready client (run environment client plan session).2 :=
  run_eval_of_visits (fun resource _ ready => visit_served serves resource ready) plan ready

end Runs

/-- The answers to one query after another; none ends the run if the clock cannot hold the expiry
of a token. -/
def answers (environment : Environment) (client : Client) :
    List Lookup.Query → Session → List (Option (Except Lookup.Error (Option String)))
  | [], _ => []
  | query :: rest, session =>
      match run environment client query.plan session with
      | (some answer, after) => some answer :: answers environment client rest after
      | (none, _) => [none]

theorem answers_eval (serves : Serves client environment resources valid)
    (queries : List Lookup.Query) {session : Session} (ready : Ready client session) :
    answers environment client queries session =
      queries.map fun query => some (query.plan.eval (replies client resources)) := by
  induction queries generalizing session with
  | nil => rfl
  | cons query rest ih =>
    obtain ⟨answered, kept⟩ := run_eval serves query.plan ready
    rw [answers, List.map_cons]
    rcases ran : run environment client query.plan session with ⟨answer, after⟩
    rw [ran] at answered kept
    obtain rfl : answer = _ := answered
    exact congrArg _ (ih kept)

/-- Whatever tokens a server issues and rejects, every answer to one query after another is the one
that a fresh session gets of any other server with the same resources, such as one that never
rejects a token; the resources and the query alone determine it. -/
theorem answers_transparent {config : Config} (built : Client.build config = .ok client)
    (serves : Serves client environment resources valid) {steady : Environment}
    {lasting : List Request → String → Prop} (stays : Serves client steady resources lasting)
    (queries : List Lookup.Query) :
    (start environment config).1 = some (if config.initialLogin && !client.canSend then
        .error (.request client.tokenUrl.text) else .ok client) ∧
      answers environment client queries (start environment config).2 =
        queries.map (fun query => (run steady client query.plan (start steady config).2).1) ∧
      ∀ query ∈ queries, (run steady client query.plan (start steady config).2).1 =
        some (query.plan.eval (replies client resources)) := by
  obtain ⟨started, ready⟩ := start_served serves.issues built
  obtain ⟨-, fresh⟩ := start_served stays.issues built
  have steadily (query : Lookup.Query) := (run_eval stays query.plan fresh).1
  refine ⟨started, ?_, fun query _ => steadily query⟩
  rw [answers_eval serves queries ready]
  exact List.map_congr_left fun query _ => (steadily query).symm

/-! ### Tokens for one request -/

theorem serves_tokenServer (client : Client) (lasts : Bool)
    (authorized : ∀ url, (resources url).status ≠ 401) :
    Serves client (tokenServer lasts resources) resources fun earlier _ =>
      (lasts || earlier.getLast?.any fun last => last.method == .post) = true where
  issues earlier := ⟨⟨"t", none⟩, issued?_grant, by decide, by simp⟩
  accepts earlier request token gets _ accepted := by
    simp only [tokenServer, gets, accepted, if_true]
  rejects earlier request token gets _ rejected := by
    simp only [tokenServer, gets, rejected]
    exact ⟨_, rfl⟩
  renews earlier request token body issued _ _ _ _ := by
    simp [Client.tokenRequest]
  authorized := authorized

theorem authorized_missing (url : Url) : (missing url).status ≠ 401 := by
  unfold missing
  decide

/-- A query for a role of the realm. -/
def roleQuery : Lookup.Query :=
  ⟨.role, "a", .ofEntries [("realm_id", .string "r"), ("name", .string "n")]⟩

/-- The client of the local host asks twice for a role, of a server whose tokens serve for one
request and of the same server whose tokens last. -/
theorem answers_transparent_tokenServer :
    Client.build Client.localConfig = .ok Client.localClient ∧
      Serves Client.localClient (tokenServer false missing) missing
        (fun earlier _ => earlier.getLast?.any (fun last => last.method == .post) = true) ∧
      answers (tokenServer false missing) Client.localClient [roleQuery, roleQuery]
          (start (tokenServer false missing) Client.localConfig).2 =
        [roleQuery, roleQuery].map fun query =>
          (run (tokenServer true missing) Client.localClient query.plan
            (start (tokenServer true missing) Client.localConfig).2).1 :=
  ⟨Client.build_localConfig, serves_tokenServer _ false authorized_missing,
    (answers_transparent Client.build_localConfig (serves_tokenServer _ false authorized_missing)
      (serves_tokenServer _ true authorized_missing) _).2.1⟩

end Session

end RealmLookup
