import RealmLookup.Proofs.Session.Action

/-!
# What a step of a session can do

Each step of a session is described once, by a relation with one constructor for each way in
which it can end.  A relation holds of the session before the step, of the exchanges that the
step adds, of its result and of the session after it.  Whatever is proved of runs is proved by
cases on these relations; the steps themselves are not opened again.

## Main definitions

* `Session.Login`, `Session.Sent`, `Session.Obtained`, `Session.Responded` : the ways in which
  a login, a request with a token, the choice of a token and a request with its retry end.
* `Session.step` : fetching a resource, as a function on sessions.

## Main results

* `Session.login_login`, `Session.sendWith_sent`, `Session.accessToken_obtained`,
  `Session.sendAuthorized_responded` : every step ends in one of these ways.
* `Session.step_responded` : the reply of a step follows from the response it got.
* `Session.run_fetch` : a plan is run step by step.
* `Session.start_of_lazy`, `Session.start_of_eager` : how a session is started.
-/

namespace RealmLookup.Session

open RealmLookup.Http RealmLookup.Representation RealmLookup.Admin

variable {α β : Type}

/-! ### Logins -/

/-- The token that the answer to a login issues. -/
def issued? (answer : Answer) : Option Issued :=
  match answer.response? with
  | some response => if response.isSuccess then response.body.read? Issued.decode else none
  | none => none

/-- The error that the answer to a login means, if it issues no token. -/
def loginError? (client : Client) (answer : Answer) : Option Client.Error :=
  match answer.response? with
  | some response =>
      if !response.isSuccess then
        some (.authentication client.realm response.status response.body.text)
      else if (response.body.read? Issued.decode).isNone then
        some (.decode client.tokenUrl.text)
      else none
  | none => some (.request client.tokenUrl.text)

/-- The answer to a login means an error unless it issues a token. -/
theorem loginError?_eq_none_iff {client : Client} {answer : Answer} :
    loginError? client answer = none ↔ ∃ issued, issued? answer = some issued := by
  unfold loginError? issued?
  cases answer.response? with
  | none => simp
  | some response =>
    cases success : response.isSuccess <;> cases read : response.body.read? Issued.decode <;>
      simp [success, read]

/-- A token as it is kept when it is issued at some time. -/
def Issued.tokenAt (issued : Issued) (time : Nat) : Token :=
  ⟨issued.token, issued.expiresIn.map fun seconds => time + seconds * second⟩

/-- The session once an issued token is kept; the clock is read if the token expires. -/
def keep (environment : Environment) (session : Session) (issued : Issued) : Session where
  token := some (issued.tokenAt (environment.clock session.readings))
  exchanges := session.exchanges
  readings := session.readings + if issued.expiresIn.isSome then 1 else 0

theorem keep_of_lasting (environment : Environment) (session : Session) {issued : Issued}
    (lasting : issued.expiresIn = none) :
    session.keep environment issued =
      { session with token := some ⟨issued.token, none⟩ } := by
  simp [keep, Issued.tokenAt, lasting]

theorem keep_of_expiring (environment : Environment) (session : Session) {issued : Issued}
    {seconds expiry : Nat} (expires : issued.expiresIn = some seconds)
    (fits : after? (environment.clock session.readings) seconds = some expiry) :
    session.keep environment issued =
      ⟨some ⟨issued.token, some expiry⟩, session.exchanges, session.readings + 1⟩ := by
  simp [keep, Issued.tokenAt, expires, after?_eq_some fits]

/-! ### The ways in which steps end -/

section Relations

variable (environment : Environment) (client : Client)

/-- The ways in which a login ends. -/
inductive Login (session : Session) : List Exchange → Except Stop String → Session → Prop
  | unsent (closed : client.canSend = false) :
      Login session [] (.error (.failed (.request client.tokenUrl.text))) session
  | failed {error : Client.Error} (opened : client.canSend = true)
      (refused : loginError? client (session.answer environment client.tokenRequest) =
        some error) :
      Login session [session.exchange environment client.tokenRequest]
        (.error (.failed error)) (session.record environment client.tokenRequest)
  | overflow {issued : Issued} {seconds : Nat} (opened : client.canSend = true)
      (issues : issued? (session.answer environment client.tokenRequest) = some issued)
      (expires : issued.expiresIn = some seconds)
      (late : after? (environment.clock session.readings) seconds = none) :
      Login session [session.exchange environment client.tokenRequest] (.error .clockOverflow)
        { session.record environment client.tokenRequest with readings := session.readings + 1 }
  | kept {issued : Issued} (opened : client.canSend = true)
      (issues : issued? (session.answer environment client.tokenRequest) = some issued)
      (fits : ∀ seconds, issued.expiresIn = some seconds →
        (after? (environment.clock session.readings) seconds).isSome = true) :
      Login session [session.exchange environment client.tokenRequest] (.ok issued.token)
        ((session.record environment client.tokenRequest).keep environment issued)

/-- The ways in which a request with a token ends. -/
inductive Sent (url : Url) (token : String) (session : Session) :
    List Exchange → Except Stop Response → Session → Prop
  | unsent (blocked : client.canSend = false ∨ client.resourceRequest? url token = none) :
      Sent url token session [] (.error (.failed (.request url.text))) session
  | lost {request : Request} (opened : client.canSend = true)
      (made : client.resourceRequest? url token = some request)
      (lost : (session.answer environment request).response? = none) :
      Sent url token session [session.exchange environment request]
        (.error (.failed (.request url.text))) (session.record environment request)
  | answered {request : Request} {response : Response} (opened : client.canSend = true)
      (made : client.resourceRequest? url token = some request)
      (answered : (session.answer environment request).response? = some response) :
      Sent url token session [session.exchange environment request] (.ok response)
        (session.record environment request)

/-- The ways in which a token for a request is obtained. -/
inductive Obtained (session : Session) : List Exchange → Except Stop String → Session → Prop
  | cached {token : Token} (kept : session.token = some token)
      (fresh : session.isStale environment = false) :
      Obtained session [] (.ok token.value) session.checked
  | requested {own : List Exchange} {result : Except Stop String} {after : Session}
      (stale : session.isStale environment = true)
      (login : Login environment client session.checked own result after) :
      Obtained session own result after

/-- The ways in which a request and its retry end. -/
inductive Responded (url : Url) (session : Session) :
    List Exchange → Except Stop Response → Session → Prop
  | tokenless {own : List Exchange} {stop : Stop} {after : Session}
      (obtained : Obtained environment client session own (.error stop) after) :
      Responded url session own (.error stop) after
  | stopped {lead own : List Exchange} {token : String} {stop : Stop} {ready after : Session}
      (obtained : Obtained environment client session lead (.ok token) ready)
      (sent : Sent environment client url token ready own (.error stop) after) :
      Responded url session (lead ++ own) (.error stop) after
  | answered {lead own : List Exchange} {token : String} {response : Response}
      {ready after : Session}
      (obtained : Obtained environment client session lead (.ok token) ready)
      (sent : Sent environment client url token ready own (.ok response) after)
      (accepted : response.status ≠ unauthorized) :
      Responded url session (lead ++ own) (.ok response) after
  | refused {lead own renewal : List Exchange} {token : String} {response : Response}
      {stop : Stop} {ready denied after : Session}
      (obtained : Obtained environment client session lead (.ok token) ready)
      (sent : Sent environment client url token ready own (.ok response) denied)
      (rejected : response.status = unauthorized)
      (login : Login environment client denied renewal (.error stop) after) :
      Responded url session (lead ++ own ++ renewal) (.error stop) after
  | retried {lead own renewal again : List Exchange} {token renewed : String}
      {response : Response} {result : Except Stop Response} {ready denied restored after : Session}
      (obtained : Obtained environment client session lead (.ok token) ready)
      (sent : Sent environment client url token ready own (.ok response) denied)
      (rejected : response.status = unauthorized)
      (login : Login environment client denied renewal (.ok renewed) restored)
      (resent : Sent environment client url renewed restored again result after) :
      Responded url session (lead ++ own ++ renewal ++ again) result after

end Relations

/-! ### Every step ends in one of these ways -/

section Steps

variable {environment : Environment} {client : Client} {session : Session}

/-- A login that reads an issued token keeps it, unless the clock cannot hold its expiry. -/
private theorem login_of_issued {issued : Issued} {result : Except Stop String} {after : Session}
    (opened : client.canSend = true)
    (issues : issued? (session.answer environment client.tokenRequest) = some issued)
    (ran : (match (expiryOf environment issued).run.run
        (session.record environment client.tokenRequest) with
      | (.ok expiry, final) =>
          (.ok issued.token, { final with token := some ⟨issued.token, expiry⟩ })
      | (.error stop, final) => (.error stop, final)) = (result, after)) :
    ∃ own, Login environment client session own result after := by
  let sent := session.record environment client.tokenRequest
  refine ⟨[session.exchange environment client.tokenRequest], ?_⟩
  cases expires : issued.expiresIn with
  | none =>
    rw [run_expiryOf_of_lasting environment sent expires] at ran
    cases ran
    have kept := Login.kept opened issues (by simp [expires])
    rwa [keep_of_lasting environment sent expires] at kept
  | some seconds =>
    rw [run_expiryOf_of_expiring environment sent expires] at ran
    cases timed : after? (environment.clock sent.readings) seconds with
    | none =>
      rw [timed] at ran
      cases ran
      exact .overflow opened issues expires timed
    | some expiry =>
      rw [timed] at ran
      cases ran
      have fits : (after? (environment.clock session.readings) seconds).isSome = true :=
        Option.isSome_of_eq_some timed
      have kept := Login.kept opened issues (by simpa [expires] using fits)
      rwa [keep_of_expiring environment sent expires timed] at kept

/-- Every login ends in one of the ways of `Login`. -/
theorem login_login {result : Except Stop String} {after : Session}
    (ran : (login environment client).run.run session = (result, after)) :
    ∃ own, Login environment client session own result after := by
  have sent := run_send environment client session client.tokenUrl client.tokenRequest
  cases opened : client.canSend with
  | false =>
    rw [opened, if_neg Bool.false_ne_true] at sent
    rw [run_login_of_error environment client session sent] at ran
    cases ran
    exact ⟨[], .unsent opened⟩
  | true =>
    rw [opened, if_pos rfl] at sent
    cases answered : (session.answer environment client.tokenRequest).response? with
    | none =>
      rw [answered] at sent
      rw [run_login_of_error environment client session sent] at ran
      cases ran
      exact ⟨_, .failed opened (by simp [loginError?, answered])⟩
    | some response =>
      rw [answered] at sent
      rw [run_login_of_response environment client session sent] at ran
      cases success : response.isSuccess with
      | false =>
        rw [success, if_neg Bool.false_ne_true] at ran
        cases ran
        exact ⟨_, .failed opened (by simp [loginError?, answered, success])⟩
      | true =>
        rw [success, if_pos rfl] at ran
        cases read : response.body.read? Issued.decode with
        | none =>
          rw [read] at ran
          cases ran
          exact ⟨_, .failed opened (by simp [loginError?, answered, success, read])⟩
        | some issued =>
          rw [read] at ran
          exact login_of_issued opened (by simp [issued?, answered, success, read]) ran

/-- Every request with a token ends in one of the ways of `Sent`. -/
theorem sendWith_sent {url : Url} {token : String} {result : Except Stop Response}
    {after : Session}
    (ran : (sendWith environment client url token).run.run session = (result, after)) :
    ∃ own, Sent environment client url token session own result after := by
  rw [sendWith] at ran
  cases made : client.resourceRequest? url token with
  | none =>
    rw [made] at ran
    cases ran
    exact ⟨[], .unsent (.inr made)⟩
  | some request =>
    rw [made] at ran
    dsimp only at ran
    rw [run_send] at ran
    cases opened : client.canSend with
    | false =>
      rw [opened, if_neg Bool.false_ne_true] at ran
      cases ran
      exact ⟨[], .unsent (.inl opened)⟩
    | true =>
      rw [opened, if_pos rfl] at ran
      cases answered : (session.answer environment request).response? with
      | none =>
        rw [answered] at ran
        cases ran
        exact ⟨_, .lost opened made answered⟩
      | some response =>
        rw [answered] at ran
        cases ran
        exact ⟨_, .answered opened made answered⟩

/-- Every choice of a token ends in one of the ways of `Obtained`. -/
theorem accessToken_obtained {result : Except Stop String} {after : Session}
    (ran : (accessToken environment client).run.run session = (result, after)) :
    ∃ own, Obtained environment client session own result after := by
  rw [run_accessToken] at ran
  cases stale : session.isStale environment with
  | true =>
    rw [stale] at ran
    obtain ⟨own, login⟩ := login_login ran
    exact ⟨own, .requested stale login⟩
  | false =>
    cases kept : session.token with
    | none => simp [isStale, kept] at stale
    | some token =>
      rw [stale, kept] at ran
      cases ran
      exact ⟨[], .cached kept stale⟩

/-- Every request with its retry ends in one of the ways of `Responded`. -/
theorem sendAuthorized_responded {url : Url} {result : Except Stop Response} {after : Session}
    (ran : (sendAuthorized environment client url).run.run session = (result, after)) :
    ∃ own, Responded environment client url session own result after := by
  rw [sendAuthorized, run_bind] at ran
  rcases first : (accessToken environment client).run.run session with ⟨_ | token, ready⟩
  · rw [first] at ran
    cases ran
    obtain ⟨lead, obtained⟩ := accessToken_obtained first
    exact ⟨lead, .tokenless obtained⟩
  obtain ⟨lead, obtained⟩ := accessToken_obtained first
  rw [first] at ran
  dsimp only at ran
  rw [run_bind] at ran
  rcases second : (sendWith environment client url token).run.run ready with
    ⟨_ | response, denied⟩
  · rw [second] at ran
    cases ran
    obtain ⟨own, sent⟩ := sendWith_sent second
    exact ⟨lead ++ own, .stopped obtained sent⟩
  obtain ⟨own, sent⟩ := sendWith_sent second
  rw [second] at ran
  dsimp only at ran
  by_cases rejected : response.status = unauthorized
  · rw [if_pos rejected, run_bind] at ran
    rcases third : (login environment client).run.run denied with ⟨_ | renewed, restored⟩
    · rw [third] at ran
      cases ran
      obtain ⟨renewal, login⟩ := login_login third
      exact ⟨lead ++ own ++ renewal, .refused obtained sent rejected login⟩
    obtain ⟨renewal, login⟩ := login_login third
    rw [third] at ran
    obtain ⟨again, resent⟩ := sendWith_sent ran
    exact ⟨lead ++ own ++ renewal ++ again, .retried obtained sent rejected login resent⟩
  · rw [if_neg rejected] at ran
    cases ran
    exact ⟨lead ++ own, .answered obtained sent rejected⟩

end Steps

/-! ### Fetching a resource -/

section Fetching

variable (environment : Environment) (client : Client)

/-- The reply that a response gives. -/
def replyTo (url : Url) (response : Response) : Reply :=
  if response.isSuccess then .ok ⟨url.text, response.body⟩
  else .error (.api response.status url.text response.body.text)

/-- The reply that a request and its retry give; none if the clock cannot hold the expiry of a
token. -/
def replyOf (url : Url) : Except Stop Response → Option Reply
  | .ok response => some (replyTo url response)
  | .error (.failed error) => some (.error error)
  | .error .clockOverflow => none

/-- The reply to a resource, and the session after it was fetched. -/
def step (resource : Resource) (session : Session) : Option Reply × Session :=
  match (fetch environment client resource).run.run session with
  | (.ok document, after) => (some (.ok document), after)
  | (.error (.failed error), after) => (some (.error error), after)
  | (.error .clockOverflow, after) => (none, after)

/-- The reply of a step follows from the response that it got. -/
theorem step_responded (resource : Resource) (session : Session) :
    ∃ own result, Responded environment client (client.resourceUrl resource) session own result
        (step environment client resource session).2 ∧
      (step environment client resource session).1 =
        replyOf (client.resourceUrl resource) result := by
  unfold step fetch
  dsimp only
  rw [run_bind]
  rcases ran : (sendAuthorized environment client (client.resourceUrl resource)).run.run session
    with ⟨stop | response, after⟩
  · obtain ⟨own, responded⟩ := sendAuthorized_responded ran
    refine ⟨own, .error stop, ?_⟩
    cases stop <;> exact ⟨responded, rfl⟩
  · obtain ⟨own, responded⟩ := sendAuthorized_responded ran
    refine ⟨own, .ok response, ?_⟩
    rw [replyOf, replyTo]
    dsimp only
    cases response.isSuccess <;> exact ⟨responded, rfl⟩

/-- A plan is run step by step. -/
theorem run_fetch (resource : Resource) (next : Reply → Plan α) (session : Session) :
    run environment client (.fetch resource next) session =
      match step environment client resource session with
      | (some reply, after) => run environment client (next reply) after
      | (none, after) => (none, after) := by
  rw [run, step]
  rcases (fetch environment client resource).run.run session with ⟨stop | document, after⟩
  · cases stop <;> rfl
  · rfl

end Fetching

/-! ### Starting -/

section Starting

variable (environment : Environment) {config : Config} {client : Client}

/-- Without an initial login nothing is sent. -/
theorem start_of_lazy (built : Client.build config = .ok client)
    (lazy : config.initialLogin = false) :
    start environment config = (some (.ok client), fresh) := by
  rw [start, built, lazy]
  rfl

/-- The outcome of an initial login. -/
def opening (client : Client) : Except Stop String → Option (Except Client.Error Client)
  | .ok _ => some (.ok client)
  | .error (.failed error) => some (.error error)
  | .error .clockOverflow => none

/-- With an initial login, a client is there if the login succeeds. -/
theorem start_of_eager (built : Client.build config = .ok client)
    (eager : config.initialLogin = true) :
    ∃ own result, Login environment client fresh own result (start environment config).2 ∧
      (start environment config).1 = opening client result := by
  rw [start, built, eager]
  dsimp only
  rw [if_pos rfl]
  rcases ran : (login environment client).run.run fresh with ⟨stop | token, after⟩
  · obtain ⟨own, login⟩ := login_login ran
    refine ⟨own, .error stop, ?_⟩
    cases stop <;> exact ⟨login, rfl⟩
  · obtain ⟨own, login⟩ := login_login ran
    exact ⟨own, .ok token, login, rfl⟩

end Starting

end RealmLookup.Session
