import RealmLookup.Proofs.Client.Requests
import RealmLookup.Proofs.Session.History

/-!
# Coherent sessions

Every request of a session is a login, or carries the token that the latest successful login
issued.  The invariant behind this is that the token that a session keeps is the one that its
history leaves; every step keeps it, unless the clock cannot hold the expiry of a token, which
ends the run.

## Main definitions

* `Session.Permitted` : the requests that may follow a history.
* `Session.Recorded`, `Session.Coherent` : what every session keeps.
* `Session.Ended` : what a session keeps when an action ends.

## Main results

* `Session.Login.ended`, `Session.Sent.coherent`, `Session.Obtained.ended`,
  `Session.Responded.ended` : every step keeps a session coherent.
-/

namespace RealmLookup.Session

open RealmLookup.Http

variable {α : Type} {environment : Environment} {client : Client}

/-! ### Permitted requests -/

/-- A request that may follow a history: a login at the token endpoint of a realm, or a request
with the access token of the latest login that succeeded. -/
inductive Permitted (client : Client) (realm : String) (earlier : List Exchange)
    (request : Request) : Prop
  | login (posts : request.method = .post)
      (target : request.url =
        (client.url ["realms", realm, "protocol", "openid-connect", "token"] []).target)
  | resource {token : String} (gets : request.method = .get)
      (latest : latestToken earlier = some token)
      (bearer : request.headers.filter (fun header => header.1 == "authorization") =
        client.baseCredentials ++ [("authorization", "Bearer " ++ token)])

theorem permitted_tokenRequest (client : Client) (earlier : List Exchange) :
    Permitted client client.realm earlier client.tokenRequest :=
  .login rfl rfl

/-- What is made of a resource and the latest token is permitted. -/
theorem permitted_resourceRequest {url : Url} {token : String} {earlier : List Exchange}
    {request : Request} (made : client.resourceRequest? url token = some request)
    (latest : latestToken earlier = some token) :
    Permitted client client.realm earlier request := by
  obtain ⟨-, rfl⟩ := Client.resourceRequest?_eq_some_iff.1 made
  exact .resource rfl latest (Client.authorization_headersWith _)

/-! ### Coherent sessions -/

/-- What every session keeps, however its last action ended. -/
structure Recorded (client : Client) (session : Session) : Prop where
  permitted : ∀ earlier exchange later, session.exchanges = earlier ++ exchange :: later →
    Permitted client client.realm earlier exchange.request
  readings : ∀ exchange ∈ session.exchanges, exchange.readings ≤ session.readings
  silent : client.canSend = false → session.exchanges = []

/-- What every session keeps unless the clock could not hold the expiry of a token: its token is
the one that its history leaves. -/
structure Coherent (environment : Environment) (client : Client) (session : Session) : Prop
    extends Recorded client session where
  token : session.token = tokenOf environment session.exchanges

theorem coherent_fresh : Coherent environment client fresh where
  permitted earlier exchange later split := by
    cases earlier <;> cases split
  readings _ member := by
    cases member
  silent _ := rfl
  token := rfl

variable {session after : Session} {own : List Exchange}

/-- A permitted request is added to a history. -/
theorem Recorded.record {request : Request} (recorded : Recorded client session)
    (opened : client.canSend = true)
    (permitted : Permitted client client.realm session.exchanges request) :
    Recorded client (session.record environment request) where
  permitted earlier exchange later split := by
    rcases later.eq_nil_or_concat with rfl | ⟨rest, last, rfl⟩
    · obtain ⟨rfl, same⟩ := List.append_inj' split rfl
      obtain rfl := (List.cons.inj same).1
      exact permitted
    · rw [List.concat_eq_append, ← List.cons_append, ← List.append_assoc] at split
      obtain ⟨same, -⟩ := List.append_inj' split rfl
      exact recorded.permitted earlier exchange rest same
  readings exchange member := by
    rcases List.mem_append.1 member with member | member
    · exact recorded.readings exchange member
    · rw [List.mem_singleton.1 member]
      exact Nat.le_refl _
  silent closed := by
    rw [opened] at closed
    cases closed

/-- A history is not changed by reading the clock. -/
theorem Recorded.read {token : Option Token} {readings : Nat} (recorded : Recorded client session)
    (later : session.readings ≤ readings) :
    Recorded client ⟨token, session.exchanges, readings⟩ where
  permitted := recorded.permitted
  readings exchange member := Nat.le_trans (recorded.readings exchange member) later
  silent := recorded.silent

/-- A request that issues no token leaves the one that is kept. -/
theorem Coherent.record {request : Request} (coherent : Coherent environment client session)
    (opened : client.canSend = true)
    (permitted : Permitted client client.realm session.exchanges request)
    (fails : (session.exchange environment request).issued? = none) :
    Coherent environment client (session.record environment request) where
  toRecorded := coherent.toRecorded.record opened permitted
  token := by
    show session.token = tokenOf environment (session.exchanges ++ [_])
    rw [tokenOf_append_of_none (List.forall_mem_singleton.2 fails)]
    exact coherent.token

theorem Coherent.checked (coherent : Coherent environment client session) :
    Coherent environment client session.checked where
  toRecorded := coherent.toRecorded.read (Nat.le_add_right _ _)
  token := coherent.token

/-- The token that a coherent session keeps is the latest one. -/
theorem Coherent.latestToken {token : Token} (coherent : Coherent environment client session)
    (kept : session.token = some token) : latestToken session.exchanges = some token.value :=
  latestToken_of_tokenOf (coherent.token.symm.trans kept)

/-- What a session keeps when an action ends. -/
def Ended (environment : Environment) (client : Client) (result : Except Stop α)
    (after : Session) : Prop :=
  Recorded client after ∧ (result ≠ .error .clockOverflow → Coherent environment client after)

theorem Coherent.ended {result : Except Stop α} (coherent : Coherent environment client after) :
    Ended environment client result after :=
  ⟨coherent.toRecorded, fun _ => coherent⟩

/-! ### Steps keep sessions coherent -/

/-- A login that is refused issues no token. -/
theorem issued?_of_loginError? {answer : Answer} {error : Client.Error}
    (refused : loginError? client answer = some error) : issued? answer = none := by
  cases issues : issued? answer with
  | none => rfl
  | some issued =>
    rw [loginError?_eq_none_iff.2 ⟨issued, issues⟩] at refused
    cases refused

theorem Login.ended {result : Except Stop String}
    (login : Login environment client session own result after)
    (coherent : Coherent environment client session) :
    Ended environment client result after := by
  have permitted := permitted_tokenRequest client session.exchanges
  cases login with
  | unsent => exact coherent.ended
  | failed opened refused =>
    exact (coherent.record opened permitted (issued?_of_loginError? refused)).ended
  | overflow opened =>
    refine ⟨(coherent.toRecorded.record opened permitted).read (Nat.le_succ _), fun going => ?_⟩
    exact absurd rfl going
  | @kept issued opened issues fits =>
    refine Coherent.ended ⟨(coherent.toRecorded.record opened permitted).read
      (Nat.le_add_right _ _), ?_⟩
    have issues : (session.exchange environment client.tokenRequest).issued? = some issued :=
      issues
    exact (tokenOf_append_of_some issues).symm

/-- The token of a login that succeeds is the latest one. -/
theorem Login.latestToken {token : String}
    (login : Login environment client session own (.ok token) after) :
    latestToken after.exchanges = some token := by
  cases login with
  | @kept issued opened issues fits =>
    have latest : latestLogin (session.record environment client.tokenRequest).exchanges =
      some (_, issued) := latestLogin_append_of_some issues
    rw [Session.latestToken]
    exact congrArg _ latest

theorem Sent.coherent {url : Url} {token : String} {result : Except Stop Response}
    (sent : Sent environment client url token session own result after)
    (coherent : Coherent environment client session)
    (latest : latestToken session.exchanges = some token) :
    Coherent environment client after := by
  have silent {request : Request} (made : client.resourceRequest? url token = some request) :
      (session.exchange environment request).issued? = none := by
    obtain ⟨-, rfl⟩ := Client.resourceRequest?_eq_some_iff.1 made
    rfl
  cases sent with
  | unsent => exact coherent
  | lost opened made =>
    exact coherent.record opened (permitted_resourceRequest made latest) (silent made)
  | answered opened made =>
    exact coherent.record opened (permitted_resourceRequest made latest) (silent made)

theorem Obtained.ended {result : Except Stop String}
    (obtained : Obtained environment client session own result after)
    (coherent : Coherent environment client session) :
    Ended environment client result after := by
  cases obtained with
  | cached => exact coherent.checked.ended
  | requested _ login => exact login.ended coherent.checked

/-- The token that is obtained for a request is the latest one. -/
theorem Obtained.latestToken {token : String}
    (obtained : Obtained environment client session own (.ok token) after)
    (coherent : Coherent environment client session) :
    latestToken after.exchanges = some token := by
  cases obtained with
  | cached kept => exact coherent.latestToken kept
  | requested _ login => exact login.latestToken

theorem Obtained.coherent {token : String}
    (obtained : Obtained environment client session own (.ok token) after)
    (coherent : Coherent environment client session) : Coherent environment client after :=
  (obtained.ended coherent).2 (by simp)

/-- A request with its retry keeps a session coherent. -/
theorem Responded.ended {url : Url} {result : Except Stop Response}
    (responded : Responded environment client url session own result after)
    (coherent : Coherent environment client session) :
    Ended environment client result after := by
  cases responded with
  | tokenless obtained =>
    obtain ⟨recorded, going⟩ := obtained.ended coherent
    exact ⟨recorded, fun other => going (by simpa using other)⟩
  | stopped obtained sent =>
    exact (sent.coherent (obtained.coherent coherent) (obtained.latestToken coherent)).ended
  | answered obtained sent =>
    exact (sent.coherent (obtained.coherent coherent) (obtained.latestToken coherent)).ended
  | refused obtained sent _ login =>
    have denied := sent.coherent (obtained.coherent coherent) (obtained.latestToken coherent)
    obtain ⟨recorded, going⟩ := login.ended denied
    exact ⟨recorded, fun other => going (by simpa using other)⟩
  | retried obtained sent _ login resent =>
    have denied := sent.coherent (obtained.coherent coherent) (obtained.latestToken coherent)
    exact (resent.coherent ((login.ended denied).2 (by simp)) login.latestToken).ended

end RealmLookup.Session
