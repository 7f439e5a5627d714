import RealmLookup.Session
import Mathlib.Tactic.Common

/-!
# Runs of actions

What the actions of a session do to it, as equations: an action is run on a session and gives a
result and the session after it.

## Main results

* `Session.run_bind`, `Session.run_now`, `Session.run_send` : actions one after another, reading
  the clock, sending a request.
* `Session.run_login_of_response`, `Session.run_login_of_error` : a login, given what became of
  its request.
* `Session.run_accessToken` : the kept token is used unless it is stale.
-/

namespace RealmLookup.Session

open RealmLookup.Http RealmLookup.Representation

variable {α β : Type}

/-! ### Actions -/

section Actions

variable (environment : Environment) (client : Client) (session : Session)

theorem run_pure (value : α) : (pure value : Action α).run.run session = (.ok value, session) :=
  rfl

theorem run_bind (action : Action α) (next : α → Action β) :
    (action >>= next).run.run session =
      match action.run.run session with
      | (.ok value, after) => (next value).run.run after
      | (.error stop, after) => (.error stop, after) := by
  rw [ExceptT.run_bind, StateT.run_bind]
  rcases action.run.run session with ⟨_ | _, _⟩ <;> rfl

theorem run_now :
    (now environment).run.run session =
      (.ok (environment.clock session.readings),
        { session with readings := session.readings + 1 }) := rfl

theorem run_send (url : Url) (request : Request) :
    (send environment client url request).run.run session =
      if client.canSend then
        (match (session.answer environment request).response? with
          | some response => .ok response
          | none => .error (.failed (.request url.text)), session.record environment request)
      else (.error (.failed (.request url.text)), session) := by
  rw [send]
  cases client.canSend
  · rfl
  · change (match (session.answer environment request).response? with
      | some response => (pure response : Action Response)
      | none => fail (.request url.text)).run.run (session.record environment request) = _
    cases (session.answer environment request).response? <;> rfl

end Actions

/-! ### Stale tokens -/

/-- Whether the kept token cannot be used now: there is none, or it is about to expire. -/
def isStale (environment : Environment) (session : Session) : Bool :=
  match session.token with
  | none => true
  | some token =>
      match token.expiry with
      | none => false
      | some expiry => !decide (environment.clock session.readings + expiryMargin < expiry)

/-- The session once its token was looked at; the clock is read if the token expires. -/
def checked (session : Session) : Session :=
  { session with
    readings := session.readings + if (session.token.bind Token.expiry).isSome then 1 else 0 }

section Kept

variable (environment : Environment) {session : Session}

theorem isStale_of_none (absent : session.token = none) : session.isStale environment = true := by
  rw [isStale, absent]

theorem checked_of_none (absent : session.token = none) : session.checked = session := by
  obtain ⟨_, _, _⟩ := session
  cases absent
  rfl

variable {token : Token} (kept : session.token = some token)
include kept

theorem isStale_of_lasting (lasting : token.expiry = none) :
    session.isStale environment = false := by
  rw [isStale, kept]
  dsimp only
  rw [lasting]

theorem checked_of_lasting (lasting : token.expiry = none) : session.checked = session := by
  obtain ⟨_, _, _⟩ := session
  cases kept
  simp [checked, lasting]

theorem isStale_of_expiring {expiry : Nat} (expires : token.expiry = some expiry) :
    session.isStale environment =
      !decide (environment.clock session.readings + expiryMargin < expiry) := by
  rw [isStale, kept]
  dsimp only
  rw [expires]

theorem checked_of_expiring {expiry : Nat} (expires : token.expiry = some expiry) :
    session.checked = { session with readings := session.readings + 1 } := by
  simp [checked, kept, expires]

end Kept

/-! ### Logins and tokens -/

section Logins

variable (environment : Environment) (client : Client) (session : Session)

theorem after?_eq_some {time seconds expiry : Nat} (h : after? time seconds = some expiry) :
    expiry = time + seconds * second := by
  rw [after?] at h
  split at h
  · exact (Option.some.inj h).symm
  · cases h

theorem run_expiryOf_of_lasting {issued : Issued} (lasting : issued.expiresIn = none) :
    (expiryOf environment issued).run.run session = (.ok none, session) := by
  rw [expiryOf, lasting]
  rfl

theorem run_expiryOf_of_expiring {issued : Issued} {seconds : Nat}
    (expires : issued.expiresIn = some seconds) :
    (expiryOf environment issued).run.run session =
      match after? (environment.clock session.readings) seconds with
      | some expiry => (.ok (some expiry), { session with readings := session.readings + 1 })
      | none => (.error .clockOverflow, { session with readings := session.readings + 1 }) := by
  rw [expiryOf, expires]
  dsimp only
  rw [run_bind, run_now]
  dsimp only
  cases after? (environment.clock session.readings) seconds <;> rfl

/-- What a login does with a response. -/
theorem run_login_of_response {response : Response} {after : Session}
    (sent : (send environment client client.tokenUrl client.tokenRequest).run.run session =
      (.ok response, after)) :
    (login environment client).run.run session =
      if response.isSuccess then
        match response.body.read? Issued.decode with
        | none => (.error (.failed (.decode client.tokenUrl.text)), after)
        | some issued =>
            match (expiryOf environment issued).run.run after with
            | (.ok expiry, final) =>
                (.ok issued.token, { final with token := some ⟨issued.token, expiry⟩ })
            | (.error stop, final) => (.error stop, final)
      else
        (.error (.failed (.authentication client.realm response.status response.body.text)),
          after) := by
  rw [login, run_bind, sent]
  dsimp only
  cases response.isSuccess with
  | false => rfl
  | true =>
    cases response.body.read? Issued.decode with
    | none => rfl
    | some issued =>
      dsimp only
      rw [if_neg (by decide), run_bind]
      rcases (expiryOf environment issued).run.run after with ⟨_ | _, _⟩ <;> rfl

/-- A login without a response ends with the error of the request. -/
theorem run_login_of_error {stop : Stop} {after : Session}
    (sent : (send environment client client.tokenUrl client.tokenRequest).run.run session =
      (.error stop, after)) :
    (login environment client).run.run session = (.error stop, after) := by
  rw [login, run_bind, sent]

/-- The kept token is used if it is not stale, and else a new one is requested. -/
theorem run_accessToken :
    (accessToken environment client).run.run session =
      match session.isStale environment, session.token with
      | false, some token => (.ok token.value, session.checked)
      | _, _ => (login environment client).run.run session.checked := by
  rw [accessToken]
  rw [run_bind, show (get : Action Session).run.run session = (.ok session, session) from rfl]
  dsimp only
  cases kept : session.token with
  | none => rw [isStale_of_none environment kept, checked_of_none kept]
  | some token =>
    dsimp only
    rw [run_bind]
    rw [isFresh]
    cases expires : token.expiry with
    | none =>
      rw [isStale_of_lasting environment kept expires, checked_of_lasting kept expires]
      rfl
    | some expiry =>
      rw [isStale_of_expiring environment kept expires, checked_of_expiring kept expires]
      dsimp only
      rw [run_bind, run_now]
      dsimp only
      rw [run_pure]
      dsimp only
      cases decide (environment.clock session.readings + expiryMargin < expiry) with
      | true => rfl
      | false => rfl

end Logins

end RealmLookup.Session
