import RealmLookup.Proofs.Session.Advice
import RealmLookup.Proofs.Session.Coherence

/-!
# Lifetimes of tokens

A server chooses how long its tokens live.  A session adds this time to the clock when it keeps a
token, and the clock cannot hold every sum: a login that issues a token with such a lifetime gives
neither a token nor an error, and nothing is done after it.  Every other answer to a login, and
every answer to another request, leads to a result or an error.

## Main definitions

* `Session.Overlong` : logins that issue a token whose expiry the clock cannot hold.
* `Session.Paced` : exchanges of which at most the last one is such a login.
* `Session.Settled` : the token that a login leaves.

## Main results

* `Session.Login.paced`, `Session.Responded.paced` : a step ends without a result exactly after
  such a login.
* `Session.ends_unless_overlong` : so do logins, openings and runs.
* `Session.run_overlongServer_lost` : a server can end a lookup without a result.
-/

namespace RealmLookup.Session

open RealmLookup.Http RealmLookup.Admin

variable {α : Type} {environment : Environment} {client : Client}

/-! ### Lifetimes that the clock cannot hold -/

/-- A time cannot be held by the clock if its seconds cannot be counted. -/
theorem after?_eq_none_iff {time seconds : Nat} :
    after? time seconds = none ↔ maxSeconds < (time + seconds * second) / second := by
  rw [after?]
  split
  · rename_i fits
    exact iff_of_false (Option.some_ne_none _) (Nat.not_lt.2 fits)
  · rename_i late
    exact iff_of_true rfl (Nat.not_le.1 late)

/-- A login that issues a token whose expiry the clock cannot hold. -/
def Overlong (environment : Environment) (exchange : Exchange) : Prop :=
  ∃ issued seconds, exchange.issued? = some issued ∧ issued.expiresIn = some seconds ∧
    maxSeconds < (environment.clock exchange.readings + seconds * second) / second

theorem not_overlong_of_none {exchange : Exchange} (fails : exchange.issued? = none) :
    ¬ Overlong environment exchange := by
  rintro ⟨issued, seconds, issues, -⟩
  cases fails.symm.trans issues

/-- Exchanges in order, and whether they end with a login that issues a token whose expiry the
clock cannot hold; no exchange before the last one is such a login. -/
inductive Paced (environment : Environment) : List Exchange → Bool → Prop
  | goes {own : List Exchange} (timely : ∀ exchange ∈ own, ¬ Overlong environment exchange) :
      Paced environment own false
  | stops {lead : List Exchange} {last : Exchange}
      (timely : ∀ exchange ∈ lead, ¬ Overlong environment exchange)
      (late : Overlong environment last) : Paced environment (lead ++ [last]) true

section Paced

variable {lead own : List Exchange} {stopped : Bool}

theorem paced_nil : Paced environment [] false :=
  .goes nofun

theorem Paced.timely (paced : Paced environment own false) :
    ∀ exchange ∈ own, ¬ Overlong environment exchange := by
  cases paced with
  | goes timely => exact timely

/-- Exchanges go on after those without such a login. -/
theorem Paced.append (first : Paced environment lead false) (rest : Paced environment own stopped) :
    Paced environment (lead ++ own) stopped := by
  have both {others : List Exchange}
      (timely : ∀ exchange ∈ others, ¬ Overlong environment exchange) :
      ∀ exchange ∈ lead ++ others, ¬ Overlong environment exchange := fun exchange member =>
    (List.mem_append.1 member).elim (first.timely exchange) (timely exchange)
  cases rest with
  | goes timely => exact .goes (both timely)
  | stops timely late =>
    rw [← List.append_assoc]
    exact .stops (both timely) late

end Paced

/-! ### Steps -/

/-- Whether an action ended because of a time that the clock cannot hold. -/
def overflows : Except Stop α → Bool
  | .error .clockOverflow => true
  | _ => false

/-- The token that a login leaves: the one that it returns, or else the one before it. -/
def Settled (session : Session) (result : Except Stop String) (after : Session) : Prop :=
  match result with
  | .ok token => ∃ expiry, after.token = some ⟨token, expiry⟩
  | .error _ => after.token = session.token

section Steps

variable {session after : Session} {own : List Exchange} {url : Url}

/-- A login overflows the clock exactly if its answer does. -/
theorem Login.paced {result : Except Stop String}
    (login : Login environment client session own result after) :
    Paced environment own (overflows result) := by
  cases login with
  | unsent => exact paced_nil
  | failed _ refused =>
    exact .goes (List.forall_mem_singleton.2
      (not_overlong_of_none (issued?_of_loginError? refused)))
  | overflow _ issues expires late =>
    have late : Overlong environment (session.exchange environment client.tokenRequest) :=
      ⟨_, _, issues, expires, after?_eq_none_iff.1 late⟩
    exact .stops (List.forall_mem_nil _) late
  | @kept issued _ issues fits =>
    refine .goes (List.forall_mem_singleton.2 ?_)
    rintro ⟨other, seconds, also, expires, late⟩
    obtain rfl : issued = other := Option.some.inj (issues.symm.trans also)
    have fit := fits seconds expires
    have none : after? (environment.clock session.readings) seconds = none :=
      after?_eq_none_iff.2 late
    rw [none] at fit
    cases fit

theorem Login.settled {result : Except Stop String}
    (login : Login environment client session own result after) :
    Settled session result after := by
  cases login with
  | unsent => exact rfl
  | failed => exact rfl
  | overflow => exact rfl
  | kept => exact ⟨_, rfl⟩

/-- A request for a resource never overflows the clock. -/
theorem Sent.paced {token : String} {result : Except Stop Response}
    (sent : Sent environment client url token session own result after) :
    Paced environment own false ∧ overflows result = false := by
  have timely {request : Request} (made : client.resourceRequest? url token = some request) :
      Paced environment [session.exchange environment request] false := by
    obtain ⟨-, rfl⟩ := Client.resourceRequest?_eq_some_iff.1 made
    exact .goes (List.forall_mem_singleton.2 (not_overlong_of_none rfl))
  cases sent with
  | unsent => exact ⟨paced_nil, rfl⟩
  | lost _ made => exact ⟨timely made, rfl⟩
  | answered _ made => exact ⟨timely made, rfl⟩

theorem Obtained.paced {result : Except Stop String}
    (obtained : Obtained environment client session own result after) :
    Paced environment own (overflows result) := by
  cases obtained with
  | cached => exact paced_nil
  | requested _ login => exact login.paced

/-- A request with its retry overflows the clock exactly if its last exchange is a login that
does. -/
theorem Responded.paced {result : Except Stop Response}
    (responded : Responded environment client url session own result after) :
    Paced environment own (overflows result) := by
  cases responded with
  | @tokenless _ stop _ obtained =>
    have paced := obtained.paced
    cases stop <;> exact paced
  | stopped obtained sent =>
    rw [sent.paced.2]
    exact obtained.paced.append sent.paced.1
  | answered obtained sent => exact obtained.paced.append sent.paced.1
  | @refused _ _ _ _ _ stop _ _ _ obtained sent _ login =>
    have paced := (obtained.paced.append sent.paced.1).append login.paced
    cases stop <;> exact paced
  | retried obtained sent _ login resent =>
    rw [resent.paced.2]
    exact ((obtained.paced.append sent.paced.1).append login.paced).append resent.paced.1

end Steps

/-! ### Logins, openings and runs -/

theorem isNone_replyOf (url : Url) (result : Except Stop Response) :
    (replyOf url result).isNone = overflows result := by
  rcases result with stop | response
  · cases stop <;> rfl
  · rfl

theorem isNone_opening (client : Client) (result : Except Stop String) :
    (opening client result).isNone = overflows result := by
  rcases result with stop | token
  · cases stop <;> rfl
  · rfl

variable (environment client)

/-- A visit gives no reply exactly after a login whose token the clock cannot hold. -/
theorem visit_paced (resource : Resource) (session : Session) :
    Paced environment (visit environment client resource session).exchanges
      (visit environment client resource session).reply.isNone := by
  obtain ⟨result, responded, replied⟩ := visit_responded environment client resource session
  rw [replied, isNone_replyOf]
  exact responded.paced

theorem visits_paced (plan : Plan α) (session : Session) :
    Paced environment ((visits environment client plan session).flatMap Visit.exchanges)
      (run environment client plan session).1.isNone := by
  induction plan generalizing session with
  | done value => exact paced_nil
  | fetch resource next ih =>
    have paced := visit_paced environment client resource session
    rw [run_fetch_visit, visits, List.flatMap_cons]
    cases replied : (visit environment client resource session).reply with
    -- Without a reply there is nothing to go on with: the visit is the last one.
    | none =>
      rw [replied] at paced
      rw [List.flatMap_nil, List.append_nil]
      exact paced
    | some reply =>
      rw [replied] at paced
      exact paced.append (ih reply _)

theorem start_paced (config : Config) :
    Paced environment (start environment config).2.exchanges
      (start environment config).1.isNone := by
  cases built : Client.build config with
  | error error =>
    rw [start, built]
    exact paced_nil
  | ok client =>
    cases eager : config.initialLogin with
    | false =>
      rw [start_of_lazy environment built eager]
      exact paced_nil
    | true =>
      obtain ⟨own, result, login, opened⟩ := start_of_eager environment built eager
      rw [opened, isNone_opening, login.exchanges]
      exact login.paced

variable {environment client}

/-- Logins, openings and runs end with a result or an error, and a login that succeeds keeps its
token, unless the server issues a token whose expiry the clock cannot hold: then they end without
either, right after that login, and the token from before it is kept. -/
theorem ends_unless_overlong (environment : Environment) :
    (∀ client session,
      let ended := (login environment client).run.run session
      Settled session ended.1 ended.2 ∧
        Paced environment (ended.2.exchanges.drop session.exchanges.length)
          (overflows ended.1)) ∧
    (∀ config,
      Paced environment (start environment config).2.exchanges
        (start environment config).1.isNone) ∧
    ∀ {α : Type} client (plan : Plan α) session,
      Paced environment
        ((run environment client plan session).2.exchanges.drop session.exchanges.length)
        (run environment client plan session).1.isNone := by
  refine ⟨fun client session => ?_, start_paced environment, fun client plan session => ?_⟩
  · rcases ran : (login environment client).run.run session with ⟨result, after⟩
    obtain ⟨own, login⟩ := login_login ran
    refine ⟨login.settled, ?_⟩
    dsimp only
    rw [login.exchanges, List.drop_left]
    exact login.paced
  · rw [run_exchanges, List.drop_left]
    exact visits_paced environment client plan session

/-! ### A lifetime that the clock cannot hold -/

/-- A server that issues tokens with the longest lifetime that can be written in 64 bits. -/
def overlongServer : Environment where
  network _ _ := .response ⟨200, .complete (Text.Utf8.encode
    "\x7b\"access_token\":\"t\",\"expires_in\":18446744073709551615\x7d".toList)⟩
  clock := id

/-- A server can end a lookup without a result or an error, and the start of a session too. -/
theorem run_overlongServer_lost :
    (¬ ∀ environment session, (run environment Client.localClient roleLookup session).1.isSome) ∧
      ¬ ∀ environment config, (start environment config).1.isSome := by
  refine ⟨fun law => ?_, fun law => ?_⟩
  · have returned := law overlongServer fresh
    revert returned
    decide +kernel
  · have opened := law overlongServer { Client.localConfig with initialLogin := true }
    revert opened
    decide +kernel

end RealmLookup.Session
