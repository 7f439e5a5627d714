import RealmLookup.Proofs.Admin.Plan
import RealmLookup.Proofs.Session.Step

/-!
# Visits

A run of a plan is a sequence of visits: one for each resource that it fetches, with the session
before it, the session after it, and the reply.  What a run sends is what its visits send.

## Main definitions

* `Session.Visit`, `Session.visit` : a visit, and the visit of a resource in a session.
* `Session.visits` : the visits of the run of a plan.
* `Session.fetchedUrls` : the URLs that the run of a plan requests.
* `Session.tokenServer` : a server whose tokens last, or serve for one request.

## Main results

* `Session.visit_responded` : what a visit sends, and the reply that follows from it.
* `Session.run_exchanges` : a run sends what its visits send.
* `Session.eq_visit_of_mem` : the visits of a run are visits.
* `Session.visits_induction` : what every visit keeps holds of every visit of a run.
* `Session.run_trace` : the replies of the visits lead the plan to the value of the run.
-/

namespace RealmLookup

open RealmLookup.Http RealmLookup.Admin

variable {α β : Type}

namespace Session

variable (environment : Environment) (client : Client)

/-! ### Visits -/

/-- A resource that was fetched, the sessions before and after it, and the reply, if the clock
could hold the expiry of every token. -/
structure Visit where
  resource : Resource
  before : Session
  after : Session
  reply : Option Reply

/-- The exchanges of a visit. -/
def Visit.exchanges (visit : Visit) : List Exchange :=
  visit.after.exchanges.drop visit.before.exchanges.length

/-- The visit of a resource in a session. -/
def visit (resource : Resource) (session : Session) : Visit :=
  ⟨resource, session, (step environment client resource session).2,
    (step environment client resource session).1⟩

/-- The visits of the run of a plan. -/
def visits : Plan α → Session → List Visit
  | .done _, _ => []
  | .fetch resource next, session =>
      visit environment client resource session ::
        match (visit environment client resource session).reply with
        | some reply => visits (next reply) (visit environment client resource session).after
        | none => []

/-! ### What a visit sends -/

section Exchanges

variable {environment client} {session after : Session} {own : List Exchange}

theorem Login.exchanges {result : Except Stop String}
    (login : Login environment client session own result after) :
    after.exchanges = session.exchanges ++ own := by
  cases login with
  | unsent => exact (List.append_nil _).symm
  | failed => rfl
  | overflow => rfl
  | kept => rfl

theorem Sent.exchanges {url : Url} {token : String} {result : Except Stop Response}
    (sent : Sent environment client url token session own result after) :
    after.exchanges = session.exchanges ++ own := by
  cases sent with
  | unsent => exact (List.append_nil _).symm
  | lost => rfl
  | answered => rfl

theorem Obtained.exchanges {result : Except Stop String}
    (obtained : Obtained environment client session own result after) :
    after.exchanges = session.exchanges ++ own := by
  cases obtained with
  | cached => exact (List.append_nil _).symm
  | requested _ login => exact login.exchanges

theorem Responded.exchanges {url : Url} {result : Except Stop Response}
    (responded : Responded environment client url session own result after) :
    after.exchanges = session.exchanges ++ own := by
  cases responded with
  | tokenless obtained => exact obtained.exchanges
  | stopped obtained sent => rw [sent.exchanges, obtained.exchanges, List.append_assoc]
  | answered obtained sent => rw [sent.exchanges, obtained.exchanges, List.append_assoc]
  | refused obtained sent _ login =>
    rw [login.exchanges, sent.exchanges, obtained.exchanges]
    simp only [List.append_assoc]
  | retried obtained sent _ login resent =>
    rw [resent.exchanges, login.exchanges, sent.exchanges, obtained.exchanges]
    simp only [List.append_assoc]

end Exchanges

/-- What a visit sends, and the reply that follows from it. -/
theorem visit_responded (resource : Resource) (session : Session) :
    ∃ result, Responded environment client (client.resourceUrl resource) session
        (visit environment client resource session).exchanges result
        (visit environment client resource session).after ∧
      (visit environment client resource session).reply =
        replyOf (client.resourceUrl resource) result := by
  obtain ⟨own, result, responded, replied⟩ :=
    step_responded environment client resource session
  have sends : (visit environment client resource session).exchanges = own := by
    have grown : (visit environment client resource session).after.exchanges =
      session.exchanges ++ own := responded.exchanges
    rw [Visit.exchanges, grown]
    exact List.drop_left
  exact ⟨result, sends ▸ responded, replied⟩

theorem visit_exchanges (resource : Resource) (session : Session) :
    (visit environment client resource session).after.exchanges =
      session.exchanges ++ (visit environment client resource session).exchanges := by
  obtain ⟨result, responded, -⟩ :=
    visit_responded environment client resource session
  exact responded.exchanges

/-! ### Runs -/

/-- A run goes on from the session after a visit with its reply. -/
theorem run_fetch_visit (resource : Resource) (next : Reply → Plan α) (session : Session) :
    run environment client (.fetch resource next) session =
      match (visit environment client resource session).reply with
      | some reply =>
          run environment client (next reply) (visit environment client resource session).after
      | none => (none, (visit environment client resource session).after) := by
  rw [run_fetch]
  rw [visit]
  rcases step environment client resource session with ⟨_ | reply, after⟩ <;> rfl

/-- A run sends what its visits send, one after another. -/
theorem run_exchanges (plan : Plan α) (session : Session) :
    (run environment client plan session).2.exchanges =
      session.exchanges ++ (visits environment client plan session).flatMap Visit.exchanges := by
  induction plan generalizing session with
  | done value => exact (List.append_nil _).symm
  | fetch resource next ih =>
    rw [run_fetch_visit, visits, List.flatMap_cons]
    have sends := visit_exchanges environment client resource session
    cases replied : (visit environment client resource session).reply with
    | none => simpa using sends
    | some reply =>
      dsimp only
      rw [ih reply, sends, List.append_assoc]

/-- The URLs that exchanges other than logins request. -/
def requestedUrls (exchanges : List Exchange) : List Url :=
  (exchanges.filter fun exchange => exchange.request.method == .get).map fun exchange =>
    exchange.request.url

/-- The URLs that are requested, other than by logins, while a plan is carried out. -/
def fetchedUrls (plan : Plan α) (session : Session) : List Url :=
  requestedUrls
    ((run environment client plan session).2.exchanges.drop session.exchanges.length)

theorem fetchedUrls_eq (plan : Plan α) (session : Session) :
    fetchedUrls environment client plan session =
      requestedUrls ((visits environment client plan session).flatMap Visit.exchanges) := by
  rw [fetchedUrls, run_exchanges, List.drop_left]

variable {environment client}

/-- Every visit of a run is the visit of its resource in the session before it. -/
theorem eq_visit_of_mem {plan : Plan α} {session : Session} {found : Visit}
    (member : found ∈ visits environment client plan session) :
    found = visit environment client found.resource found.before := by
  induction plan generalizing session with
  | done value => cases member
  | fetch resource next ih =>
    rw [visits] at member
    rcases List.mem_cons.1 member with rfl | member
    · rfl
    · cases replied : (visit environment client resource session).reply with
      | none =>
        rw [replied] at member
        cases member
      | some reply =>
        rw [replied] at member
        exact ih reply member

/-- What a visit of a run sends. -/
theorem responded_of_mem {plan : Plan α} {session : Session} {found : Visit}
    (member : found ∈ visits environment client plan session) :
    ∃ result, Responded environment client (client.resourceUrl found.resource) found.before
      found.exchanges result found.after := by
  obtain ⟨result, responded, -⟩ := visit_responded environment client found.resource found.before
  rw [← eq_visit_of_mem member] at responded
  exact ⟨result, responded⟩

/-- The visits of a plan are those of resources that it asks for. -/
theorem allowed_of_visits {allowed : Resource → Prop} {plan : Plan α} (asks : plan.Asks allowed)
    {session : Session} {found : Visit} (member : found ∈ visits environment client plan session) :
    allowed found.resource := by
  induction plan generalizing session with
  | done value => cases member
  | fetch resource next ih =>
    rw [visits] at member
    rcases List.mem_cons.1 member with rfl | member
    · exact asks.1
    · cases replied : (visit environment client resource session).reply with
      | none =>
        rw [replied] at member
        cases member
      | some reply =>
        rw [replied] at member
        exact ih reply (asks.2 reply) member

/-- What holds of a session, and is kept by every visit with a reply, holds before every visit of
a run and, if the run ends with a value, after it; what a visit without a reply leaves of it holds
after any run. -/
theorem visits_induction {invariant remnant : Session → Prop}
    (weaken : ∀ session, invariant session → remnant session)
    (keeps : ∀ resource session, invariant session →
      remnant (visit environment client resource session).after ∧
        ((visit environment client resource session).reply.isSome = true →
          invariant (visit environment client resource session).after))
    (plan : Plan α) (session : Session) (holds : invariant session) :
    (∀ found ∈ visits environment client plan session, invariant found.before) ∧
      remnant (run environment client plan session).2 ∧
      ((run environment client plan session).1.isSome = true →
        invariant (run environment client plan session).2) := by
  induction plan generalizing session with
  | done value => exact ⟨by simp [visits], weaken session holds, fun _ => holds⟩
  | fetch resource next ih =>
    obtain ⟨left, kept⟩ := keeps resource session holds
    rw [run_fetch_visit, visits]
    cases replied : (visit environment client resource session).reply with
    | none => exact ⟨by simpa [visit] using holds, left, fun returned => by simp at returned⟩
    | some reply =>
      obtain ⟨every, final⟩ := ih reply _ (kept (by rw [replied]; rfl))
      refine ⟨fun found member => ?_, final⟩
      rcases List.mem_cons.1 member with rfl | member
      · exact holds
      · exact every found member

/-- The replies of the visits of a run lead the plan to the value of the run. -/
theorem run_trace (plan : Plan α) (session : Session) {value : α}
    (returned : (run environment client plan session).1 = some value) :
    ∃ trace, Plan.Trace plan trace value ∧
      (visits environment client plan session).map (fun found => (found.resource, found.reply)) =
        trace.map fun entry => (entry.1, some entry.2) := by
  induction plan generalizing session with
  | done found =>
    obtain rfl : found = value := Option.some.inj returned
    exact ⟨[], .done found, rfl⟩
  | fetch resource next ih =>
    rw [run_fetch_visit] at returned
    cases replied : (visit environment client resource session).reply with
    | none =>
      rw [replied] at returned
      cases returned
    | some reply =>
      rw [replied] at returned
      obtain ⟨trace, traced, same⟩ := ih reply _ returned
      refine ⟨(resource, reply) :: trace, .fetch traced, ?_⟩
      rw [visits, replied]
      simp only [List.map_cons, same, replied]
      rfl

/-! ### A server whose tokens need not last -/

/-- The answer to a login that issues a token which does not expire. -/
def grant : Answer :=
  .response ⟨200, .complete (Text.Utf8.encode "\x7b\"access_token\":\"t\"\x7d".toList)⟩

theorem issued?_grant : issued? grant = some ⟨"t", none⟩ := by decide +kernel

/-- A server that issues the same token at every login.  If it does not last, it is accepted for
the request right after a login only. -/
def tokenServer (lasts : Bool) (resources : Url → Response) : Environment where
  network earlier request :=
    match request.method with
    | .post => grant
    | .get =>
        if lasts || earlier.getLast?.any (fun last => last.method == .post) then
          .response (resources request.url)
        else .response ⟨401, .complete []⟩
  clock := id

/-- Resources none of which exists. -/
def missing : Url → Response := fun _ => ⟨404, .complete []⟩

/-- A server without resources whose tokens serve for one request. -/
def briefServer : Environment :=
  tokenServer false missing

/-- The requests for two roles, one after another. -/
def bothRoles : Plan (Except Client.Error Representation.Role) :=
  (role "r" "a").bind fun _ => role "r" "b"

/-- The methods of the requests of a session, and the statuses of their responses. -/
def statuses (session : Session) : List (Method × Option Nat) :=
  session.exchanges.map fun exchange =>
    (exchange.request.method, exchange.answer.response?.map Response.status)

end Session

end RealmLookup
