import RealmLookup.Proofs.Session.Discipline
import RealmLookup.Proofs.Session.Transparency

/-!
# Servers that accept their tokens

Against a server that accepts every token that it issues, a session requests each resource once, and
the reply is what became of this one request.  Nothing else is asked of the server: its answers may
be faults and failures of any kind, and may depend on all that was sent before.

## Main definitions

* `Exchange.reply`, `Exchange.read` : what became of a request, and what was read of a resource.
* `Session.Admits`, `Session.Admitted` : servers that accept their tokens, and sessions with such a
  token.
* `Session.runGets` : the exchanges of a run other than logins.

## Main results

* `Session.visit_admitted` : a visit makes one request, and its reply is what became of it.
* `Session.run_fetch_admitted` : a run makes one request for its first resource, and goes on.
-/

namespace RealmLookup

open RealmLookup.Http RealmLookup.Admin

variable {α : Type}

/-- What became of a request for a URL. -/
def Exchange.reply (url : Url) (exchange : Exchange) : Reply :=
  match exchange.answer.response? with
  | some response => Session.replyTo url response
  | none => .error (.request url.text)

/-- What was read of a resource. -/
def Exchange.read (client : Client) (decoder : Representation.Decoder α) (resource : Resource)
    (exchange : Exchange) : Except Client.Error α :=
  (exchange.reply (client.resourceUrl resource)).bind (Document.decode decoder)

namespace Session

variable {environment : Environment} {client : Client} {valid : String → Prop}

/-- A server that issues a token at every login, and accepts all tokens that it issues: it does not
answer a request with one of them as if the token were not valid. -/
structure Admits (client : Client) (environment : Environment) (valid : String → Prop) :
    Prop where
  /-- The server can be reached. -/
  opened : client.canSend = true
  issues : Issues client environment
  grants : ∀ earlier issued,
    issued? (environment.network earlier client.tokenRequest) = some issued → valid issued.token
  accepts : ∀ earlier request token response, request.method = .get →
    request.bearer? = some token → valid token →
      (environment.network earlier request).response? = some response →
        response.status ≠ unauthorized

/-- What every session with such a server keeps: its token is accepted. -/
structure Admitted (client : Client) (valid : String → Prop) (session : Session) : Prop where
  ready : Ready client session
  accepted : ∀ token, session.token = some token → valid token.value

theorem admitted_fresh : Admitted client valid fresh := by
  refine ⟨ready_fresh, fun token kept => ?_⟩
  cases kept

theorem Admitted.of_token {session after : Session} (holds : Admitted client valid session)
    (same : after.token = session.token) : Admitted client valid after :=
  ⟨fun token kept => holds.ready token (same.symm.trans kept),
    fun token kept => holds.accepted token (same.symm.trans kept)⟩

/-- The exchanges other than logins. -/
def gets (exchanges : List Exchange) : List Exchange :=
  exchanges.filter fun exchange => exchange.request.method == .get

theorem gets_append (first second : List Exchange) :
    gets (first ++ second) = gets first ++ gets second :=
  List.filter_append ..

theorem gets_singleton {url : Url} {exchange : Exchange} (fetches : Fetches url exchange) :
    gets [exchange] = [exchange] := by
  simp [gets, fetches.1]

/-! ### Steps against such a server -/

section Steps

variable {session after : Session} {own : List Exchange} {url : Url}

theorem Login.gets {result : Except Stop String}
    (login : Login environment client session own result after) : Session.gets own = [] := by
  cases login <;> rfl

theorem Obtained.gets {found : Except Stop String}
    (obtained : Obtained environment client session own found after) : Session.gets own = [] := by
  cases obtained with
  | cached => rfl
  | requested _ login => exact login.gets

variable (admits : Admits client environment valid)
include admits

/-- A token that is obtained is accepted. -/
theorem Obtained.admitted {token : String}
    (obtained : Obtained environment client session own (.ok token) after)
    (holds : Admitted client valid session) :
    Header.isValue token = true ∧ valid token ∧ Admitted client valid after := by
  obtain ⟨-, safe, ready⟩ := obtained.served admits.issues holds.ready
  cases obtained with
  | @cached token kept => exact ⟨safe, holds.accepted token kept, ready, holds.accepted⟩
  | requested _ login =>
    rcases login.served admits.issues with ⟨closed, -⟩ | ⟨issued, -, given, issues, -, rfl⟩
    · cases admits.opened.symm.trans closed
    · obtain rfl := Except.ok.inj given
      have granted := admits.grants _ issued issues
      refine ⟨safe, granted, ready, fun token kept => ?_⟩
      obtain rfl := Option.some.inj kept
      exact granted

/-- A request with an accepted token is made once, and is not rejected. -/
theorem Sent.admitted {token : String} {result : Except Stop Response}
    (sent : Sent environment client url token session own result after)
    (safe : Header.isValue token = true) (accepted : valid token) :
    ∃ exchange, own = [exchange] ∧ Fetches url exchange ∧
      replyOf url result = some (exchange.reply url) ∧ after.token = session.token ∧
        ∀ response, result = .ok response → response.status ≠ unauthorized := by
  cases sent with
  | unsent blocked =>
    rcases blocked with closed | unmade
    · cases admits.opened.symm.trans closed
    · exact absurd unmade (Client.resourceRequest?_ne_none safe url)
  | @lost request _ made lost =>
    obtain ⟨-, rfl⟩ := Client.resourceRequest?_eq_some_iff.1 made
    refine ⟨_, rfl, ⟨rfl, rfl⟩, ?_, rfl, fun response same => by cases same⟩
    rw [Exchange.reply, exchange, lost]
    rfl
  | @answered request response _ made answered =>
    have presents := Client.bearer?_of_resourceRequest? made
    obtain ⟨-, rfl⟩ := Client.resourceRequest?_eq_some_iff.1 made
    refine ⟨_, rfl, ⟨rfl, rfl⟩, ?_, rfl, fun given same => ?_⟩
    · rw [Exchange.reply, exchange, answered]
      rfl
    · obtain rfl := Except.ok.inj same
      exact admits.accepts _ _ token response rfl presents accepted answered

/-- A request is made once: it is not rejected, so there is no retry. -/
theorem Responded.admitted {result : Except Stop Response}
    (responded : Responded environment client url session own result after)
    (holds : Admitted client valid session) :
    Admitted client valid after ∧ ∃ exchange, Fetches url exchange ∧
      Session.gets own = [exchange] ∧ replyOf url result = some (exchange.reply url) := by
  have once {lead own : List Exchange} {token : String} {result : Except Stop Response}
      {ready after : Session}
      (obtained : Obtained environment client session lead (.ok token) ready)
      (sent : Sent environment client url token ready own result after) :
      Admitted client valid after ∧
        (∃ exchange, Fetches url exchange ∧ Session.gets (lead ++ own) = [exchange] ∧
          replyOf url result = some (exchange.reply url)) ∧
        ∀ response, result = .ok response → response.status ≠ unauthorized := by
    obtain ⟨safe, accepted, kept⟩ := obtained.admitted admits holds
    obtain ⟨exchange, rfl, fetches, replied, token, allowed⟩ :=
      sent.admitted admits safe accepted
    refine ⟨kept.of_token token, ⟨exchange, fetches, ?_, replied⟩, allowed⟩
    rw [gets_append, obtained.gets, gets_singleton fetches, List.nil_append]
  cases responded with
  | tokenless obtained =>
    obtain ⟨closed, -⟩ := obtained.unserved admits.issues holds.ready
    cases admits.opened.symm.trans closed
  | stopped obtained sent =>
    obtain ⟨kept, made, -⟩ := once obtained sent
    exact ⟨kept, made⟩
  | answered obtained sent =>
    obtain ⟨kept, made, -⟩ := once obtained sent
    exact ⟨kept, made⟩
  | refused obtained sent rejected =>
    obtain ⟨-, -, allowed⟩ := once obtained sent
    exact absurd rejected (allowed _ rfl)
  | retried obtained sent rejected =>
    obtain ⟨-, -, allowed⟩ := once obtained sent
    exact absurd rejected (allowed _ rfl)

/-- A visit makes one request for its resource, and its reply is what became of it. -/
theorem visit_admitted (resource : Resource) (holds : Admitted client valid session) :
    Admitted client valid (visit environment client resource session).after ∧
      ∃ exchange, Fetches (client.resourceUrl resource) exchange ∧
        Session.gets (visit environment client resource session).exchanges = [exchange] ∧
          (visit environment client resource session).reply =
            some (exchange.reply (client.resourceUrl resource)) := by
  obtain ⟨result, responded, replied⟩ := visit_responded environment client resource session
  obtain ⟨kept, exchange, fetches, made, becomes⟩ := responded.admitted admits holds
  exact ⟨kept, exchange, fetches, made, replied.trans becomes⟩

end Steps

/-! ### Runs against such a server -/

section Runs

variable (environment client)

/-- The exchanges of the run of a plan other than logins. -/
def runGets (plan : Plan α) (session : Session) : List Exchange :=
  gets ((run environment client plan session).2.exchanges.drop session.exchanges.length)

theorem runGets_eq (plan : Plan α) (session : Session) :
    runGets environment client plan session =
      gets ((visits environment client plan session).flatMap Visit.exchanges) := by
  rw [runGets, run_exchanges, List.drop_left]

theorem runGets_done (value : α) (session : Session) :
    runGets environment client (.done value) session = [] := by
  rw [runGets_eq]
  rfl

variable {environment client}

/-- A run makes one request for its first resource, and goes on with what became of it. -/
theorem run_fetch_admitted (admits : Admits client environment valid) (resource : Resource)
    (next : Reply → Plan α) {session : Session} (holds : Admitted client valid session) :
    ∃ exchange after, Fetches (client.resourceUrl resource) exchange ∧
      Admitted client valid after ∧
        let followed := next (exchange.reply (client.resourceUrl resource))
        (run environment client (.fetch resource next) session).1 =
            (run environment client followed after).1 ∧
          runGets environment client (.fetch resource next) session =
            exchange :: runGets environment client followed after := by
  obtain ⟨kept, exchange, fetches, made, replied⟩ := visit_admitted admits resource holds
  refine ⟨exchange, _, fetches, kept, ?_, ?_⟩
  · rw [run_fetch_visit, replied]
  · rw [runGets_eq, runGets_eq, visits, replied, List.flatMap_cons, gets_append, made]
    rfl

end Runs

/-- A server whose tokens last accepts them. -/
theorem admits_tokenServer {resources : Url → Response} (opened : client.canSend = true)
    (authorized : ∀ url, (resources url).status ≠ unauthorized) :
    Admits client (tokenServer true resources) fun _ => True where
  opened := opened
  issues := (serves_tokenServer client true authorized).issues
  grants _ _ _ := trivial
  accepts earlier request token response gets _ _ answered := by
    simp only [tokenServer, gets, Bool.true_or, if_true] at answered
    obtain rfl := Option.some.inj answered
    exact authorized request.url

end Session

end RealmLookup
