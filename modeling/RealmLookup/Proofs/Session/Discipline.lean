import RealmLookup.Proofs.Session.Coherence

/-!
# The discipline of requests

What a client sends follows from the history alone.  A visit begins with a login if the history
leaves no token that can be used, and repeats its request after another login if the first one
was answered with 401; it sends nothing else, and neither does a run.

## Main definitions

* `Session.Requested` : the requests of a visit behind a leading login.
* `Session.Leads` : when a login comes first.
* `Session.Visit.Disciplined` : the requests of a visit.
* `Session.RunDisciplined` : the requests of a run.

## Main results

* `Session.visit_disciplined` : every visit from a coherent session is disciplined.
* `Session.run_disciplined`, `Session.start_disciplined` : so is every run, from the first one on.
-/

namespace RealmLookup.Session

open RealmLookup.Http RealmLookup.Admin

variable {α : Type} {environment : Environment} {client : Client}

/-! ### The requests of a visit -/

/-- The methods of exchanges, in order. -/
def methods (exchanges : List Exchange) : List Method :=
  exchanges.map fun exchange => exchange.request.method

/-- Whether an exchange is a login. -/
def isLogin (exchange : Exchange) : Bool :=
  exchange.request.method == .post

/-- Whether a request was answered with the status of a rejected token. -/
def Rejected (exchange : Exchange) : Prop :=
  ∃ response, exchange.answer.response? = some response ∧ response.status = 401

/-- A request for a URL. -/
def Fetches (url : Url) (exchange : Exchange) : Prop :=
  exchange.request.method = .get ∧ exchange.request.url = url.target

/-- The requests of a visit behind a leading login: none, or one that may be followed by a login
and another one if it was rejected. -/
inductive Requested (url : Url) : List Exchange → Prop
  | unsent : Requested url []
  | once {first : Exchange} (fetches : Fetches url first) (accepted : ¬ Rejected first) :
      Requested url [first]
  | renewed {first login : Exchange} (fetches : Fetches url first) (rejected : Rejected first)
      (logs : login.request.method = .post) : Requested url [first, login]
  | twice {first login again : Exchange} (fetches : Fetches url first)
      (rejected : Rejected first) (logs : login.request.method = .post)
      (repeats : Fetches url again) : Requested url [first, login, again]

section Shapes

variable {session after : Session} {own : List Exchange} {url : Url}

/-- A login is one request, if anything can be sent. -/
theorem Login.own_of_opened {result : Except Stop String}
    (login : Login environment client session own result after) (opened : client.canSend = true) :
    ∃ exchange, own = [exchange] ∧ exchange.request = client.tokenRequest := by
  cases login with
  | unsent closed =>
    rw [opened] at closed
    cases closed
  | failed => exact ⟨_, rfl, rfl⟩
  | overflow => exact ⟨_, rfl, rfl⟩
  | kept => exact ⟨_, rfl, rfl⟩

/-- A login sends nothing if nothing can be sent. -/
theorem Login.of_closed {result : Except Stop String}
    (login : Login environment client session own result after)
    (closed : client.canSend = false) :
    own = [] ∧ result = .error (.failed (.request client.tokenUrl.text)) := by
  cases login with
  | unsent => exact ⟨rfl, rfl⟩
  | failed opened => cases opened.symm.trans closed
  | overflow opened => cases opened.symm.trans closed
  | kept opened => cases opened.symm.trans closed

theorem posts_of_tokenRequest {exchange : Exchange}
    (same : exchange.request = client.tokenRequest) : exchange.request.method = .post := by
  rw [same]
  rfl

/-- A request that got a response is one exchange with that response. -/
theorem Sent.own_of_ok {token : String} {response : Response}
    (sent : Sent environment client url token session own (.ok response) after) :
    ∃ exchange, own = [exchange] ∧ Fetches url exchange ∧
      exchange.answer.response? = some response ∧ client.canSend = true := by
  cases sent with
  | answered opened made answered =>
    obtain ⟨-, rfl⟩ := Client.resourceRequest?_eq_some_iff.1 made
    exact ⟨_, rfl, ⟨rfl, rfl⟩, answered, opened⟩

/-- A request without a response is not sent, or is one exchange without a response. -/
theorem Sent.own_of_error {token : String} {stop : Stop}
    (sent : Sent environment client url token session own (.error stop) after) :
    own = [] ∨ ∃ exchange, own = [exchange] ∧ Fetches url exchange ∧ ¬ Rejected exchange := by
  cases sent with
  | unsent => exact .inl rfl
  | lost opened made lost =>
    obtain ⟨-, rfl⟩ := Client.resourceRequest?_eq_some_iff.1 made
    refine .inr ⟨_, rfl, ⟨rfl, rfl⟩, fun ⟨response, found, _⟩ => ?_⟩
    exact Option.some_ne_none response (found.symm.trans lost)

/-- What a visit sends: a login first, just if the token is stale and it can be sent, and what
follows it. -/
def Leads (environment : Environment) (client : Client) (url : Url) (session : Session)
    (own : List Exchange) : Prop :=
  ∃ rest, Requested url rest ∧
    ((session.isStale environment = true ∧ client.canSend = true ∧
        ∃ login, login.request.method = .post ∧ own = login :: rest) ∨
      ((session.isStale environment = false ∨ client.canSend = false) ∧ own = rest))

/-- What is sent for a token is the login that a visit begins with. -/
theorem Obtained.leads {found : Except Stop String} {rest : List Exchange}
    (obtained : Obtained environment client session own found after)
    (requested : Requested url rest) : Leads environment client url session (own ++ rest) := by
  refine ⟨rest, requested, ?_⟩
  cases obtained with
  | cached _ fresh => exact .inr ⟨.inl fresh, rfl⟩
  | requested stale login =>
    cases opened : client.canSend with
    | false =>
      obtain ⟨rfl, -⟩ := login.of_closed opened
      exact .inr ⟨.inr rfl, rfl⟩
    | true =>
      obtain ⟨exchange, rfl, same⟩ := login.own_of_opened opened
      exact .inl ⟨stale, rfl, exchange, posts_of_tokenRequest same, rfl⟩

theorem Responded.leads {result : Except Stop Response}
    (responded : Responded environment client url session own result after) :
    Leads environment client url session own := by
  cases responded with
  | tokenless obtained =>
    have requested : Requested url [] := .unsent
    have leads := obtained.leads requested
    rwa [List.append_nil] at leads
  | stopped obtained sent =>
    rcases sent.own_of_error with rfl | ⟨exchange, rfl, fetches, accepted⟩
    · exact obtained.leads .unsent
    · exact obtained.leads (.once fetches accepted)
  | @answered _ _ _ response _ _ obtained sent accepted =>
    obtain ⟨exchange, rfl, fetches, answered, -⟩ := sent.own_of_ok
    refine obtained.leads (.once fetches fun ⟨other, found, status⟩ => accepted ?_)
    obtain rfl : response = other := Option.some.inj (answered.symm.trans found)
    exact status
  | @refused _ _ _ _ response _ _ _ _ obtained sent rejected login =>
    obtain ⟨exchange, rfl, fetches, answered, opened⟩ := sent.own_of_ok
    obtain ⟨renewal, rfl, same⟩ := login.own_of_opened opened
    rw [List.append_assoc]
    have rejection : Rejected exchange := ⟨response, answered, rejected⟩
    exact obtained.leads (.renewed fetches rejection (posts_of_tokenRequest same))
  | @retried _ _ _ _ _ _ response result _ _ _ _ obtained sent rejected login resent =>
    obtain ⟨exchange, rfl, fetches, answered, opened⟩ := sent.own_of_ok
    obtain ⟨renewal, rfl, same⟩ := login.own_of_opened opened
    rw [List.append_assoc, List.append_assoc]
    have rejection : Rejected exchange := ⟨response, answered, rejected⟩
    have logs := posts_of_tokenRequest same
    cases result with
    | ok final =>
      obtain ⟨again, rfl, repeats, -, -⟩ := resent.own_of_ok
      exact obtained.leads (.twice fetches rejection logs repeats)
    | error stop =>
      rcases resent.own_of_error with rfl | ⟨again, rfl, repeats, -⟩
      · exact obtained.leads (.renewed fetches rejection logs)
      · exact obtained.leads (.twice fetches rejection logs repeats)

theorem Obtained.of_closed {found : Except Stop String}
    (obtained : Obtained environment client session own found after)
    (coherent : Coherent environment client session) (closed : client.canSend = false) :
    own = [] ∧ found = .error (.failed (.request client.tokenUrl.text)) := by
  cases obtained with
  | cached kept =>
    rw [coherent.token, coherent.silent closed] at kept
    cases kept
  | requested _ login => exact login.of_closed closed

/-- Where nothing can be sent, the login that comes first fails. -/
theorem Responded.of_closed {result : Except Stop Response}
    (responded : Responded environment client url session own result after)
    (coherent : Coherent environment client session) (closed : client.canSend = false) :
    own = [] ∧ result = .error (.failed (.request client.tokenUrl.text)) := by
  cases responded with
  | tokenless obtained =>
    obtain ⟨rfl, same⟩ := obtained.of_closed coherent closed
    cases same
    exact ⟨rfl, rfl⟩
  | stopped obtained => cases (obtained.of_closed coherent closed).2
  | answered obtained => cases (obtained.of_closed coherent closed).2
  | refused obtained => cases (obtained.of_closed coherent closed).2
  | retried obtained => cases (obtained.of_closed coherent closed).2

theorem Requested.methods_prefix {rest : List Exchange} (requested : Requested url rest) :
    methods rest <+: [.get, .post, .get] := by
  cases requested with
  | unsent => exact List.nil_prefix
  | once fetches =>
    simp only [methods, List.map_cons, List.map_nil, fetches.1]
    exact ⟨[.post, .get], rfl⟩
  | renewed fetches _ logs =>
    simp only [methods, List.map_cons, List.map_nil, fetches.1, logs]
    exact ⟨[.get], rfl⟩
  | twice fetches _ logs repeats =>
    simp only [methods, List.map_cons, List.map_nil, fetches.1, logs, repeats.1]
    exact ⟨[], rfl⟩

/-- The requests of a visit behind a leading login do not begin with a login. -/
theorem Requested.dropWhile_eq {rest : List Exchange} (requested : Requested url rest) :
    rest.dropWhile isLogin = rest := by
  have stays {first : Exchange} (fetches : Fetches url first) (tail : List Exchange) :
      (first :: tail).dropWhile isLogin = first :: tail := by
    refine List.dropWhile_cons_of_neg ?_
    rw [isLogin, fetches.1]
    decide
  cases requested with
  | unsent => rfl
  | once fetches => exact stays fetches []
  | renewed fetches => exact stays fetches _
  | twice fetches => exact stays fetches _

/-- The first request of a visit is followed by a login just if it was rejected. -/
theorem Requested.renewed_iff {first : Exchange} {rest : List Exchange}
    (requested : Requested url (first :: rest)) :
    (methods rest).head? = some .post ↔ Rejected first := by
  cases requested with
  | once _ accepted => exact iff_of_false (by simp [methods]) accepted
  | renewed _ rejected logs => exact iff_of_true (by simp [methods, logs]) rejected
  | twice _ rejected logs => exact iff_of_true (by simp [methods, logs]) rejected

/-- The requests of a visit other than logins are sent to its URL. -/
theorem Requested.fetches {rest : List Exchange} (requested : Requested url rest)
    {exchange : Exchange} (member : exchange ∈ rest) (gets : exchange.request.method = .get) :
    exchange.request.url = url.target := by
  have posts {login : Exchange} (logs : login.request.method = .post) : exchange ≠ login := by
    rintro rfl
    cases gets.symm.trans logs
  cases requested with
  | unsent => cases member
  | once first =>
    obtain rfl := List.mem_singleton.1 member
    exact first.2
  | renewed first _ logs =>
    rcases List.mem_cons.1 member with rfl | member
    · exact first.2
    · exact absurd (List.mem_singleton.1 member) (posts logs)
  | twice first _ logs again =>
    rcases List.mem_cons.1 member with rfl | member
    · exact first.2
    rcases List.mem_cons.1 member with same | member
    · exact absurd same (posts logs)
    · obtain rfl := List.mem_singleton.1 member
      exact again.2

/-- The requests of a visit other than logins are sent to its URL, behind a leading login, too. -/
theorem Leads.fetches (leads : Leads environment client url session own) {exchange : Exchange}
    (member : exchange ∈ own) (gets : exchange.request.method = .get) :
    exchange.request.url = url.target := by
  obtain ⟨rest, requested, ⟨-, -, login, logs, rfl⟩ | ⟨-, rfl⟩⟩ := leads
  · rcases List.mem_cons.1 member with rfl | member
    · cases gets.symm.trans logs
    · exact requested.fetches member gets
  · exact requested.fetches member gets

/-- Where nothing can be sent, a visit sends nothing. -/
theorem Responded.own_of_closed {result : Except Stop Response}
    (responded : Responded environment client url session own result after)
    (closed : client.canSend = false) : own = [] := by
  have tokenless {lead : List Exchange} {found : Except Stop String} {ready : Session}
      (obtained : Obtained environment client session lead found ready) : lead = [] := by
    cases obtained with
    | cached => rfl
    | requested _ login => exact (login.of_closed closed).1
  have unanswered {token : String} {lead : List Exchange} {response : Response}
      {ready denied : Session}
      (sent : Sent environment client url token ready lead (.ok response) denied) : False := by
    obtain ⟨-, -, -, -, opened⟩ := sent.own_of_ok
    cases opened.symm.trans closed
  cases responded with
  | tokenless obtained => exact tokenless obtained
  | stopped obtained sent =>
    rw [tokenless obtained]
    cases sent with
    | unsent => rfl
    | lost opened => cases opened.symm.trans closed
  | answered _ sent => exact (unanswered sent).elim
  | refused _ sent => exact (unanswered sent).elim
  | retried _ sent => exact (unanswered sent).elim

end Shapes

/-- The requests of a visit: a login first if one is needed, then the request for the resource,
and once more a login and the request if the first one was rejected; it may end early. -/
structure Visit.Disciplined (environment : Environment) (client : Client) (visit : Visit) :
    Prop where
  needed : NeedsLogin environment visit.before → client.canSend = true →
    ∃ rest, methods visit.exchanges = .post :: rest ∧ rest <+: [.get, .post, .get]
  spared : ¬ NeedsLogin environment visit.before → methods visit.exchanges <+: [.get, .post, .get]
  /-- A login that cannot even be sent is an error of its URL. -/
  closed : client.canSend = false → NeedsLogin environment visit.before ∧ visit.exchanges = [] ∧
    visit.reply = some (.error (.request client.tokenUrl.text))
  renewed : ∀ first rest, visit.exchanges.dropWhile isLogin = first :: rest →
    ((methods rest).head? = some .post ↔ Rejected first)
  targets : ∀ exchange ∈ visit.exchanges, exchange.request.method = .get →
    exchange.request.url = (client.resourceUrl visit.resource).target

/-- Every visit from a coherent session is disciplined. -/
theorem visit_disciplined (resource : Resource) {session : Session}
    (coherent : Coherent environment client session) :
    (visit environment client resource session).Disciplined environment client := by
  obtain ⟨result, responded, replied⟩ := visit_responded environment client resource session
  obtain ⟨rest, requested, shape⟩ := responded.leads
  have stale : session.isStale environment = true ↔ NeedsLogin environment session :=
    isStale_iff_needsLogin coherent.token
  refine ⟨fun needs opened => ?_, fun spared => ?_, fun closed => ?_, fun first tail behind => ?_,
    fun exchange member gets => responded.leads.fetches member gets⟩
  · rcases shape with ⟨-, -, login, logs, same⟩ | ⟨fresh | closed, -⟩
    · refine ⟨methods rest, ?_, requested.methods_prefix⟩
      rw [same, methods, List.map_cons, logs]
      rfl
    · cases (stale.2 needs).symm.trans fresh
    · cases opened.symm.trans closed
  · rcases shape with ⟨needs, -⟩ | ⟨-, same⟩
    · exact absurd (stale.1 needs) spared
    · rw [same]
      exact requested.methods_prefix
  · obtain ⟨unsent, rfl⟩ := responded.of_closed coherent closed
    refine ⟨needsLogin_of_none ?_, unsent, replied⟩
    show latestLogin session.exchanges = none
    rw [coherent.silent closed]
    rfl
  · rcases shape with ⟨-, -, login, logs, same⟩ | ⟨-, same⟩
    · have leads : isLogin login = true := beq_iff_eq.2 logs
      rw [same, List.dropWhile_cons_of_pos leads, requested.dropWhile_eq] at behind
      exact (behind ▸ requested).renewed_iff
    · rw [same, requested.dropWhile_eq] at behind
      exact (behind ▸ requested).renewed_iff

/-! ### The requests of a run -/

/-- The requests of the run of a plan from an opened session. -/
structure RunDisciplined (environment : Environment) (client : Client) (realm : String)
    (opened : Session) (plan : Plan α) : Prop where
  permitted : ∀ earlier exchange later,
    (run environment client plan opened).2.exchanges = earlier ++ exchange :: later →
      Permitted client realm earlier exchange.request
  tokens : ∀ found ∈ visits environment client plan opened,
    found.before.token = tokenOf environment found.before.exchanges ∧
      (found.reply.isSome = true → found.after.token = tokenOf environment found.after.exchanges)
  /-- A visit none of whose logins succeeds leaves the token as it was. -/
  untouched : ∀ found ∈ visits environment client plan opened, found.reply.isSome = true →
    (∀ exchange ∈ found.exchanges, exchange.issued? = none) → found.after.token = found.before.token
  visits : ∀ found ∈ visits environment client plan opened, found.Disciplined environment client
  lasting : ∀ found ∈ Session.visits environment client plan opened, ∀ login issued,
    latestLogin found.before.exchanges = some (login, issued) → issued.expiresIn = none →
      ¬ NeedsLogin environment found.before
  brief : Monotone environment.clock → ∀ found ∈ Session.visits environment client plan opened,
    ∀ login issued seconds, latestLogin found.before.exchanges = some (login, issued) →
      issued.expiresIn = some seconds → seconds ≤ 10 → NeedsLogin environment found.before
  /-- Nothing is sent but the requests of the visits. -/
  exchanges : (run environment client plan opened).2.exchanges =
    opened.exchanges ++ (Session.visits environment client plan opened).flatMap Visit.exchanges

/-- A visit from a coherent session leaves one, if it has a reply. -/
theorem visit_ended (resource : Resource) {session : Session}
    (coherent : Coherent environment client session) :
    Recorded client (visit environment client resource session).after ∧
      ((visit environment client resource session).reply.isSome = true →
        Coherent environment client (visit environment client resource session).after) := by
  obtain ⟨result, responded, replied⟩ := visit_responded environment client resource session
  obtain ⟨recorded, going⟩ := responded.ended coherent
  refine ⟨recorded, fun some => going ?_⟩
  rintro rfl
  rw [replied] at some
  cases some

/-- Every run from a coherent session is disciplined. -/
theorem run_disciplined {opened : Session} (coherent : Coherent environment client opened)
    (plan : Plan α) : RunDisciplined environment client client.realm opened plan := by
  have weaken (session : Session) (holds : Coherent environment client session) :
      Recorded client session := holds.toRecorded
  obtain ⟨every, recorded, -⟩ :=
    visits_induction weaken (fun resource _ => visit_ended resource) plan opened coherent
  have after {found : Visit} (member : found ∈ visits environment client plan opened)
      (replied : found.reply.isSome = true) :
      found.after.token = tokenOf environment found.after.exchanges := by
    have before := every found member
    rw [eq_visit_of_mem member] at replied ⊢
    exact ((visit_ended found.resource before).2 replied).token
  refine ⟨recorded.permitted, fun found member => ⟨(every found member).token, after member⟩,
    fun found member replied fails => ?_, fun found member => ?_,
    fun found member login issued => ?_, fun monotone found member login issued seconds => ?_,
    run_exchanges environment client plan opened⟩
  · have sends : found.after.exchanges = found.before.exchanges ++ found.exchanges := by
      rw [eq_visit_of_mem member]
      exact visit_exchanges environment client found.resource found.before
    rw [after member replied, sends, tokenOf_append_of_none fails, (every found member).token]
  · have before := every found member
    rw [eq_visit_of_mem member]
    exact visit_disciplined found.resource before
  · exact not_needsLogin_of_lasting
  · exact needsLogin_of_brief monotone (every found member).readings

/-! ### Clients of settings -/

/-- What a client of settings sends: a login when it is opened, if the settings say so, and what
its runs send. -/
structure Disciplined (environment : Environment) (config : Config) (client : Client) : Prop where
  endpoint : client.tokenRequest.method = .post ∧ client.tokenRequest.url =
    (client.url ["realms", config.realm, "protocol", "openid-connect", "token"] []).target
  opening : (start environment config).2.exchanges.map Exchange.request =
    if config.initialLogin && client.canSend then [client.tokenRequest] else []
  lazy : config.initialLogin = false → (start environment config).1 = some (.ok client)
  runs : (start environment config).1 = some (.ok client) → ∀ {α : Type} (plan : Plan α),
    RunDisciplined environment client config.realm (start environment config).2 plan

/-- Every client that settings build is disciplined, whatever the server answers. -/
theorem start_disciplined (environment : Environment) {config : Config} {client : Client}
    (built : Client.build config = .ok client) : Disciplined environment config client := by
  have realm := Client.realm_of_build built
  have endpoint : client.tokenRequest.url =
      (client.url ["realms", config.realm, "protocol", "openid-connect", "token"] []).target := by
    rw [← realm]
    rfl
  have unread : Coherent environment client fresh := coherent_fresh
  cases eager : config.initialLogin with
  | false =>
    have started := start_of_lazy environment built eager
    refine ⟨⟨rfl, endpoint⟩, ?_, fun _ => ?_, fun _ _ plan => ?_⟩
    · rw [started, eager]
      rfl
    · rw [started]
    · rw [started, ← realm]
      exact run_disciplined unread plan
  | true =>
    obtain ⟨own, result, login, outcome⟩ := start_of_eager environment built eager
    have sends : (start environment config).2.exchanges = own := login.exchanges
    refine ⟨⟨rfl, endpoint⟩, ?_, fun lazy => ?_, fun opened _ plan => ?_⟩
    · rw [sends, eager]
      cases sendable : client.canSend with
      | false =>
        rw [(login.of_closed sendable).1]
        rfl
      | true =>
        obtain ⟨exchange, rfl, same⟩ := login.own_of_opened sendable
        rw [List.map_singleton, same]
        rfl
    · cases eager.symm.trans lazy
    · rw [← realm]
      refine run_disciplined ((login.ended unread).2 ?_) plan
      rintro rfl
      rw [outcome] at opened
      cases opened

/-- The client of the local host asks for two roles, of a server whose tokens serve for one request:
the second role takes a further login. -/
theorem start_disciplined_localConfig :
    Client.build Client.localConfig = .ok Client.localClient ∧
      Disciplined briefServer Client.localConfig Client.localClient ∧
      RunDisciplined briefServer Client.localClient Client.localConfig.realm
        (start briefServer Client.localConfig).2 bothRoles ∧
      statuses (run briefServer Client.localClient bothRoles
          (start briefServer Client.localConfig).2).2 =
        [(.post, some 200), (.get, some 404), (.get, some 401), (.post, some 200),
          (.get, some 404)] := by
  have disciplined : Disciplined briefServer Client.localConfig Client.localClient :=
    start_disciplined briefServer Client.build_localConfig
  exact ⟨Client.build_localConfig, disciplined, disciplined.runs (disciplined.lazy rfl) bothRoles,
    by decide +kernel⟩

end RealmLookup.Session
