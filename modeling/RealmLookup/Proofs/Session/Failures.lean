import RealmLookup.Proofs.Admin.Plan
import RealmLookup.Proofs.Client.Requests
import RealmLookup.Proofs.Session.Visits

/-!
# Failures of visits

What the exchanges of a visit say about its reply.  An exchange that fails is the last one of its
visit, and its failure is the reply; otherwise the last exchange is the request whose response is
the reply.

## Main definitions

* `Exchange.failure?` : the failure that an exchange is.
* `Session.firstFailure?` : the first failure among the exchanges of a visit.
* `Admin.Finding`, `Session.Visit.finding` : what the last request of a visit found.

## Main results

* `Session.visit_failure` : the first failure of a visit is its last exchange, and its reply.
* `Session.visit_finding` : the last request of a visit found what its reply says.
-/

namespace RealmLookup

open RealmLookup.Http RealmLookup.Admin

/-- The failure that an exchange of the visit of a resource is.  That a resource does not exist is
none, nor is a rejected token that can be renewed. -/
def Exchange.failure? (client : Client) (resource : Resource) (renewable : Bool)
    (exchange : Exchange) : Option Client.Error :=
  match exchange.request.method with
  | .post => Session.loginError? client exchange.answer
  | .get =>
      match exchange.answer.response? with
      | none => some (.request (client.resourceUrl resource).text)
      | some response =>
          if response.isSuccess then
            if resource.isReadable response.body then none
            else some (.decode (client.resourceUrl resource).text)
          else if response.status = 404 ∨ (response.status = 401 ∧ renewable = true) then none
          else
            some (.api response.status (client.resourceUrl resource).text response.body.text)

/-- What a request for a resource found: that it does not exist, a body, or nothing that can be
told. -/
inductive Admin.Finding
  | absent
  | body (body : Body)
  | unknown

/-- What a reply says about a resource. -/
def Admin.Finding.ofReply : Reply → Finding
  | .ok document => .body document.body
  | .error error => if error.isNotFound then .absent else .unknown

/-- What an exchange found. -/
def Exchange.finding (exchange : Exchange) : Finding :=
  match exchange.request.method with
  | .post => .unknown
  | .get =>
      match exchange.answer.response? with
      | none => .unknown
      | some response =>
          if response.isSuccess then .body response.body
          else if response.status = 404 then .absent
          else .unknown

namespace Session

/-- The first failure among the exchanges of a visit, and the exchanges behind it.  A rejected token
can be renewed as long as all the exchanges were logins. -/
def firstFailure? (client : Client) (resource : Resource) :
    Bool → List Exchange → Option (Client.Error × List Exchange)
  | _, [] => none
  | renewable, exchange :: rest =>
      match exchange.failure? client resource renewable with
      | some error => some (error, rest)
      | none =>
          firstFailure? client resource (renewable && exchange.request.method == .post) rest

/-- What the last request of some exchanges found. -/
def findingOf (exchanges : List Exchange) : Finding :=
  match exchanges.getLast? with
  | some exchange => exchange.finding
  | none => .unknown

/-- What the last request of a visit found. -/
def Visit.finding (visit : Visit) : Finding :=
  findingOf visit.exchanges

theorem findingOf_concat (exchanges : List Exchange) (exchange : Exchange) :
    findingOf (exchanges ++ [exchange]) = exchange.finding := by
  rw [findingOf, List.getLast?_concat]

variable {environment : Environment} {client : Client} {resource : Resource} {renewable : Bool}
  {session after : Session} {own rest : List Exchange} {exchange : Exchange} {error : Client.Error}

/-! ### Failures of exchanges -/

/-- That a login failed does not say that an object is missing. -/
theorem isNotFound_of_loginError? {answer : Answer}
    (refused : loginError? client answer = some error) : error.isNotFound = false := by
  unfold loginError? at refused
  split at refused
  · split at refused
    · cases refused
      rfl
    · split at refused
      · cases refused
        rfl
      · cases refused
  · cases refused
    rfl

theorem failure?_of_post (posts : exchange.request.method = .post) :
    exchange.failure? client resource renewable = loginError? client exchange.answer := by
  rw [Exchange.failure?, posts]

theorem finding_of_post (posts : exchange.request.method = .post) :
    exchange.finding = .unknown := by
  rw [Exchange.finding, posts]

/-- A request without a response fails. -/
theorem failure?_of_lost (gets : exchange.request.method = .get)
    (lost : exchange.answer.response? = none) :
    exchange.failure? client resource renewable =
      some (.request (client.resourceUrl resource).text) := by
  rw [Exchange.failure?, gets, lost]

/-- A response fails as the reply that it gives, unless it rejects a token that can be renewed. -/
theorem failure?_of_response {response : Response} (gets : exchange.request.method = .get)
    (answered : exchange.answer.response? = some response)
    (final : response.status = 401 → renewable = false) :
    exchange.failure? client resource renewable =
      resource.failure? (replyTo (client.resourceUrl resource) response) := by
  rw [Exchange.failure?, gets]
  dsimp only
  rw [answered, replyTo]
  dsimp only
  cases success : response.isSuccess with
  | true => rfl
  | false =>
    rw [if_neg Bool.false_ne_true, if_neg Bool.false_ne_true, Resource.failure?,
      Client.Error.isNotFound]
    by_cases missing : response.status = 404
    · rw [if_pos (.inl missing), if_pos (beq_iff_eq.2 missing)]
    · rw [if_neg, if_neg (by rwa [beq_iff_eq])]
      rintro (gone | ⟨rejected, again⟩)
      · exact missing gone
      · cases (final rejected).symm.trans again

theorem isSuccess_of_rejected {response : Response} (rejected : response.status = 401) :
    response.isSuccess = false := by
  rw [Response.isSuccess, rejected]
  rfl

theorem failure?_of_rejected {response : Response} (gets : exchange.request.method = .get)
    (answered : exchange.answer.response? = some response) (rejected : response.status = 401) :
    exchange.failure? client resource true = none := by
  rw [Exchange.failure?, gets]
  dsimp only
  rw [answered]
  simp [isSuccess_of_rejected rejected, rejected]

theorem finding_of_lost (gets : exchange.request.method = .get)
    (lost : exchange.answer.response? = none) : exchange.finding = .unknown := by
  rw [Exchange.finding, gets]
  dsimp only
  rw [lost]

theorem finding_of_rejected {response : Response} (gets : exchange.request.method = .get)
    (answered : exchange.answer.response? = some response) (rejected : response.status = 401) :
    exchange.finding = .unknown := by
  rw [Exchange.finding, gets]
  dsimp only
  rw [answered]
  simp [isSuccess_of_rejected rejected, rejected]

theorem finding_of_response {response : Response} (url : Url)
    (gets : exchange.request.method = .get)
    (answered : exchange.answer.response? = some response) :
    exchange.finding = .ofReply (replyTo url response) := by
  rw [Exchange.finding, gets]
  dsimp only
  rw [answered, replyTo]
  dsimp only
  cases response.isSuccess with
  | true => rfl
  | false =>
    rw [if_neg Bool.false_ne_true, if_neg Bool.false_ne_true, Finding.ofReply,
      Client.Error.isNotFound]
    simp only [beq_iff_eq]

/-! ### What exchanges report -/

/-- Exchanges that report a reply: a failure among them is the last one and the failure of the
reply, and the last request found what the reply says, or nothing if there is none. -/
structure Reported (client : Client) (resource : Resource) (renewable : Bool)
    (own : List Exchange) (reply : Option Reply) : Prop where
  failure : ∀ error rest, firstFailure? client resource renewable own = some (error, rest) →
    rest = [] ∧ ∃ found, reply = some found ∧ resource.failure? found = some error
  finding : findingOf own = (reply.map Finding.ofReply).getD .unknown

variable {reply : Option Reply}

theorem reported_nil (unknown : ∀ found, reply = some found → Finding.ofReply found = .unknown) :
    Reported client resource renewable [] reply where
  failure _ _ failed := by cases failed
  finding := by
    cases reply with
    | none => rfl
    | some found => exact (unknown found rfl).symm

/-- An exchange that neither fails nor finds anything reports nothing. -/
theorem Reported.cons (fine : exchange.failure? client resource renewable = none)
    (unknown : exchange.finding = .unknown)
    (reported : Reported client resource (renewable && exchange.request.method == .post) own
      reply) :
    Reported client resource renewable (exchange :: own) reply where
  failure error rest failed := by
    rw [firstFailure?, fine] at failed
    exact reported.failure error rest failed
  finding := by
    rw [← reported.finding]
    rcases own.eq_nil_or_concat with rfl | ⟨before, last, rfl⟩
    · exact unknown
    · rw [List.concat_eq_append, ← List.cons_append, findingOf_concat, findingOf_concat]

/-- One exchange reports its failure. -/
theorem reported_singleton {found : Reply}
    (same : exchange.failure? client resource renewable = resource.failure? found)
    (finds : exchange.finding = .ofReply found) :
    Reported client resource renewable [exchange] (some found) where
  failure error rest failed := by
    rw [firstFailure?] at failed
    split at failed
    · rename_i other fails
      cases failed
      exact ⟨rfl, found, rfl, same.symm.trans fails⟩
    · cases failed
  finding := finds

theorem failure?_of_error (other : error.isNotFound = false) :
    resource.failure? (.error error) = some error := by
  rw [Resource.failure?, other]
  rfl

theorem ofReply_of_error (other : error.isNotFound = false) :
    Finding.ofReply (.error error) = .unknown := by
  rw [Finding.ofReply, other]
  rfl

section Relations

variable {url : Url} {token : String}

/-- A login that succeeds neither fails nor finds anything. -/
theorem Login.reported_cons (login : Login environment client session own (.ok token) after)
    (reported : Reported client resource renewable rest reply) :
    Reported client resource renewable (own ++ rest) reply := by
  cases login with
  | kept _ issues =>
    refine .cons ?_ (finding_of_post rfl) (by rwa [show (_ == Http.Method.post) = true from rfl,
      Bool.and_true])
    rw [failure?_of_post rfl]
    exact loginError?_eq_none_iff.2 ⟨_, issues⟩

/-- A login that fails reports its error. -/
theorem Login.reported {stop : Stop}
    (login : Login environment client session own (.error stop) after) :
    Reported client resource renewable own (replyOf url (.error stop)) := by
  cases login with
  | unsent =>
    refine reported_nil fun found replied => ?_
    rw [← Option.some.inj replied]
    rfl
  | failed _ refused =>
    have other := isNotFound_of_loginError? refused
    refine reported_singleton ?_ ?_
    · rw [failure?_of_post rfl, failure?_of_error other]
      exact refused
    · rw [finding_of_post rfl, ofReply_of_error other]
  | overflow _ issues =>
    refine .cons ?_ (finding_of_post rfl) (reported_nil fun found replied => by cases replied)
    rw [failure?_of_post rfl]
    exact loginError?_eq_none_iff.2 ⟨_, issues⟩

theorem Obtained.reported_cons
    (obtained : Obtained environment client session own (.ok token) after)
    (reported : Reported client resource renewable rest reply) :
    Reported client resource renewable (own ++ rest) reply := by
  cases obtained with
  | cached => exact reported
  | requested _ login => exact login.reported_cons reported

theorem Obtained.reported {stop : Stop}
    (obtained : Obtained environment client session own (.error stop) after) :
    Reported client resource renewable own (replyOf url (.error stop)) := by
  cases obtained with
  | requested _ login => exact login.reported

/-- A request reports its response, or that there was none. -/
theorem Sent.reported {result : Except Stop Response}
    (sent : Sent environment client (client.resourceUrl resource) token session own result after)
    (final : ∀ response, result = .ok response → response.status = 401 → renewable = false) :
    Reported client resource renewable own (replyOf (client.resourceUrl resource) result) := by
  cases sent with
  | unsent =>
    refine reported_nil fun found replied => ?_
    rw [← Option.some.inj replied]
    rfl
  | lost _ made lost =>
    obtain ⟨-, rfl⟩ := Client.resourceRequest?_eq_some_iff.1 made
    refine reported_singleton ?_ ?_
    · rw [failure?_of_lost rfl lost]
      rfl
    · rw [finding_of_lost rfl lost]
      rfl
  | answered _ made answered =>
    obtain ⟨-, rfl⟩ := Client.resourceRequest?_eq_some_iff.1 made
    refine reported_singleton ?_ ?_
    · exact failure?_of_response rfl answered (final _ rfl)
    · exact finding_of_response _ rfl answered

/-- A request whose token is rejected neither fails nor finds anything. -/
theorem Sent.reported_cons {response : Response}
    (sent : Sent environment client url token session own (.ok response) after)
    (rejected : response.status = 401)
    (reported : Reported client resource false rest reply) :
    Reported client resource true (own ++ rest) reply := by
  cases sent with
  | answered _ made answered =>
    obtain ⟨-, rfl⟩ := Client.resourceRequest?_eq_some_iff.1 made
    exact .cons (failure?_of_rejected rfl answered rejected)
      (finding_of_rejected rfl answered rejected) reported

/-- The exchanges of a request and its retry report what it ends in. -/
theorem Responded.reported {result : Except Stop Response}
    (responded :
      Responded environment client (client.resourceUrl resource) session own result after) :
    Reported client resource true own (replyOf (client.resourceUrl resource) result) := by
  cases responded with
  | tokenless obtained => exact obtained.reported
  | stopped obtained sent =>
    exact obtained.reported_cons (sent.reported fun _ same => by cases same)
  | @answered _ _ _ response _ _ obtained sent accepted =>
    refine obtained.reported_cons (sent.reported fun other same rejected => ?_)
    obtain rfl := Except.ok.inj same
    exact absurd rejected accepted
  | refused obtained sent rejected login =>
    rw [List.append_assoc]
    exact obtained.reported_cons (sent.reported_cons rejected login.reported)
  | retried obtained sent rejected login resent =>
    rw [List.append_assoc, List.append_assoc]
    exact obtained.reported_cons (sent.reported_cons rejected
      (login.reported_cons (resent.reported fun _ _ _ => rfl)))

end Relations

/-! ### What visits report -/

/-- The first failure of a visit is its last exchange, and the failure of its reply. -/
theorem visit_failure
    (failed : firstFailure? client resource true
      (visit environment client resource session).exchanges = some (error, rest)) :
    rest = [] ∧ ∃ found, (visit environment client resource session).reply = some found ∧
      resource.failure? found = some error := by
  obtain ⟨result, responded, replied⟩ := visit_responded environment client resource session
  rw [replied]
  exact responded.reported.failure error rest failed

/-- The last request of a visit found what its reply says, or nothing if there is none. -/
theorem visit_finding :
    (visit environment client resource session).finding =
      ((visit environment client resource session).reply.map Finding.ofReply).getD .unknown := by
  obtain ⟨result, responded, same⟩ := visit_responded environment client resource session
  rw [same]
  exact responded.reported.finding

/-- If the last request of a visit found a body, that is the reply. -/
theorem reply_of_finding {body : Body}
    (found : (visit environment client resource session).finding = .body body) :
    ∃ url, (visit environment client resource session).reply = some (.ok ⟨url, body⟩) := by
  rw [visit_finding] at found
  generalize (visit environment client resource session).reply = reply at found ⊢
  rcases reply with _ | error | document
  · cases found
  · rw [Option.map_some, Option.getD_some, Finding.ofReply] at found
    split at found <;> cases found
  · cases found
    exact ⟨document.url, rfl⟩

end Session

end RealmLookup
