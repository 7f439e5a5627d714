import RealmLookup.Proofs.Session.Discipline
import RealmLookup.Proofs.Session.Transparency

/-!
# Steady servers

The answers of a steady server depend on the URLs that are requested alone, whether they are
responses, rejections or faults of the network.  Neither the tokens nor what was sent before can be
seen in what a session makes of it: the value of a run and the URLs that it requests follow from the
plan and from the answers.

## Main definitions

* `Session.Steady` : servers of fixed answers that issue tokens.
* `Session.fixedReply`, `Session.attempts` : the reply of a resource, and the requests for a URL.

## Main results

* `Session.visit_steady` : a visit of a resource has its reply and makes its requests.
* `Session.run_steady`, `Session.fetchedUrls_steady` : the value of a run, and the URLs that it
  requests.
-/

namespace RealmLookup

open RealmLookup.Http RealmLookup.Admin

namespace Session

variable {α : Type} {client : Client} {environment : Environment} {answers : Url → Answer}

/-- A server that issues a token at every login, and whose answer to any other request depends on
its URL alone. -/
structure Steady (client : Client) (environment : Environment) (answers : Url → Answer) : Prop where
  /-- The server can be reached. -/
  opened : client.canSend = true
  issues : Issues client environment
  fixed : ∀ earlier request, request.method = .get →
    environment.network earlier request = answers request.url

/-- The response to the requests for a URL. -/
def fixedResponse (answers : Url → Answer) (url : Url) : Except Client.Error Response :=
  match (answers url.target).response? with
  | some response => .ok response
  | none => .error (.request url.text)

/-- The reply to a resource. -/
def fixedReply (client : Client) (answers : Url → Answer) (resource : Resource) : Reply :=
  (fixedResponse answers (client.resourceUrl resource)).bind
    (replyTo (client.resourceUrl resource))

/-- The requests for a URL: a second one if the first one is rejected. -/
def attempts (answers : Url → Answer) (target : Url) : List Url :=
  match (answers target).response? with
  | some response => if response.status = unauthorized then [target, target] else [target]
  | none => [target]

section Answers

variable {url : Url} {response : Response}

theorem response?_of_ok (same : .ok response = (fixedResponse answers url).mapError Stop.failed) :
    (answers url.target).response? = some response := by
  unfold fixedResponse at same
  cases answered : (answers url.target).response? with
  | none =>
    rw [answered] at same
    cases same
  | some given =>
    rw [answered] at same
    rw [Except.ok.inj same]

theorem response?_of_error {stop : Stop}
    (same : .error stop = (fixedResponse answers url).mapError Stop.failed) :
    (answers url.target).response? = none := by
  unfold fixedResponse at same
  cases answered : (answers url.target).response? with
  | none => rfl
  | some given =>
    rw [answered] at same
    cases same

theorem replyOf_fixedResponse (url : Url) :
    replyOf url ((fixedResponse answers url).mapError .failed) =
      some ((fixedResponse answers url).bind (replyTo url)) := by
  cases fixedResponse answers url <;> rfl

variable {target : Url}

theorem attempts_of_none (lost : (answers target).response? = none) :
    attempts answers target = [target] := by
  rw [attempts, lost]

theorem attempts_of_accepted (answered : (answers target).response? = some response)
    (accepted : response.status ≠ unauthorized) : attempts answers target = [target] := by
  rw [attempts, answered]
  exact if_neg accepted

theorem attempts_of_rejected (answered : (answers target).response? = some response)
    (rejected : response.status = unauthorized) : attempts answers target = [target, target] := by
  rw [attempts, answered]
  exact if_pos rejected

end Answers

/-! ### Steps against such a server -/

section Steps

variable {session after : Session} {own : List Exchange} {url : Url}

theorem requestedUrls_append (first second : List Exchange) :
    requestedUrls (first ++ second) = requestedUrls first ++ requestedUrls second := by
  rw [requestedUrls, List.filter_append, List.map_append]
  rfl

/-- A login requests no resource. -/
theorem Login.requestedUrls {result : Except Stop String}
    (login : Login environment client session own result after) :
    Session.requestedUrls own = [] := by
  cases login <;> rfl

theorem Obtained.requestedUrls {result : Except Stop String}
    (obtained : Obtained environment client session own result after) :
    Session.requestedUrls own = [] := by
  cases obtained with
  | cached => rfl
  | requested _ login => exact login.requestedUrls

theorem Ready.of_token (ready : Ready client session) (same : after.token = session.token) :
    Ready client after := by
  intro token kept
  exact ready token (same.symm.trans kept)

variable (steady : Steady client environment answers)
include steady

/-- A request with a token that can be sent gets the fixed answer. -/
theorem Sent.of_steady {token : String} {result : Except Stop Response}
    (sent : Sent environment client url token session own result after)
    (safe : Header.isValue token = true) :
    result = (fixedResponse answers url).mapError .failed ∧
      Session.requestedUrls own = [url.target] ∧ after.token = session.token := by
  have fixed {request : Request} (made : client.resourceRequest? url token = some request) :
      session.answer environment request = answers url.target ∧
        Session.requestedUrls [session.exchange environment request] = [url.target] := by
    obtain ⟨-, rfl⟩ := Client.resourceRequest?_eq_some_iff.1 made
    exact ⟨steady.fixed _ _ rfl, rfl⟩
  cases sent with
  | unsent blocked =>
    rcases blocked with closed | unmade
    · cases steady.opened.symm.trans closed
    · exact absurd unmade (Client.resourceRequest?_ne_none safe url)
  | lost _ made lost =>
    obtain ⟨same, requests⟩ := fixed made
    rw [same] at lost
    refine ⟨?_, requests, rfl⟩
    rw [fixedResponse, lost]
    rfl
  | answered _ made answered =>
    obtain ⟨same, requests⟩ := fixed made
    rw [same] at answered
    refine ⟨?_, requests, rfl⟩
    rw [fixedResponse, answered]
    rfl

/-- A request and its retry get the fixed answer. -/
theorem Responded.of_steady {result : Except Stop Response}
    (responded : Responded environment client url session own result after)
    (ready : Ready client session) :
    result = (fixedResponse answers url).mapError .failed ∧
      Session.requestedUrls own = attempts answers url.target ∧ Ready client after := by
  cases responded with
  | tokenless obtained =>
    obtain ⟨closed, -⟩ := obtained.unserved steady.issues ready
    cases steady.opened.symm.trans closed
  | stopped obtained sent =>
    obtain ⟨-, safe, kept⟩ := obtained.served steady.issues ready
    obtain ⟨same, requests, token⟩ := sent.of_steady steady safe
    refine ⟨same, ?_, kept.of_token token⟩
    rw [requestedUrls_append, obtained.requestedUrls, requests,
      attempts_of_none (response?_of_error same)]
    rfl
  | answered obtained sent accepted =>
    obtain ⟨-, safe, kept⟩ := obtained.served steady.issues ready
    obtain ⟨same, requests, token⟩ := sent.of_steady steady safe
    refine ⟨same, ?_, kept.of_token token⟩
    rw [requestedUrls_append, obtained.requestedUrls, requests,
      attempts_of_accepted (response?_of_ok same) accepted]
    rfl
  | refused obtained sent rejected login =>
    rcases login.served steady.issues with ⟨closed, -⟩ | ⟨issued, -, given, -⟩
    · cases steady.opened.symm.trans closed
    · cases given
  | retried obtained sent rejected login resent =>
    obtain ⟨-, safe, kept⟩ := obtained.served steady.issues ready
    obtain ⟨first, requests, -⟩ := sent.of_steady steady safe
    rcases login.served steady.issues with ⟨closed, -⟩ | ⟨issued, opened, given, -, renewed, rfl⟩
    · cases steady.opened.symm.trans closed
    obtain rfl := Except.ok.inj given
    obtain ⟨same, repeats, token⟩ := resent.of_steady steady renewed
    refine ⟨same, ?_, fun kept holds => ?_⟩
    · rw [requestedUrls_append, requestedUrls_append, requestedUrls_append,
        obtained.requestedUrls, requests, login.requestedUrls, repeats,
        attempts_of_rejected (response?_of_ok first) rejected]
      rfl
    · obtain rfl := Option.some.inj (token.symm.trans holds)
      exact ⟨opened, renewed⟩

/-- A visit of a resource has its reply and makes its requests. -/
theorem visit_steady (resource : Resource) {session : Session} (ready : Ready client session) :
    (visit environment client resource session).reply =
        some (fixedReply client answers resource) ∧
      Ready client (visit environment client resource session).after ∧
      Session.requestedUrls (visit environment client resource session).exchanges =
        attempts answers (client.resourceUrl resource).target := by
  obtain ⟨result, responded, replied⟩ := visit_responded environment client resource session
  obtain ⟨rfl, requests, kept⟩ := responded.of_steady steady ready
  exact ⟨replied.trans (replyOf_fixedResponse _), kept, requests⟩

end Steps

/-! ### Runs against such a server -/

section Runs

variable (steady : Steady client environment answers)
include steady

/-- A run ends in the value of its plan for the fixed replies. -/
theorem run_steady (plan : Plan α) {session : Session} (ready : Ready client session) :
    (run environment client plan session).1 = some (plan.eval (fixedReply client answers)) ∧
      Ready client (run environment client plan session).2 := by
  refine run_eval_of_visits (fun resource session ready => ?_) plan ready
  obtain ⟨replied, kept, -⟩ := visit_steady steady resource ready
  exact ⟨replied, kept⟩

/-- A run makes the requests for the resources that its plan asks for. -/
theorem fetchedUrls_steady (plan : Plan α) {session : Session} (ready : Ready client session) :
    fetchedUrls environment client plan session =
      (plan.asked (fixedReply client answers)).flatMap fun resource =>
        attempts answers (client.resourceUrl resource).target := by
  rw [fetchedUrls_eq]
  induction plan generalizing session with
  | done value => rfl
  | fetch resource next ih =>
    obtain ⟨replied, kept, requests⟩ := visit_steady steady resource ready
    rw [visits, replied, Plan.asked, List.flatMap_cons, List.flatMap_cons, requestedUrls_append,
      requests, ih _ kept]

end Runs

/-- A server whose tokens last is steady. -/
theorem steady_tokenServer (opened : client.canSend = true) (resources : Url → Response) :
    Steady client (tokenServer true resources) fun url => .response (resources url) where
  opened := opened
  issues _ := ⟨⟨"t", none⟩, issued?_grant, by decide, by simp⟩
  fixed earlier request gets := by
    simp only [tokenServer, gets, Bool.true_or, if_true]

end Session

end RealmLookup
