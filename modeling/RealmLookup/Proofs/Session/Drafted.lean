import RealmLookup.Proofs.Session.Discipline

/-!
# Where requests come from

A session sends nothing but the login of its client and requests for URLs with tokens, as the client
makes them.  A request with a token is made with the one that the latest successful login issued.

## Main definitions

* `Client.Drafted` : the requests that a client makes.
* `Session.Drafts` : the sessions that have sent nothing else.
* `Session.Reached` : the sessions in which a client of settings is used.

## Main results

* `Session.drafts_start`, `Session.drafts_run` : a session sends nothing else, however it is started
  and whatever it carries out.
* `Session.Reached.coherent` : the token of a session in use is the one that its history leaves.
* `Session.latest_of_permitted` : the token of a permitted request is the latest one.
-/

namespace RealmLookup

open RealmLookup.Http RealmLookup.Admin

/-- The requests that a client makes: its login, and requests for URLs with tokens. -/
inductive Client.Drafted (client : Client) : Request → Prop
  | login : Drafted client client.tokenRequest
  | resource {url : Url} {token : String} {request : Request}
      (made : client.resourceRequest? url token = some request) : Drafted client request

/-- What a client posts is its login. -/
theorem Client.Drafted.eq_tokenRequest {client : Client} {request : Request}
    (drafted : client.Drafted request) (posts : request.method = .post) :
    request = client.tokenRequest := by
  cases drafted with
  | login => rfl
  | resource made =>
    obtain ⟨-, rfl⟩ := Client.resourceRequest?_eq_some_iff.1 made
    cases posts

namespace Session

variable {α : Type} {environment : Environment} {client : Client} {session after : Session}
  {own : List Exchange}

/-- The sessions that have sent only requests that a client makes. -/
def Drafts (client : Client) (session : Session) : Prop :=
  ∀ exchange ∈ session.exchanges, client.Drafted exchange.request

/-! ### Steps -/

theorem Login.drafted {result : Except Stop String}
    (login : Login environment client session own result after) :
    ∀ exchange ∈ own, client.Drafted exchange.request := by
  cases login with
  | unsent => exact List.forall_mem_nil _
  | failed | overflow | kept => exact List.forall_mem_singleton.2 .login

theorem Obtained.drafted {found : Except Stop String}
    (obtained : Obtained environment client session own found after) :
    ∀ exchange ∈ own, client.Drafted exchange.request := by
  cases obtained with
  | cached => exact List.forall_mem_nil _
  | requested _ login => exact login.drafted

theorem Sent.drafted {url : Url} {token : String} {result : Except Stop Response}
    (sent : Sent environment client url token session own result after) :
    ∀ exchange ∈ own, client.Drafted exchange.request := by
  cases sent with
  | unsent => exact List.forall_mem_nil _
  | lost _ made | answered _ made => exact List.forall_mem_singleton.2 (.resource made)

/-- Whatever a visit sends is made by its client. -/
theorem Responded.drafted {url : Url} {result : Except Stop Response}
    (responded : Responded environment client url session own result after) :
    ∀ exchange ∈ own, client.Drafted exchange.request := by
  cases responded with
  | tokenless obtained => exact obtained.drafted
  | stopped obtained sent | answered obtained sent =>
    exact List.forall_mem_append.2 ⟨obtained.drafted, sent.drafted⟩
  | refused obtained sent _ login =>
    exact List.forall_mem_append.2
      ⟨List.forall_mem_append.2 ⟨obtained.drafted, sent.drafted⟩, login.drafted⟩
  | retried obtained sent _ login resent =>
    exact List.forall_mem_append.2 ⟨List.forall_mem_append.2
      ⟨List.forall_mem_append.2 ⟨obtained.drafted, sent.drafted⟩, login.drafted⟩, resent.drafted⟩

/-! ### Sessions -/

/-- A session is started with the login of its client at most. -/
theorem drafts_start {config : Config} (built : Client.build config = .ok client)
    (environment : Environment) : Drafts client (start environment config).2 := by
  cases eager : config.initialLogin with
  | false =>
    rw [start_of_lazy environment built eager]
    exact List.forall_mem_nil _
  | true =>
    obtain ⟨own, result, login, -⟩ := start_of_eager environment built eager
    rw [Drafts, login.exchanges]
    exact login.drafted

/-- A plan adds only requests that its client makes. -/
theorem drafts_run (environment : Environment) (plan : Plan α) (drafts : Drafts client session) :
    Drafts client (run environment client plan session).2 := by
  rw [Drafts, run_exchanges]
  refine List.forall_mem_append.2 ⟨drafts, fun exchange member => ?_⟩
  obtain ⟨found, visited, sent⟩ := List.mem_flatMap.1 member
  obtain ⟨result, responded⟩ := responded_of_mem visited
  exact responded.drafted exchange sent

/-! ### Sessions in use -/

/-- The sessions of settings that can carry out a plan: those that were opened, and those that have
carried out plans. -/
inductive Reached (environment : Environment) (config : Config) (client : Client) : Session → Prop
  | opened (started : (start environment config).1 = some (.ok client)) :
      Reached environment config client (start environment config).2
  | carried {α : Type} {session : Session} {plan : Plan α}
      (reached : Reached environment config client session)
      (returned : (run environment client plan session).1.isSome = true) :
      Reached environment config client (run environment client plan session).2

/-- A session that carries out a plan keeps the token of its history, if it can be used further. -/
theorem run_ended (plan : Plan α) (coherent : Coherent environment client session) :
    Recorded client (run environment client plan session).2 ∧
      ((run environment client plan session).1.isSome = true →
        Coherent environment client (run environment client plan session).2) := by
  have weaken (session : Session) (holds : Coherent environment client session) :
      Recorded client session := holds.toRecorded
  exact (visits_induction weaken (fun resource _ => visit_ended resource) plan session coherent).2

section Reached

variable {config : Config} (built : Client.build config = .ok client)
include built

theorem Reached.drafts (reached : Reached environment config client session) :
    Drafts client session := by
  induction reached with
  | opened => exact drafts_start built environment
  | carried _ _ ih => exact drafts_run environment _ ih

/-- A session that is started keeps the token of its history, if it can be used. -/
theorem start_ended (environment : Environment) :
    Recorded client (start environment config).2 ∧
      ((start environment config).1 = some (.ok client) →
        Coherent environment client (start environment config).2) := by
  have fresh : Coherent environment client fresh := coherent_fresh
  cases eager : config.initialLogin with
  | false =>
    rw [start_of_lazy environment built eager]
    exact ⟨fresh.toRecorded, fun _ => fresh⟩
  | true =>
    obtain ⟨own, result, login, outcome⟩ := start_of_eager environment built eager
    obtain ⟨recorded, going⟩ := login.ended fresh
    refine ⟨recorded, fun started => going ?_⟩
    rintro rfl
    rw [outcome] at started
    cases started

theorem Reached.coherent (reached : Reached environment config client session) :
    Coherent environment client session := by
  induction reached with
  | opened started => exact (start_ended built environment).2 started
  | carried _ returned ih => exact (run_ended _ ih).2 returned

end Reached

/-- A permitted request that gets a resource is made with the latest token. -/
theorem latest_of_permitted {realm : String} {earlier : List Exchange} {request : Request}
    (drafted : client.Drafted request) (permitted : Permitted client realm earlier request)
    (gets : request.method = .get) :
    ∃ url token, latestToken earlier = some token ∧
      client.resourceRequest? url token = some request := by
  cases drafted with
  | login => cases gets
  | @resource url token _ made =>
    cases permitted with
    | login posts => cases gets.symm.trans posts
    | @resource latest _ issued bearer =>
      obtain ⟨-, rfl⟩ := Client.resourceRequest?_eq_some_iff.1 made
      rw [Client.authorization_headersWith] at bearer
      obtain ⟨same, -⟩ := List.cons.inj (List.append_cancel_left bearer)
      have same : Header.bearer? ("Bearer " ++ token) = Header.bearer? ("Bearer " ++ latest) :=
        congrArg Header.bearer? (Prod.mk.inj same).2
      rw [Header.bearer?_append, Header.bearer?_append] at same
      exact ⟨url, token, same ▸ issued, made⟩

end Session

end RealmLookup
