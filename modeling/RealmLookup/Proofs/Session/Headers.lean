import RealmLookup.Proofs.Client.Headers
import RealmLookup.Proofs.Session.Drafted

/-!
# The headers of a session

Every request of a session has the headers of its settings, whatever it is sent for.  Only the token
of a request for a resource and the form of a login stand before them, and the defaults behind them.

## Main definitions

* `Session.OwnHeaders` : the headers that a request sets itself, after a history.
* `Session.Headed` : the sessions all of whose requests have the headers of a table.

## Main results

* `Session.headers_of_build` : which tables are refused, and that the requests of a session have the
  headers of the others.
* `Session.build_not_ascii` : values of headers need not be ASCII.
-/

namespace RealmLookup.Session

open RealmLookup.Http RealmLookup.Http.Header RealmLookup.Admin

/-- The headers that a request sets itself: what the body of a login is, and the latest token of any
other request. -/
inductive OwnHeaders (earlier : List Exchange) (request : Request) : List (String × String) → Prop
  | login (posts : request.method = .post) :
      OwnHeaders earlier request [("content-type", "application/x-www-form-urlencoded")]
  | resource {token : String} (gets : request.method = .get)
      (latest : latestToken earlier = some token) :
      OwnHeaders earlier request [("authorization", "Bearer " ++ token)]

/-- The sessions all of whose requests have the headers of a table, but for their own ones. -/
def Headed (table : Table String) (session : Session) : Prop :=
  ∀ earlier exchange later, session.exchanges = earlier ++ exchange :: later →
    ∃ own, OwnHeaders earlier exchange.request own ∧
      Client.Carries own table exchange.request.headers

variable {config : Config} {client : Client} {session : Session}

/-- What a client drafts with the latest token has the headers of its settings. -/
theorem headed_of_recorded (sorted : config.additionalHeaders.Sorted)
    (built : Client.build config = .ok client) (nobody : client.baseCredentials = [])
    (drafts : Drafts client session) (recorded : Recorded client session) :
    Headed config.additionalHeaders session := by
  intro earlier exchange later split
  have collected := (Client.builtFrom_of_build built).headers
  have drafted := drafts exchange (split ▸ List.mem_append_right _ List.mem_cons_self)
  cases method : exchange.request.method with
  | post =>
    refine ⟨_, .login method, ?_⟩
    rw [drafted.eq_tokenRequest method]
    exact Client.carries_tokenRequest sorted collected nobody
  | get =>
    obtain ⟨url, token, latest, made⟩ :=
      latest_of_permitted drafted (recorded.permitted earlier exchange later split) method
    exact ⟨_, .resource method latest, Client.carries_resourceRequest sorted collected nobody made⟩

/-- Settings with an entry that is no header are refused, and the first such entry is reported.
All requests of a session of other settings have their headers, if the server is named without a
user. -/
theorem headers_of_build {base : Url} (parsed : Url.parse config.serverUrl.toList = .ok base)
    (usable : base.isBase = true) (sorted : config.additionalHeaders.Sorted) :
    ((∃ name, Client.build config = .error (.invalidHeader name)) ↔
      ∃ entry ∈ config.additionalHeaders, ¬ Valid entry) ∧
    (∀ name, Client.build config = .error (.invalidHeader name) ↔
      FirstInvalid config.additionalHeaders name) ∧
    (base.username = [] → base.password = [] → ∀ client, Client.build config = .ok client →
      ∀ environment, Headed config.additionalHeaders (start environment config).2 ∧
        ∀ session, Reached environment config client session → ∀ {α : Type} (plan : Plan α),
          Headed config.additionalHeaders (run environment client plan session).2) := by
  have reported (name : String) : Client.build config = .error (.invalidHeader name) ↔
      FirstInvalid config.additionalHeaders name :=
    Client.build_eq_invalidHeader_iff parsed usable sorted
  refine ⟨?_, reported, fun username password client built environment => ?_⟩
  · simp only [reported]
    exact Client.exists_firstInvalid sorted
  · obtain rfl : base = client.base :=
      Except.ok.inj (parsed.symm.trans (Client.builtFrom_of_build built).base)
    have nobody := Client.baseCredentials_eq_nil username password
    refine ⟨?_, fun session reached α plan => ?_⟩
    · exact headed_of_recorded sorted built nobody (drafts_start built environment)
        (start_ended built environment).1
    · exact headed_of_recorded sorted built nobody
        (drafts_run environment plan (reached.drafts built))
        (run_ended plan (reached.coherent built)).1

/-- Settings with additional headers. -/
def headedConfig (table : Table String) : Config :=
  { Client.localConfig with additionalHeaders := table, initialLogin := true }

theorem parse_headedConfig (table : Table String) :
    Url.parse (headedConfig table).serverUrl.toList = .ok Client.localClient.base :=
  (Client.builtFrom_of_build Client.build_localConfig).base

/-- A header that has a default, and two spellings of another one. -/
def headedTable : Table String :=
  [("Accept", "text/plain"), ("X-A", "1"), ("x-a", "2")]

/-- The client of these settings. -/
def headedClient : Client :=
  { Client.localClient with headers := [("accept", "text/plain"), ("x-a", "2")] }

/-- This client logs in and asks for two roles, of a server whose tokens serve for one request; its
requests have the headers of its settings. -/
theorem headers_of_build_headedTable :
    (headedConfig headedTable).additionalHeaders.Sorted ∧
      Client.build (headedConfig headedTable) = .ok headedClient ∧
      (¬ ∃ entry ∈ headedTable, ¬ Valid entry) ∧
      Headed headedTable (start briefServer (headedConfig headedTable)).2 ∧
      Headed headedTable
        (run briefServer headedClient bothRoles (start briefServer (headedConfig headedTable)).2).2 ∧
      statuses (run briefServer headedClient bothRoles
          (start briefServer (headedConfig headedTable)).2).2 =
        [(.post, some 200), (.get, some 404), (.get, some 401), (.post, some 200),
          (.get, some 404)] := by
  have sorted : (headedConfig headedTable).additionalHeaders.Sorted := by
    show List.Pairwise (· < ·) ["Accept", "X-A", "x-a"]
    decide
  have built : Client.build (headedConfig headedTable) = .ok headedClient :=
    Client.build_eq_ok (by decide +kernel)
  have started : (start briefServer (headedConfig headedTable)).1 = some (.ok headedClient) := by
    decide +kernel
  obtain ⟨refused, -, headed⟩ := headers_of_build (parse_headedConfig headedTable) rfl sorted
  obtain ⟨opening, later⟩ := headed rfl rfl headedClient built briefServer
  refine ⟨sorted, built, fun invalid => ?_, opening, later _ (.opened started) bothRoles,
    by decide +kernel⟩
  obtain ⟨name, refusal⟩ := refused.2 invalid
  cases refusal.symm.trans built

/-- A header whose value is not ASCII is no reason to refuse settings. -/
theorem build_not_ascii :
    ¬ ∀ config base, Url.parse (Config.serverUrl config).toList = .ok base → base.isBase = true →
      config.additionalHeaders.Sorted →
        ((∃ name, Client.build config = .error (.invalidHeader name)) ↔
          ∃ entry ∈ config.additionalHeaders, ¬ ValidName entry.1 ∨
            ∃ c ∈ entry.2.toList, c ≠ '\t' ∧ ¬ (0x20 ≤ c.toNat ∧ c.toNat < 0x7F)) := by
  intro refused
  have accepted :
      (Client.build (headedConfig [("X-A", "\u00e9")])).toOption.isSome = true := by
    decide +kernel
  have sorted : Table.Sorted [("X-A", "\u00e9")] := List.pairwise_singleton _ _
  obtain ⟨name, refusal⟩ := (refused (headedConfig [("X-A", "\u00e9")]) _ (parse_headedConfig _)
    rfl sorted).2 ⟨_, List.mem_cons_self, .inr ⟨'é', by decide, by decide, by decide⟩⟩
  rw [refusal] at accepted
  cases accepted

end RealmLookup.Session
