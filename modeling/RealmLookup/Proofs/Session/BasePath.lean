import RealmLookup.Proofs.Client.BasePath
import RealmLookup.Proofs.Lookup.Composition
import RealmLookup.Proofs.Session.Drafted
import RealmLookup.Proofs.Session.Isolation

/-!
# Requests below the base path

Everything that is sent under settings with a base path of names is sent to their server, below its
path and the names: logins to the realms, other requests to the realms of the admin API.  The server
is a text that a path can be written behind, and neither the realm nor a part of a resource climbs.
Both conditions are needed, as the settings are joined before they are read as a URL.

## Main definitions

* `Session.Confined` : where a plan sends its requests.
* `Session.Based` : where the requests of settings with a base path are sent.

## Main results

* `Session.based_of_build` : all requests are sent below the base path.
* `Session.build_not_based` : servers behind which a path cannot be written.
-/

namespace RealmLookup

open RealmLookup.Admin RealmLookup.Http RealmLookup.Url

namespace Session

variable {α : Type} {environment : Environment} {client : Client}

/-! ### Plans below the base path -/

/-- Where a plan sends its requests: logins go to the realms, fetches to the realms of the admin
API, both at the server of a URL, below its path and names. -/
structure Confined (environment : Environment) (client : Client) (base : Url)
    (names : List (List Char)) (plan : Plan α) (session : Session) : Prop where
  /-- Nothing is sent but the requests of the visits. -/
  exchanges : (run environment client plan session).2.exchanges =
    session.exchanges ++ (visits environment client plan session).flatMap Visit.exchanges
  logins : ¬ climbs client.realm →
    ∀ found ∈ visits environment client plan session, ∀ exchange ∈ found.exchanges,
      exchange.request.method = .post → Below base names "/realms/" exchange.request.url
  fetches : ∀ found ∈ visits environment client plan session,
    (∀ text ∈ found.resource.path, ¬ climbs text) → ∀ exchange ∈ found.exchanges,
      exchange.request.method = .get → Below base names "/admin/realms/" exchange.request.url

/-- Plans for resources of endpoints keep below the base path of their client. -/
theorem confined_of_prefixed {alone : Client} {names : List (List Char)}
    (behind : client.canSend = true → client.Prefixed alone names) {plan : Plan α}
    (asks : plan.Asks Resource.Named) (session : Session) :
    Confined environment client alone.base names plan session := by
  have opened {found : Visit} (member : found ∈ visits environment client plan session)
      {exchange : Exchange} (sent : exchange ∈ found.exchanges) : client.canSend = true := by
    obtain ⟨result, responded⟩ := responded_of_mem member
    cases closed : client.canSend with
    | true => rfl
    | false =>
      rw [responded.own_of_closed closed] at sent
      cases sent
  refine ⟨run_exchanges environment client plan session,
    fun stays found member exchange sent posts => ?_,
    fun found member stay exchange sent gets => ?_⟩
  · obtain ⟨result, responded⟩ := responded_of_mem member
    rw [(responded.drafted exchange sent).eq_tokenRequest posts]
    exact (behind (opened member sent)).tokenUrl_below stays
  · obtain ⟨result, responded⟩ := responded_of_mem member
    rw [responded.leads.fetches sent gets]
    exact (behind (opened member sent)).resourceUrl_below stay (allowed_of_visits asks member).moves

/-! ### Settings with a base path -/

/-- Where the requests of settings with a base path are sent: the login when a client is opened, and
whatever it is asked for later. -/
structure Based (environment : Environment) (config : Config) (client : Client) (base : Url)
    (names : List (List Char)) : Prop where
  /-- The path of the server counts without slashes at its end, unless it ends with two. -/
  server : (∀ front, base.renderPath ≠ front ++ ['/', '/']) →
    withoutSlash base.renderPath = Text.trimEnd (· == '/') base.renderPath
  opening : ¬ climbs config.realm → ∀ exchange ∈ (start environment config).2.exchanges,
    exchange.request.method = .post ∧ Below base names "/realms/" exchange.request.url
  plans : ∀ {α : Type} (plan : Plan α), plan.Asks Resource.Named → ∀ session,
    Confined environment client base names plan session
  lookups : ∀ (kind : Kind) (externalName : String) (params : Parameters) (session : Session),
    Confined environment client base names (kind.resolve externalName params) session
  objects : ∀ (address : Address) (session : Session),
    Confined environment client base names address.fetch session

variable {config : Config} {names : List (List Char)}

/-- The login of an opened client is sent below its base path. -/
theorem below_of_start {alone : Client} (built : Client.build config = .ok client)
    (behind : client.canSend = true → client.Prefixed alone names)
    (stays : ¬ climbs config.realm) {exchange : Exchange}
    (member : exchange ∈ (start environment config).2.exchanges) :
    exchange.request.method = .post ∧ Below alone.base names "/realms/" exchange.request.url := by
  cases eager : config.initialLogin with
  | false =>
    rw [start_of_lazy environment built eager] at member
    cases member
  | true =>
    obtain ⟨own, result, login, -⟩ := start_of_eager environment built eager
    have sends : (start environment config).2.exchanges = own := login.exchanges
    rw [sends] at member
    rw [← Client.realm_of_build built] at stays
    cases sendable : client.canSend with
    | false =>
      rw [(login.of_closed sendable).1] at member
      cases member
    | true =>
      obtain ⟨sent, rfl, same⟩ := login.own_of_opened sendable
      rw [List.mem_singleton.1 member, same]
      exact ⟨rfl, (behind sendable).tokenUrl_below stays⟩

/-- If settings with a base path of names give a client, so do the settings of the server alone, and
all requests are sent to the server, below its path and the names. -/
theorem based_of_build (path : config.HasNames names) (joinable : Joinable config.server)
    (built : Client.build config = .ok client) :
    ∃ alone, Client.build config.withoutBasePath = .ok alone ∧
      ∀ environment, Based environment config client alone.base names := by
  obtain ⟨alone, single, behind⟩ := Client.build_withoutBasePath path joinable built
  exact ⟨alone, single, fun environment =>
    ⟨withoutSlash_eq_trimEnd, fun stays exchange => below_of_start built behind stays,
      fun plan asks session => confined_of_prefixed behind asks session,
      fun kind externalName params session =>
        confined_of_prefixed behind (kind.asks_resolve externalName params) session,
      fun address session => confined_of_prefixed behind address.asks_fetch session⟩⟩

/-! ### A base path of one name -/

/-- A server with a base path of one name, with slashes around it. -/
def joinedConfig (url : String) : Config :=
  { Client.localConfig with url := url, basePath := "/auth/", initialLogin := true }

theorem hasNames_joinedConfig (url : String) : (joinedConfig url).HasNames ["auth".toList] := by
  refine ⟨by decide, by decide, 1, 1, ?_⟩
  show "/auth/".toList = _
  decide

/-- The client of a server with a path, behind which the base path is written. -/
def joinedClient : Client :=
  { Client.localClient with
    base :=
      { Client.localClient.base with
        host := some (.name ['h']), port := none, path := .inl ["kc".toList, "auth".toList] } }

/-- The login to a server with a path, whose settings end with a slash. -/
theorem based_of_build_joinedConfig :
    (joinedConfig "http://h/kc/").HasNames ["auth".toList] ∧
      Joinable (joinedConfig "http://h/kc/").server ∧
        Client.build (joinedConfig "http://h/kc/") = .ok joinedClient ∧
          ∃ alone, Client.build (joinedConfig "http://h/kc/").withoutBasePath = .ok alone ∧
            Based ⟨.unreachable, id⟩ (joinedConfig "http://h/kc/") joinedClient alone.base
              ["auth".toList] := by
  have path := hasNames_joinedConfig "http://h/kc/"
  have joinable : Joinable (joinedConfig "http://h/kc/").server := by decide
  have built : Client.build (joinedConfig "http://h/kc/") = .ok joinedClient := by
    have found : (Client.build (joinedConfig "http://h/kc/")).toOption = some joinedClient := by
      decide +kernel
    revert found
    cases Client.build (joinedConfig "http://h/kc/") <;> simp [Except.toOption]
  obtain ⟨alone, single, based⟩ := based_of_build path joinable built
  exact ⟨path, joinable, built, alone, single, based _⟩

/-- A base path makes a host of a server that is nothing but a scheme, and lands in the query of a
server that has one. -/
theorem build_not_based :
    (¬ ∀ config names client, Config.HasNames config names → Client.build config = .ok client →
        ∃ alone, Client.build config.withoutBasePath = .ok alone) ∧
      ¬ ∀ config names client alone, Config.HasNames config names →
        Client.build config = .ok client → Client.build config.withoutBasePath = .ok alone →
          Below alone.base names "/realms/" client.tokenUrl.target := by
  constructor
  · intro usable
    have joined : (Client.build (joinedConfig "http://")).toOption.isSome = true := by
      decide +kernel
    have single : (Client.build (joinedConfig "http://").withoutBasePath).toOption = none := by
      decide +kernel
    cases built : Client.build (joinedConfig "http://") with
    | error error =>
      rw [built] at joined
      cases joined
    | ok client =>
      obtain ⟨alone, found⟩ := usable _ _ client (hasNames_joinedConfig _) built
      rw [found] at single
      cases single
  · intro below
    have joined : (Client.build (joinedConfig "http://h?x")).toOption.map
        (fun client => client.tokenUrl.target.renderPath.take 12) =
          some "/realms/mast".toList := by
      decide +kernel
    have single : (Client.build (joinedConfig "http://h?x").withoutBasePath).toOption.map
        (fun client => withoutSlash client.base.renderPath) = some [] := by
      decide +kernel
    cases built : Client.build (joinedConfig "http://h?x") with
    | error error =>
      rw [built] at joined
      cases joined
    | ok client =>
      cases found : Client.build (joinedConfig "http://h?x").withoutBasePath with
      | error error =>
        rw [found] at single
        cases single
      | ok alone =>
        obtain ⟨more, path⟩ := (below _ _ client alone (hasNames_joinedConfig _) built found).path
        rw [built] at joined
        rw [found] at single
        replace joined := Option.some.inj joined
        replace single := Option.some.inj single
        dsimp only at joined single
        rw [path, single] at joined
        cases joined

end Session

end RealmLookup
