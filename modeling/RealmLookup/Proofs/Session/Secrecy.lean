import RealmLookup.Proofs.Session.Coupling
import RealmLookup.Proofs.Session.Transparency

/-!
# Secrecy

Secrets flow only where they must.  Two runs that differ in the values of credentials show the same
errors, texts and results, and send the same requests except for the bodies of the logins; two runs
that differ in the tokens that the server issues do so except for the authorization of the requests
that are made with them.

## Main definitions

* `Session.Obscured` : sessions whose requests look alike behind a veil.
* `Session.Indistinct` : settings and servers whose sessions cannot be told apart behind a veil.
* `Session.BodyBlind` : servers that do not read the bodies of requests.

## Main results

* `Session.indistinct_of_alike` : servers that answer alike give sessions that look alike.
* `Session.secrets_confined` : what the values of secrets do not reach.
-/

namespace RealmLookup.Session

open RealmLookup.Http RealmLookup.Admin

/-! ### Sessions behind a veil -/

/-- Sessions whose requests, those attempted and those that arrived, look alike behind a veil. -/
structure Obscured (veil : Request → Request) (session other : Session) : Prop where
  attempted : session.attempted.map veil = other.attempted.map veil
  received : session.received.map veil = other.received.map veil

/-- Two settings, each with a server and a clock, that cannot be told apart behind a veil. -/
structure Indistinct (veil : Request → Request) (environment distant : Environment)
    (config settings : Config) : Prop where
  /-- Opening ends in the same error, or in clients with the same text. -/
  opened : (start environment config).1.map (Except.map Client.describe) =
    (start distant settings).1.map (Except.map Client.describe)
  opening : Obscured veil (start environment config).2 (start distant settings).2
  /-- Whatever is done next, the results are equal. -/
  results : ∀ client twin, (start environment config).1 = some (.ok client) →
    (start distant settings).1 = some (.ok twin) → ∀ plans : List ((α : Type) × Plan α),
      (runEach environment client plans (start environment config).2).1 =
          (runEach distant twin plans (start distant settings).2).1 ∧
        Obscured veil (runEach environment client plans (start environment config).2).2
          (runEach distant twin plans (start distant settings).2).2

section Veils

variable {veil : Request → Request} {environment distant : Environment} {client twin : Client}
  {tokens : Option (String × String)} {session other : Session}

/-- The requests that arrived are those attempted that reached the server. -/
theorem received_eq (session : Session) :
    session.received =
      ((session.attempted.zip session.reached).filter Prod.snd).map Prod.fst := by
  unfold received attempted reached
  induction session.exchanges with
  | nil => rfl
  | cons exchange rest ih =>
    rw [List.map_cons, List.map_cons, List.zip_cons_cons, List.filter_cons, List.filter_cons]
    cases exchange.answer != .unreachable with
    | false => exact ih
    | true => exact congrArg _ ih

/-- The requests that arrived look alike if all do and the same ones arrived. -/
theorem obscured_of_attempted (attempted : session.attempted.map veil = other.attempted.map veil)
    (reached : session.reached = other.reached) : Obscured veil session other where
  attempted := attempted
  received := by
    have veiled (session : Session) : session.received.map veil =
        (((session.attempted.map veil).zip session.reached).filter Prod.snd).map Prod.fst := by
      rw [received_eq, List.zip_map_left, List.filter_map, List.map_map, List.map_map]
      rfl
    rw [veiled, veiled, attempted, reached]

/-- A veil behind which the requests of two clients look alike, each with the token that it was
issued last. -/
structure Veils (veil : Request → Request) (client twin : Client) (network distant : Network) :
    Prop where
  logins : veil client.tokenRequest = veil twin.tokenRequest
  resources : ∀ {earlier others : List Request} {url : Url} {first second : String}
    {request counterpart : Request},
    Parallel client twin network distant earlier others (some (first, second)) →
    client.resourceRequest? url first = some request →
    twin.resourceRequest? url second = some counterpart → veil request = veil counterpart

/-- Behind such a veil histories side by side look alike. -/
theorem Parallel.map_veil {network remote : Network} (veils : Veils veil client twin network remote)
    {earlier others : List Request}
    (parallel : Parallel client twin network remote earlier others tokens) :
    earlier.map veil = others.map veil := by
  induction parallel with
  | fresh => rfl
  | refused _ _ _ ih | issued _ _ _ ih =>
    rw [List.map_append, List.map_append, ih]
    exact congrArg (_ ++ [·]) veils.logins
  | resource parallel made matched ih =>
    rw [List.map_append, List.map_append, ih]
    exact congrArg (_ ++ [·]) (veils.resources parallel made matched)

theorem Logged.obscured (veils : Veils veil client twin environment.network distant.network)
    (logged : Logged environment distant client twin tokens session other) :
    Obscured veil session other :=
  obscured_of_attempted (logged.parallel.map_veil veils) logged.reached

/-- Settings that give no client for the same reason cannot be told apart. -/
theorem indistinct_of_error {config settings : Config} {error : Client.Error}
    (refused : Client.build config = .error error) (denied : Client.build settings = .error error) :
    Indistinct veil environment distant config settings := by
  have started : start environment config = (some (.error error), fresh) := by
    rw [start, refused]
  have opened : start distant settings = (some (.error error), fresh) := by
    rw [start, denied]
  constructor
  · rw [started, opened]
  · rw [started, opened]
    exact ⟨rfl, rfl⟩
  · intro client twin built
    rw [started] at built
    cases built

/-- Servers that answer alike give sessions that cannot be told apart. -/
theorem indistinct_of_alike {config settings : Config} (built : Client.build config = .ok client)
    (matched : Client.build settings = .ok twin) (agree : client.Agree twin)
    (eagerness : config.initialLogin = settings.initialLogin)
    (clocks : environment.clock = distant.clock)
    (alike : Alike client twin environment.network distant.network)
    (veils : Veils veil client twin environment.network distant.network) :
    Indistinct veil environment distant config settings := by
  have together := start_coupled alike agree clocks built matched eagerness
  rcases first : start environment config with ⟨opened, session⟩
  rcases second : start distant settings with ⟨counterpart, other⟩
  rw [first, second] at together
  obtain ⟨tokens, logged⟩ := together.logged
  constructor
  · rw [first, second]
    cases together with
    | ended same =>
      rcases same with ⟨rfl, rfl⟩ | ⟨error, rfl, rfl⟩
      · exact congrArg (fun text => some (Except.ok text)) agree.describe
      · rfl
    | stopped => rfl
  · rw [first, second]
    exact logged.obscured veils
  · rw [first, second]
    rintro found image given given' plans
    obtain rfl : opened = some (.ok found) := given
    obtain rfl : counterpart = some (.ok image) := given'
    cases together with
    | ended same twins =>
      obtain ⟨same, same'⟩ | ⟨error, same, -⟩ := same
      · obtain rfl := Except.ok.inj same
        obtain rfl := Except.ok.inj same'
        obtain ⟨results, tokens, logged⟩ := runEach_coupled alike agree clocks plans twins
        exact ⟨results, logged.obscured veils⟩
      · cases same

end Veils

/-! ### Credentials -/

section Credentials

/-- Servers whose answers do not depend on the bodies of requests. -/
def BodyBlind (network : Network) : Prop :=
  ∀ earlier others request counterpart,
    earlier.map Request.withoutBody = others.map Request.withoutBody →
    request.withoutBody = counterpart.withoutBody →
      network earlier request = network others counterpart

variable {client twin : Client} {network : Network} {tokens : Option (String × String)}
  (agree : client.Agree twin) (blind : BodyBlind network)
include agree blind

/-- A server that does not read bodies issues equal tokens to sessions side by side. -/
theorem Parallel.of_bodyBlind {earlier others : List Request}
    (parallel : Parallel client twin network network earlier others tokens) :
    earlier.map Request.withoutBody = others.map Request.withoutBody ∧
      ∀ first second, tokens = some (first, second) → first = second := by
  have logins : client.tokenRequest.withoutBody = twin.tokenRequest.withoutBody :=
    agree.congr (fun client => client.tokenRequest.withoutBody) fun _ => rfl
  induction parallel with
  | fresh => exact ⟨rfl, by rintro _ _ ⟨⟩⟩
  | refused _ _ _ ih =>
    refine ⟨?_, ih.2⟩
    rw [List.map_append, List.map_append, ih.1, List.map_singleton, List.map_singleton, logins]
  | issued _ issues grants ih =>
    refine ⟨?_, ?_⟩
    · rw [List.map_append, List.map_append, ih.1, List.map_singleton, List.map_singleton, logins]
    · rintro _ _ ⟨⟩
      rw [blind _ _ _ _ ih.1 logins] at issues
      rw [Option.some.inj (issues.symm.trans grants)]
  | resource _ made matched ih =>
    refine ⟨?_, ih.2⟩
    obtain rfl := ih.2 _ _ rfl
    rw [agree.resourceRequest?] at made
    obtain rfl := Option.some.inj (made.symm.trans matched)
    rw [List.map_append, List.map_append, ih.1]

/-- A server that does not read bodies answers alike. -/
theorem alike_of_bodyBlind : Alike client twin network network where
  logins parallel := by
    have logins : client.tokenRequest.withoutBody = twin.tokenRequest.withoutBody :=
      agree.congr (fun client => client.tokenRequest.withoutBody) fun _ => rfl
    rw [blind _ _ _ _ (parallel.of_bodyBlind agree blind).1 logins]
    exact .same _
  resources parallel made matched := by
    obtain ⟨histories, same⟩ := parallel.of_bodyBlind agree blind
    obtain rfl := same _ _ rfl
    rw [agree.resourceRequest?] at made
    obtain rfl := Option.some.inj (made.symm.trans matched)
    exact blind _ _ _ _ histories rfl

/-- Without the bodies of the logins the requests are equal. -/
theorem veils_of_bodyBlind : Veils Request.withoutLoginBody client twin network network where
  logins := agree.withoutLoginBody_tokenRequest
  resources parallel made matched := by
    obtain rfl := (parallel.of_bodyBlind agree blind).2 _ _ rfl
    rw [agree.resourceRequest?] at made
    rw [Option.some.inj (made.symm.trans matched)]

end Credentials

/-! ### Tokens -/

/-- Without the values of their authorization the requests with different tokens are equal. -/
theorem veils_of_alike {client : Client} {network distant : Network}
    (alike : Alike client client network distant) :
    Veils Request.withoutAuthorization client client network distant where
  logins := rfl
  resources {_ _ url _ _ _ _} parallel made matched := by
    have shown := Client.withoutAuthorization_resourceRequest? client url
      (parallel.isValue_eq alike _ _ rfl)
    rw [made, matched] at shown
    exact Option.some.inj shown

/-! ### Where secrets flow -/

/-- The text of settings shows no secret.  The values of the client secret and of the password reach
nothing but the bodies of the logins, and the tokens that a server issues reach nothing but the
authorization of requests for resources. -/
theorem secrets_confined :
    (∀ config other : Config, config.blankSecrets = other.blankSecrets →
      config.describe = other.describe) ∧
    (∀ (environment : Environment) (config other : Config),
      config.blankCredentials = other.blankCredentials → BodyBlind environment.network →
        Indistinct Request.withoutLoginBody environment environment config other) ∧
    ∀ (environment distant : Environment) (config : Config),
      environment.clock = distant.clock →
      (∀ client, Client.build config = .ok client →
        Alike client client environment.network distant.network) →
        Indistinct Request.withoutAuthorization environment distant config config := by
  refine ⟨fun config other same => ?_, fun environment config other same blind => ?_,
    fun environment distant config clocks alike => ?_⟩
  · rw [← config.describe_blankSecrets, same, other.describe_blankSecrets]
  · have eagerness : config.blankCredentials.initialLogin = other.blankCredentials.initialLogin :=
      congrArg Config.initialLogin same
    rcases Client.build_of_blankCredentials same with
      ⟨error, refused, denied⟩ | ⟨client, twin, built, matched, agree⟩
    · exact indistinct_of_error refused denied
    · exact indistinct_of_alike built matched agree eagerness rfl
        (alike_of_bodyBlind agree blind) (veils_of_bodyBlind agree blind)
  · cases built : Client.build config with
    | error error => exact indistinct_of_error built built
    | ok client =>
      exact indistinct_of_alike built built rfl rfl clocks (alike client built)
        (veils_of_alike (alike client built))

/-! ### Settings with another secret, and servers with other tokens -/

/-- The settings of the local host with another secret. -/
def rotatedConfig : Config :=
  { Client.localConfig with clientSecret := some "rotated" }

theorem bodyBlind_tokenServer (resources : Url → Response) :
    BodyBlind (tokenServer true resources).network := by
  intro earlier others request counterpart _ same
  have method : request.withoutBody.method = counterpart.withoutBody.method := by rw [same]
  have url : request.withoutBody.url = counterpart.withoutBody.url := by rw [same]
  replace method : request.method = counterpart.method := method
  replace url : request.url = counterpart.url := url
  rw [tokenServer]
  dsimp only
  rw [method, url]
  rfl

/-- The answer to a login that issues another token. -/
def renewal : Answer :=
  .response ⟨200, .complete (Text.Utf8.encode "\x7b\"access_token\":\"u\"\x7d".toList)⟩

theorem issued?_renewal : issued? renewal = some ⟨"u", none⟩ := by decide +kernel

/-- A server without resources that answers every login alike, and rejects any token but one. -/
def guardedServer (login : Answer) (token : String) : Environment where
  network _ request :=
    match request.method with
    | .post => login
    | .get =>
        if request.bearer? = some token then .response ⟨404, .complete []⟩
        else .response ⟨401, .complete []⟩
  clock := id

theorem clock_guardedServer (login : Answer) (token : String) :
    (guardedServer login token).clock = id := rfl

section Guarded

variable {client : Client} {login renewal : Answer} {token renewed : String}
  (issues : issued? login = some ⟨token, none⟩) (grants : issued? renewal = some ⟨renewed, none⟩)
include issues grants

/-- Sessions side by side have the token that each of two such servers issues. -/
theorem Parallel.of_guardedServer {earlier others : List Request}
    {tokens : Option (String × String)}
    (parallel : Parallel client client (guardedServer login token).network
      (guardedServer renewal renewed).network earlier others tokens) :
    ∀ first second, tokens = some (first, second) → first = token ∧ second = renewed := by
  induction parallel with
  | fresh => rintro _ _ ⟨⟩
  | refused _ _ _ ih => exact ih
  | issued _ gives deals =>
    rintro _ _ ⟨⟩
    obtain rfl := Option.some.inj (issues.symm.trans gives)
    obtain rfl := Option.some.inj (grants.symm.trans deals)
    exact ⟨rfl, rfl⟩
  | resource _ _ _ ih => exact ih

/-- Such servers answer alike. -/
theorem alike_guardedServer (safe : Header.isValue token = true)
    (sound : Header.isValue renewed = true) :
    Alike client client (guardedServer login token).network
      (guardedServer renewal renewed).network where
  logins _ := .issued issues grants rfl safe sound
  resources parallel made matched := by
    obtain ⟨rfl, rfl⟩ := parallel.of_guardedServer issues grants _ _ rfl
    have presents := Client.bearer?_of_resourceRequest? made
    have shows := Client.bearer?_of_resourceRequest? matched
    obtain ⟨-, rfl⟩ := Client.resourceRequest?_eq_some_iff.1 made
    obtain ⟨-, rfl⟩ := Client.resourceRequest?_eq_some_iff.1 matched
    rw [guardedServer, guardedServer]
    dsimp only
    rw [if_pos presents, if_pos shows]

end Guarded

/-- The client of the local host with another secret, and with a server that issues another token
and accepts no other one. -/
theorem secrets_confined_localConfig :
    (Client.localConfig.blankCredentials = rotatedConfig.blankCredentials ∧
      BodyBlind (tokenServer true missing).network ∧
      Indistinct Request.withoutLoginBody (tokenServer true missing) (tokenServer true missing)
        Client.localConfig rotatedConfig) ∧
    (∀ client, Client.build Client.localConfig = .ok client →
      Alike client client (guardedServer grant "t").network (guardedServer renewal "u").network) ∧
    Indistinct Request.withoutAuthorization (guardedServer grant "t") (guardedServer renewal "u")
      Client.localConfig Client.localConfig := by
  have alike (client : Client) : Alike client client (guardedServer grant "t").network
      (guardedServer renewal "u").network :=
    alike_guardedServer issued?_grant issued?_renewal (by decide) (by decide)
  obtain ⟨-, credentials, tokens⟩ := secrets_confined
  refine ⟨⟨rfl, bodyBlind_tokenServer missing, ?_⟩, fun client _ => alike client, ?_⟩
  · exact credentials _ Client.localConfig rotatedConfig rfl (bodyBlind_tokenServer missing)
  · exact tokens _ _ Client.localConfig
      ((clock_guardedServer grant "t").trans (clock_guardedServer renewal "u").symm)
      fun client _ => alike client

end RealmLookup.Session
