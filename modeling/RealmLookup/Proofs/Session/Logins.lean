import RealmLookup.Proofs.Session.Drafted
import RealmLookup.Proofs.Url.Form

/-!
# What a login says

The body of a login is the text of a form, and decoding it gives the credentials of the settings,
whatever characters they have: the client, its secret if one is set, and the user if username and
password are set, or else that the client logs in as itself.

## Main definitions

* `Config.SecretFields`, `Config.GrantFields` : the fields of a login that depend on what is set.
* `Config.LoginForm` : the body of a login under settings.
* `Session.LogsIn` : the sessions of which every login has such a body.

## Main results

* `Client.loginForm_of_build` : the login of a client has a body of its settings.
* `Session.logsIn_of_build` : so has every login of a session.
-/

namespace RealmLookup

open RealmLookup.Http RealmLookup.Url RealmLookup.Admin

namespace Config

/-- The field of the secret of a client, if there is one. -/
inductive SecretFields (config : Config) : List (String × String) → Prop
  | set {secret : String} (given : config.clientSecret = some secret) :
      SecretFields config [("client_secret", secret)]
  | unset (absent : config.clientSecret = none) : SecretFields config []

/-- The fields that say who logs in: the user, if username and password are set, and the client
otherwise. -/
inductive GrantFields (config : Config) : List (String × String) → Prop
  | user {username password : String} (named : config.username = some username)
      (known : config.password = some password) :
      GrantFields config
        [("grant_type", "password"), ("username", username), ("password", password)]
  | client (unset : config.username = none ∨ config.password = none) :
      GrantFields config [("grant_type", "client_credentials")]

/-- The body of a login: a form of ASCII characters, and the fields that it decodes to. -/
structure LoginForm (config : Config) (form : List Char) : Prop where
  ascii : ∀ c ∈ form, c.toNat < 0x80
  fields : ∃ secret grant, config.SecretFields secret ∧ config.GrantFields grant ∧
    Form.decode form = ("client_id", config.clientId) :: (secret ++ grant)
  /-- A password is sent exactly if logins use one. -/
  grant : ("grant_type", "password") ∈ Form.decode form ↔ config.usesPasswordGrant = true

variable {config : Config} {secret grant : List (String × String)}

/-- The fields of a login have the type of the grant that is used. -/
theorem mem_loginFields_iff (secretFields : config.SecretFields secret)
    (grantFields : config.GrantFields grant) :
    ("grant_type", "password") ∈ ("client_id", config.clientId) :: (secret ++ grant) ↔
      config.usesPasswordGrant = true := by
  have other : ("grant_type", "password") ∉ secret := by
    cases secretFields <;> simp
  have used : ("grant_type", "password") ∈ grant ↔ config.usesPasswordGrant = true := by
    unfold usesPasswordGrant
    cases grantFields with
    | user named known => simp [named, known]
    | client unset => rcases unset with unset | unset <;> simp [unset]
  rw [← used]
  simp [other]

end Config

namespace Client

variable {config : Config} {client : Client}

theorem BuiltFrom.secretFields (built : BuiltFrom config client) :
    config.SecretFields (client.clientSecret.map (("client_secret", ·))).toList := by
  rw [built.clientSecret]
  cases given : config.clientSecret with
  | none => exact .unset given
  | some secret => exact .set given

theorem BuiltFrom.grantFields (built : BuiltFrom config client) :
    ∃ grant, config.GrantFields grant ∧ client.loginPairs =
      ("client_id", config.clientId) ::
        ((client.clientSecret.map (("client_secret", ·))).toList ++ grant) := by
  rw [← built.clientId, loginPairs]
  cases user : client.user with
  | none =>
    refine ⟨_, .client ?_, rfl⟩
    by_contra set
    simp only [not_or, Option.eq_none_iff_forall_ne_some, not_forall, not_not] at set
    obtain ⟨⟨username, named⟩, password, known⟩ := set
    cases user.symm.trans ((built.user _ _).2 ⟨named, known⟩)
  | some pair =>
    obtain ⟨named, known⟩ := (built.user pair.1 pair.2).1 user
    exact ⟨_, .user named known, rfl⟩

/-- The login of a client has a body of its settings. -/
theorem loginForm_of_build (built : build config = .ok client) :
    ∃ form, client.tokenRequest.body = some form ∧ config.LoginForm form := by
  have built := builtFrom_of_build built
  obtain ⟨grant, grantFields, pairs⟩ := built.grantFields
  have decoded := Form.decode_encode client.loginPairs
  refine ⟨_, rfl, Form.ascii_encode, ⟨_, grant, built.secretFields, grantFields, ?_⟩, ?_⟩
  · rw [decoded, pairs]
  · rw [decoded, pairs]
    exact Config.mem_loginFields_iff built.secretFields grantFields

end Client

namespace Session

variable {config : Config} {client : Client}

/-- The sessions of which every login has a body of the settings. -/
def LogsIn (config : Config) (session : Session) : Prop :=
  ∀ exchange ∈ session.exchanges, exchange.request.method = .post →
    ∃ form, exchange.request.body = some form ∧ config.LoginForm form

theorem logsIn_of_drafts (built : Client.build config = .ok client) {session : Session}
    (drafts : Drafts client session) : LogsIn config session := by
  intro exchange member posts
  rw [(drafts exchange member).eq_tokenRequest posts]
  exact Client.loginForm_of_build built

/-- Every login of a session has a body of its settings, whatever the server answers: the login when
it is started, and those of the plans that it carries out, one after another. -/
theorem logsIn_of_build (environment : Environment) (built : Client.build config = .ok client) :
    LogsIn config (start environment config).2 ∧
      ∀ session, Reached environment config client session → ∀ {α : Type} (plan : Plan α),
        LogsIn config (run environment client plan session).2 :=
  ⟨logsIn_of_drafts built (drafts_start built environment), fun _ reached _ plan =>
    logsIn_of_drafts built (drafts_run environment plan (reached.drafts built))⟩

/-- Settings of a user whose name and password have signs of forms, and letters beyond ASCII. -/
def userConfig : Config :=
  { Client.localConfig with
    username := some "j\u00fcrgen"
    password := some "a&b=c+%d e"
    initialLogin := true }

/-- The client of these settings. -/
def userClient : Client :=
  { Client.localClient with user := some ("j\u00fcrgen", "a&b=c+%d e") }

/-- This client logs in and asks for two roles, of a server whose tokens serve for one request, which
takes a further login; both logins have a body of its settings. -/
theorem logsIn_of_build_userConfig :
    Client.build userConfig = .ok userClient ∧
      LogsIn userConfig (start briefServer userConfig).2 ∧
      LogsIn userConfig
        (run briefServer userClient bothRoles (start briefServer userConfig).2).2 ∧
      statuses (run briefServer userClient bothRoles (start briefServer userConfig).2).2 =
        [(.post, some 200), (.get, some 404), (.get, some 401), (.post, some 200),
          (.get, some 404)] := by
  have built : Client.build userConfig = .ok userClient :=
    Client.build_eq_ok (by decide +kernel)
  have started : (start briefServer userConfig).1 = some (.ok userClient) := by
    decide +kernel
  obtain ⟨opening, later⟩ := logsIn_of_build briefServer built
  exact ⟨built, opening, later _ (.opened started) bothRoles, by decide +kernel⟩

end Session

end RealmLookup
