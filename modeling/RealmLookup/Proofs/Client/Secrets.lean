import RealmLookup.Proofs.Client.Requests

/-!
# The secrets of settings

Settings without the values of their secrets, and what of a client and its requests is determined
by them.  The secrets of a client reach nothing but the body of a login, and an access token reaches
nothing but the authorization of the request that is made with it.

## Main definitions

* `Config.blankSecrets`, `Config.blankCredentials` : settings without the values of all secrets, and
  without the client secret and the password.
* `Client.blankCredentials` : a client without the values of its credentials.
* `Http.Request.withoutBody`, `Http.Request.withoutLoginBody`, `Http.Request.withoutAuthorization` :
  requests without their body, or without the value of their authorization.

## Main results

* `Config.describe_blankSecrets` : the text of settings shows no secret.
* `Client.build_blankCredentials` : whether a client is built does not depend on its credentials.
* `Client.Agree` : the parts of clients that credentials do not reach.
* `Client.withoutAuthorization_resourceRequest?` : a token reaches nothing but the authorization.
-/

namespace RealmLookup

open RealmLookup.Http

/-! ### Settings -/

namespace Config

/-- A secret without its value; whether it is set remains. -/
def blank (secret : Option String) : Option String :=
  secret.map fun _ => ""

/-- Settings without the values of the client secret and the password. -/
def blankCredentials (config : Config) : Config :=
  { config with
    clientSecret := blank config.clientSecret
    password := blank config.password }

/-- Settings without the values of their secrets; the names of the headers remain. -/
def blankSecrets (config : Config) : Config :=
  { config.blankCredentials with
    rootCertificate := blank config.rootCertificate
    additionalHeaders := config.additionalHeaders.mapValues fun _ => "" }

/-- The text of settings is the one of the settings without their secrets. -/
theorem describe_blankSecrets (config : Config) :
    config.blankSecrets.describe = config.describe := by
  have names : (config.additionalHeaders.mapValues fun _ => "").keys =
      config.additionalHeaders.keys := by
    rw [Table.mapValues, Table.keys, List.map_map]
    rfl
  have masked (secret : Option String) :
      (blank secret).map (fun _ => "<redacted>") = secret.map fun _ => "<redacted>" :=
    Option.map_map ..
  have set : (blank config.rootCertificate).isSome = config.rootCertificate.isSome :=
    Option.isSome_map
  unfold describe
  simp only [blankSecrets, blankCredentials, names, masked, set]

end Config

/-! ### Clients -/

namespace Client

/-- A client without the values of its secret and its password. -/
def blankCredentials (client : Client) : Client :=
  { client with
    clientSecret := Config.blank client.clientSecret
    user := client.user.map fun (username, _) => (username, "") }

/-- Whether there is a client, and its error if there is none, does not depend on credentials. -/
theorem build_blankCredentials (config : Config) :
    build config.blankCredentials = (build config).map blankCredentials := by
  unfold build
  rw [show config.blankCredentials.serverUrl = config.serverUrl from rfl,
    show config.blankCredentials.additionalHeaders = config.additionalHeaders from rfl,
    show config.blankCredentials.skipVerification = config.skipVerification from rfl,
    show config.blankCredentials.rootCertificate = config.rootCertificate from rfl]
  cases Url.parse config.serverUrl.toList with
  | error cause => rfl
  | ok base =>
    dsimp only
    cases base.isBase with
    | false => rfl
    | true =>
      cases Header.collect config.additionalHeaders with
      | error name => rfl
      | ok headers =>
        cases !config.skipVerification && !config.rootCertificate.all Certificate.isUsable with
        | true => rfl
        | false =>
          refine congrArg Except.ok ?_
          unfold blankCredentials Config.blankCredentials
          cases config.username <;> cases config.password <;> rfl

/-- Clients that differ in the values of their credentials alone. -/
def Agree (client other : Client) : Prop :=
  client.blankCredentials = other.blankCredentials

section Agreement

variable {client other : Client} (agree : client.Agree other)
include agree

/-- What does not read the credentials is equal for both clients. -/
theorem Agree.congr {α : Type} (part : Client → α)
    (unread : ∀ client : Client, part client.blankCredentials = part client) :
    part client = part other := by
  rw [← unread client, ← unread other]
  exact congrArg part agree

theorem Agree.realm : client.realm = other.realm :=
  agree.congr Client.realm fun _ => rfl

theorem Agree.describe : client.describe = other.describe :=
  agree.congr Client.describe fun _ => rfl

theorem Agree.tokenUrl : client.tokenUrl = other.tokenUrl :=
  agree.congr Client.tokenUrl fun _ => rfl

theorem Agree.resourceUrl (resource : Admin.Resource) :
    client.resourceUrl resource = other.resourceUrl resource :=
  agree.congr (Client.resourceUrl · resource) fun _ => rfl

theorem Agree.canSend : client.canSend = other.canSend :=
  agree.congr Client.canSend fun _ => rfl

theorem Agree.resourceRequest? (url : Url) (token : String) :
    client.resourceRequest? url token = other.resourceRequest? url token :=
  agree.congr (Client.resourceRequest? · url token) fun _ => rfl

end Agreement

/-- Settings that differ in the values of credentials alone give clients that do so, or no client
for the same reason. -/
theorem build_of_blankCredentials {config other : Config}
    (same : config.blankCredentials = other.blankCredentials) :
    (∃ error, build config = .error error ∧ build other = .error error) ∨
      ∃ client twin, build config = .ok client ∧ build other = .ok twin ∧ client.Agree twin := by
  have built : (build config).map blankCredentials = (build other).map blankCredentials := by
    rw [← build_blankCredentials, same, build_blankCredentials]
  cases first : build config with
  | error error =>
    cases second : build other with
    | error reason =>
      rw [first, second] at built
      obtain rfl := Except.error.inj built
      exact .inl ⟨error, rfl, rfl⟩
    | ok twin =>
      rw [first, second] at built
      cases built
  | ok client =>
    cases second : build other with
    | error reason =>
      rw [first, second] at built
      cases built
    | ok twin =>
      rw [first, second] at built
      exact .inr ⟨client, twin, rfl, rfl, Except.ok.inj built⟩

end Client

/-! ### Requests -/

namespace Http.Request

/-- A request without its body. -/
def withoutBody (request : Request) : Request :=
  { request with body := none }

/-- A login without its body; any other request as it is. -/
def withoutLoginBody (request : Request) : Request :=
  if request.method = .post then request.withoutBody else request

/-- A header without its value if it is the authorization. -/
def blankAuthorization (header : String × String) : String × String :=
  if header.1 = "authorization" then (header.1, "") else header

/-- A request for a resource without the values of its authorization; a login as it is. -/
def withoutAuthorization (request : Request) : Request :=
  if request.method = .get then
    { request with headers := request.headers.map blankAuthorization }
  else request

end Http.Request

namespace Client

variable {client other : Client}

/-- Logins differ in their bodies alone if the clients differ in their credentials. -/
theorem Agree.withoutLoginBody_tokenRequest (agree : client.Agree other) :
    client.tokenRequest.withoutLoginBody = other.tokenRequest.withoutLoginBody :=
  agree.congr (fun client => client.tokenRequest.withoutLoginBody) fun _ => rfl

/-- Headers that a request does not set itself do not depend on the values of those it sets. -/
theorem map_headersWith {blank : String × String → String × String}
    (named : ∀ header, (blank header).1 = header.1) {own rest : List (String × String)}
    (same : own.map blank = rest.map blank) :
    (client.headersWith own).map blank = (client.headersWith rest).map blank := by
  have names : own.map Prod.fst = rest.map Prod.fst := by
    have first := congrArg (List.map Prod.fst) same
    simpa only [List.map_map, Function.comp_def, named] using first
  unfold headersWith
  simp only [List.map_append, names, same]

/-- Tokens that can both be sent, or not, are sent in requests that differ in their authorization
alone. -/
theorem withoutAuthorization_resourceRequest? (client : Client) (url : Url) {token renewed : String}
    (safe : Header.isValue token = Header.isValue renewed) :
    (client.resourceRequest? url token).map Request.withoutAuthorization =
      (client.resourceRequest? url renewed).map Request.withoutAuthorization := by
  have headers : (client.headersWith (client.baseCredentials ++
        [("authorization", "Bearer " ++ token)])).map Request.blankAuthorization =
      (client.headersWith (client.baseCredentials ++
        [("authorization", "Bearer " ++ renewed)])).map Request.blankAuthorization := by
    refine map_headersWith (fun header => ?_) (by simp [Request.blankAuthorization])
    unfold Request.blankAuthorization
    split <;> rfl
  unfold resourceRequest?
  dsimp only
  rw [Header.isValue_bearer, Header.isValue_bearer, safe]
  split
  · simp only [Option.map_some, Request.withoutAuthorization, if_pos, headers]
  · rfl

end Client

end RealmLookup
