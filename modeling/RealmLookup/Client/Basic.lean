import RealmLookup.Admin.Plan
import RealmLookup.Certificate.Pem
import RealmLookup.Config.Basic
import RealmLookup.Http.Header
import RealmLookup.Text.Base64
import RealmLookup.Url.Parser

/-!
# The admin client

What a session needs to know of the settings, checked once: the base URL, the additional
headers and the credentials; and the requests made of them.  The timeout, and the certificates that
connections accept, work in the network, so a client keeps nothing of them.

## Main definitions

* `Client` : the checked settings.
* `Client.build` : the client of settings.
* `Client.url`, `Client.tokenUrl`, `Client.resourceUrl` : the URLs of requests.
* `Client.tokenRequest`, `Client.resourceRequest?` : the requests.
* `Client.describe` : the client as text.
-/

namespace RealmLookup

open RealmLookup.Http RealmLookup.Text

/-- The checked settings of a connection. -/
structure Client where
  base : Url
  realm : String
  clientId : String
  clientSecret : Option String
  /-- Username and password, if logins use them. -/
  user : Option (String × String)
  /-- The additional headers by their names in lower case. -/
  headers : Table String
deriving DecidableEq

namespace Client

/-! ### Building -/

/-- The client of settings.  The URL is checked first, then the headers in the order of their
names, then the certificate, which does not count if verification is skipped. -/
def build (config : Config) : Except Error Client :=
  match Url.parse config.serverUrl.toList with
  | .error cause => .error (.invalidUrl config.serverUrl (some cause))
  | .ok base =>
      if !base.isBase then .error (.invalidUrl config.serverUrl none)
      else
        match Header.collect config.additionalHeaders with
        | .error name => .error (.invalidHeader name)
        | .ok headers =>
            if !config.skipVerification && !config.rootCertificate.all Certificate.isUsable then
              .error (.build "TLS backend initialization failed")
            else
              .ok {
                base, headers
                realm := config.realm
                clientId := config.clientId
                clientSecret := config.clientSecret
                user :=
                  match config.username, config.password with
                  | some username, some password => some (username, password)
                  | _, _ => none }

variable (client : Client)

/-- The client as text, without its credentials. -/
def describe : String :=
  "KeycloakClient \x7b base_url: " ++ quote client.base.text ++
  ", realm: " ++ quote client.realm ++ ", client_id: " ++ quote client.clientId ++ ", .. \x7d"

/-! ### URLs -/

/-- The URL of path segments and a query below the base URL. -/
def url (segments : List String) (query : List (String × String)) : Url :=
  (client.base.extend segments).withPairs query

/-- The URL at which tokens are issued. -/
def tokenUrl : Url :=
  client.url ["realms", client.realm, "protocol", "openid-connect", "token"] []

/-- The URL of a resource. -/
def resourceUrl (resource : Admin.Resource) : Url :=
  client.url resource.path resource.query

/-! ### Headers -/

/-- The name under which the program introduces itself. -/
def userAgent : String := "keycloak-lookup/0.1.0"

/-- The headers that any request without them gets. -/
def defaultHeaders : Table String :=
  [("accept", "*/*"), ("user-agent", userAgent)]

/-- Username and password of the base URL as a header, if it has any. -/
def baseCredentials : List (String × String) :=
  if client.base.username.isEmpty && client.base.password.isEmpty then []
  else
    match Utf8.decodeStrict? (Url.Percent.decodeBytes client.base.username) with
    | none => []
    | some username =>
        let password :=
          (Utf8.decodeStrict? (Url.Percent.decodeBytes client.base.password)).getD []
        [("authorization",
          "Basic " ++ String.ofList (Base64.encode (Utf8.encode (username ++ ':' :: password))))]

/-- The headers of a request: its own ones, then the additional ones, then the defaults; a
name that occurs earlier is not taken again. -/
def headersWith (own : List (String × String)) : List (String × String) :=
  let additional := client.headers.filter fun header => !(own.map Prod.fst).contains header.1
  let named := (own ++ additional).map Prod.fst
  own ++ additional ++ defaultHeaders.filter fun header => !named.contains header.1

/-! ### Requests -/

/-- The schemes by which requests can be sent. -/
def sendableSchemes : List String := ["http", "https"]

/-- Whether requests can be sent to the base URL. -/
def canSend : Bool :=
  sendableSchemes.contains (String.ofList client.base.scheme)

/-- The pairs of a login: the client with its secret, and the user or the client itself. -/
def loginPairs : List (String × String) :=
  [("client_id", client.clientId)] ++
  (client.clientSecret.map (("client_secret", ·))).toList ++
  match client.user with
  | some (username, password) =>
      [("grant_type", "password"), ("username", username), ("password", password)]
  | none => [("grant_type", "client_credentials")]

/-- The request for a token. -/
def tokenRequest : Request where
  method := .post
  url := client.tokenUrl.target
  headers :=
    client.headersWith
      (client.baseCredentials ++ [("content-type", "application/x-www-form-urlencoded")])
  body := some (Url.Form.encode client.loginPairs)

/-- The request for a URL with a token; none if the token cannot be a header. -/
def resourceRequest? (url : Url) (token : String) : Option Request :=
  let bearer := "Bearer " ++ token
  if Header.isValue bearer then
    some {
      method := .get
      url := url.target
      headers := client.headersWith (client.baseCredentials ++ [("authorization", bearer)])
      body := none }
  else none

end Client

end RealmLookup
