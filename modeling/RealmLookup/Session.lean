import RealmLookup.Client.Basic

/-!
# Sessions

A session keeps the access token of a client and carries out plans with it.  A token is
requested when there is none or it is about to expire, and once more when the server rejects
it.  What a session does depends on the network and on the clock alone; both are functions
here, so that a session runs against any server.

## Main definitions

* `Environment` : the network and the clock.
* `Session` : the token, and the exchanges so far.
* `Session.login`, `Session.accessToken`, `Session.get` : the steps of a session.
* `Session.run` : carrying out a plan.
* `Session.start` : the session of settings, logged in if they say so.
-/

namespace RealmLookup

open RealmLookup.Http RealmLookup.Representation

/-- The network, and the readings of the clock in nanoseconds. -/
structure Environment where
  network : Network
  clock : Nat → Nat

/-- An access token, and when it expires, if ever. -/
structure Token where
  value : String
  expiry : Option Nat
deriving DecidableEq

/-- A request that was handed to the HTTP library, what became of it, and how often the clock had
been read before. -/
structure Exchange where
  request : Request
  answer : Answer
  readings : Nat
deriving DecidableEq

/-- The state of a session: its token, its exchanges in order, and how often it has read the
clock. -/
structure Session where
  token : Option Token
  exchanges : List Exchange
  readings : Nat
deriving DecidableEq

namespace Session

/-- The session before anything was sent. -/
def fresh : Session := ⟨none, [], 0⟩

/-- The requests that reached the server, in order. -/
def received (session : Session) : List Request :=
  (session.exchanges.filter fun exchange => exchange.answer != .unreachable).map
    Exchange.request

variable (environment : Environment) (client : Client)

/-- What becomes of a request that is made now. -/
def answer (session : Session) (request : Request) : Answer :=
  environment.network (session.exchanges.map Exchange.request) request

/-- The exchange that a request makes now. -/
def exchange (session : Session) (request : Request) : Exchange :=
  ⟨request, session.answer environment request, session.readings⟩

/-- The session after a request. -/
def record (session : Session) (request : Request) : Session :=
  { session with exchanges := session.exchanges ++ [session.exchange environment request] }

/-! ### Actions -/

/-- Why an action ends early: an error, or a time that the clock cannot hold. -/
inductive Stop
  | failed (error : Client.Error)
  | clockOverflow
deriving DecidableEq

/-- An action on a session, which may end early. -/
abbrev Action (α : Type) : Type := ExceptT Stop (StateM Session) α

/-- Ends an action with an error. -/
def fail {α : Type} (error : Client.Error) : Action α :=
  throw (.failed error)

/-- The time. -/
def now : Action Nat := do
  let session ← get
  set { session with readings := session.readings + 1 }
  return environment.clock session.readings

/-- Sends a request; `url` names it in errors. -/
def send (url : Url) (request : Request) : Action Response := do
  if !client.canSend then fail (.request url.text)
  let session ← get
  set (session.record environment request)
  match (session.answer environment request).response? with
  | some response => return response
  | none => fail (.request url.text)

/-! ### Tokens -/

/-- The nanoseconds of a second. -/
def second : Nat := tenTo 9

/-- The seconds that the clock can count. -/
def maxSeconds : Nat := twoTo 63 - 1

/-- A token that expires within this time is not used again. -/
def expiryMargin : Nat := 10 * second

/-- The time some seconds after another one, unless the clock cannot hold it. -/
def after? (time seconds : Nat) : Option Nat :=
  if (time + seconds * second) / second ≤ maxSeconds then some (time + seconds * second) else none

/-- A token as it is issued, and the seconds after which it expires. -/
structure Issued where
  token : String
  expiresIn : Option Nat
deriving DecidableEq

/-- Reads an issued token. -/
def Issued.decode : Decoder Issued := fun depth tree => do
  let fields ← Record.open? 2 depth tree
  return {
    token := ← Record.required fields 0 "access_token" Record.text
    expiresIn :=
      ← Record.optional fields 1 "expires_in" (Record.nullable (Record.unsigned 64)) none }

/-- When an issued token expires. -/
def expiryOf (issued : Issued) : Action (Option Nat) := do
  match issued.expiresIn with
  | none => return none
  | some seconds =>
      match after? (← now environment) seconds with
      | some time => return some time
      | none => throw .clockOverflow

/-- Requests a token and keeps it. -/
def login : Action String := do
  let response ← send environment client client.tokenUrl client.tokenRequest
  if !response.isSuccess then
    fail (.authentication client.realm response.status response.body.text)
  match response.body.read? Issued.decode with
  | none => fail (.decode client.tokenUrl.text)
  | some issued =>
      let expiry ← expiryOf environment issued
      modify fun session => { session with token := some ⟨issued.token, expiry⟩ }
      return issued.token

/-- Whether a token can be used again. -/
def isFresh (token : Token) : Action Bool := do
  match token.expiry with
  | none => return true
  | some expiry => return (← now environment) + expiryMargin < expiry

/-- The token that is kept, or a new one if there is none or it is about to expire. -/
def accessToken : Action String := do
  match (← get).token with
  | none => login environment client
  | some token =>
      if ← isFresh environment token then return token.value else login environment client

/-! ### Resources -/

/-- Sends the request for a URL with a token. -/
def sendWith (url : Url) (token : String) : Action Response := do
  match client.resourceRequest? url token with
  | some request => send environment client url request
  | none => fail (.request url.text)

/-- The status of a rejected token. -/
def unauthorized : Nat := 401

/-- Sends the request for a URL, and once more with a new token if the first one is
rejected. -/
def sendAuthorized (url : Url) : Action Response := do
  let response ← sendWith environment client url (← accessToken environment client)
  if response.status = unauthorized then
    sendWith environment client url (← login environment client)
  else return response

/-- Fetches a resource. -/
def fetch (resource : Admin.Resource) : Action Admin.Document := do
  let url := client.resourceUrl resource
  let response ← sendAuthorized environment client url
  if response.isSuccess then return ⟨url.text, response.body⟩
  else fail (.api response.status url.text response.body.text)

/-- Carries out a plan; none if the clock cannot hold the expiry of a token. -/
def run {α : Type} : Admin.Plan α → Session → Option α × Session
  | .done value, session => (some value, session)
  | .fetch resource next, session =>
      match (fetch environment client resource).run.run session with
      | (.ok document, session) => run (next (.ok document)) session
      | (.error (.failed error), session) => run (next (.error error)) session
      | (.error .clockOverflow, session) => (none, session)

/-! ### Start -/

/-- The client of settings, logged in if they say so; none if the clock cannot hold the expiry
of the token. -/
def start (config : Config) : Option (Except Client.Error Client) × Session :=
  match Client.build config with
  | .error error => (some (.error error), fresh)
  | .ok client =>
      if config.initialLogin then
        match (login environment client).run.run fresh with
        | (.ok _, session) => (some (.ok client), session)
        | (.error (.failed error), session) => (some (.error error), session)
        | (.error .clockOverflow, session) => (none, session)
      else (some (.ok client), fresh)

end Session

end RealmLookup
