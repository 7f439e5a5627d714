import RealmLookup.Client.Basic
import Mathlib.Tactic.Common

/-!
# The requests of a client

Where the requests of a client are sent, and what authorizes them.  The additional headers of the
settings cannot replace the authorization of a request, and a request has no other one than the
credentials of the base URL and its token.

## Main definitions

* `Client.localConfig`, `Client.localClient` : settings of a server on the local host, and their
  client.
* `Client.BuiltFrom` : what a client keeps of its settings.

## Main results

* `Client.builtFrom_of_build` : the client of settings keeps them.
* `Client.authorization_headersWith` : the authorization among the headers of a request.
* `Client.resourceRequest?_eq_some_iff` : the request for a URL with a token.
-/

namespace RealmLookup

open RealmLookup.Http

/-! ### Tokens of requests -/

/-- The token of a header value of the bearer scheme. -/
def Http.Header.bearer? (value : String) : Option String :=
  if ("Bearer ".toList).isPrefixOf value.toList then
    some (String.ofList (value.toList.drop "Bearer ".length))
  else none

/-- The token that a request presents. -/
def Http.Request.bearer? (request : Request) : Option String :=
  request.headers.findSome? fun header =>
    if header.1 = "authorization" then Header.bearer? header.2 else none

theorem Http.Header.bearer?_append (token : String) :
    Header.bearer? ("Bearer " ++ token) = some token := by
  have whole : ("Bearer " ++ token).toList = "Bearer ".toList ++ token.toList :=
    String.toList_append
  unfold Header.bearer?
  rw [whole, if_pos (List.isPrefixOf_iff_prefix.2 (List.prefix_append _ _))]
  exact congrArg some (String.ofList_toList ..)

theorem Http.Header.bearer?_basic (credentials : String) :
    Header.bearer? ("Basic " ++ credentials) = none := by
  unfold Header.bearer?
  rw [String.toList_append]
  rfl

/-- A token can be a header of the bearer scheme if it can be a header at all. -/
theorem Http.Header.isValue_bearer (token : String) :
    Header.isValue ("Bearer " ++ token) = Header.isValue token := by
  unfold Header.isValue
  rw [String.toList_append, List.all_append]
  rfl

namespace Client

variable {client : Client}

/-! ### Settings -/

/-- What a client keeps of its settings. -/
structure BuiltFrom (config : Config) (client : Client) : Prop where
  base : Url.parse config.serverUrl.toList = .ok client.base
  isBase : client.base.isBase = true
  headers : Header.collect config.additionalHeaders = .ok client.headers
  realm : client.realm = config.realm
  clientId : client.clientId = config.clientId
  clientSecret : client.clientSecret = config.clientSecret
  user : ∀ username password, client.user = some (username, password) ↔
    config.username = some username ∧ config.password = some password

theorem builtFrom_of_build {config : Config} (built : build config = .ok client) :
    BuiltFrom config client := by
  unfold build at built
  split at built
  · cases built
  · rename_i base read
    split at built
    · cases built
    · rename_i opened
      split at built
      · cases built
      · rename_i headers collected
        split at built
        · cases built
        · cases built
          refine ⟨read, by simpa using opened, collected, rfl, rfl, rfl, ?_⟩
          intro username password
          dsimp only
          cases config.username <;> cases config.password <;> simp

/-- The client of settings, as it is computed from them. -/
theorem build_eq_ok {config : Config} (found : (build config).toOption = some client) :
    build config = .ok client := by
  revert found
  cases build config <;> simp [Except.toOption]

/-- The realm of a client is the one of its settings. -/
theorem realm_of_build {config : Config} (built : build config = .ok client) :
    client.realm = config.realm :=
  (builtFrom_of_build built).realm

/-! ### Headers -/

/-- The credentials of the base URL are sent under one name. -/
theorem baseCredentials_name {header : String × String} (sent : header ∈ client.baseCredentials) :
    header.1 = "authorization" := by
  unfold baseCredentials at sent
  split at sent
  · cases sent
  · split at sent
    · cases sent
    · rw [List.mem_singleton.1 sent]

/-- Among the headers of a request, those of a name that the request sets itself are its own. -/
theorem filter_headersWith {own : List (String × String)} {name : String}
    (taken : name ∈ own.map Prod.fst) :
    (client.headersWith own).filter (fun header => header.1 == name) =
      own.filter fun header => header.1 == name := by
  have additional : (client.headers.filter fun header =>
      !(own.map Prod.fst).contains header.1).filter (fun header => header.1 == name) = [] := by
    refine List.filter_eq_nil_iff.2 fun header kept named => ?_
    have other := (List.mem_filter.1 kept).2
    rw [beq_iff_eq.1 named, List.contains_iff_mem.2 taken] at other
    cases other
  unfold headersWith
  rw [List.filter_append, List.filter_append, additional, List.append_nil]
  refine (List.append_right_eq_self.2 (List.filter_eq_nil_iff.2 fun header kept named => ?_))
  have other := (List.mem_filter.1 kept).2
  rw [beq_iff_eq.1 named, List.map_append,
    List.contains_iff_mem.2 (List.mem_append_left _ taken)] at other
  cases other

/-- A request has no other authorization than the credentials of the base URL and its own. -/
theorem authorization_headersWith (value : String) :
    (client.headersWith (client.baseCredentials ++ [("authorization", value)])).filter
        (fun header => header.1 == "authorization") =
      client.baseCredentials ++ [("authorization", value)] := by
  rw [filter_headersWith (by simp)]
  refine List.filter_eq_self.2 fun header sent => ?_
  rcases List.mem_append.1 sent with sent | sent
  · rw [baseCredentials_name sent]
    rfl
  · rw [List.mem_singleton.1 sent]
    rfl

/-! ### Requests -/

/-- The request for a URL with a token, if the token can be a header. -/
theorem resourceRequest?_eq_some_iff {url : Url} {token : String} {request : Request} :
    client.resourceRequest? url token = some request ↔
      Header.isValue ("Bearer " ++ token) = true ∧
        (⟨.get, url.target,
          client.headersWith (client.baseCredentials ++ [("authorization", "Bearer " ++ token)]),
          none⟩ : Request) = request := by
  unfold resourceRequest?
  dsimp only
  split
  · rename_i valid
    simp only [valid, true_and, Option.some.injEq]
  · rename_i invalid
    simp only [invalid, false_and, reduceCtorEq]

/-- There is a request with every token that can be a header. -/
theorem resourceRequest?_ne_none {token : String} (safe : Header.isValue token = true)
    (url : Url) : client.resourceRequest? url token ≠ none := by
  have bearer : Header.isValue ("Bearer " ++ token) = true :=
    (Header.isValue_bearer token).trans safe
  have made : client.resourceRequest? url token = some _ :=
    resourceRequest?_eq_some_iff.2 ⟨bearer, rfl⟩
  rw [made]
  exact Option.some_ne_none _

/-- The request for a URL with a token presents the token. -/
theorem bearer?_of_resourceRequest? {url : Url} {token : String} {request : Request}
    (made : client.resourceRequest? url token = some request) :
    request.bearer? = some token := by
  obtain ⟨-, rfl⟩ := resourceRequest?_eq_some_iff.1 made
  have basic : client.baseCredentials.findSome? (fun header =>
      if header.1 = "authorization" then Header.bearer? header.2 else none) = none := by
    unfold baseCredentials
    split
    · rfl
    · split
      · rfl
      · rw [List.findSome?_singleton, if_pos rfl]
        exact Header.bearer?_basic _
  unfold Request.bearer? headersWith
  simp only [List.findSome?_append, basic, List.findSome?_cons, if_pos, Header.bearer?_append,
    Option.none_or, Option.some_or]

/-! ### A client on the local host -/

/-- Settings of a server on the local host, at which the client logs in as itself. -/
def localConfig : Config where
  url := "http://localhost:8080"
  basePath := ""
  clientId := "lookup"
  clientSecret := some "secret"
  username := none
  password := none
  realm := "master"
  initialLogin := false
  timeoutSeconds := 15
  skipVerification := false
  rootCertificate := none
  additionalHeaders := []

/-- The client of these settings. -/
def localClient : Client where
  base := {
    scheme := ['h', 't', 't', 'p']
    username := []
    password := []
    host := some (.name ['l', 'o', 'c', 'a', 'l', 'h', 'o', 's', 't'])
    port := some 8080
    path := .inl [[]]
    query := none
    fragment := none }
  realm := "master"
  clientId := "lookup"
  clientSecret := some "secret"
  user := none
  headers := []

theorem build_localConfig : build localConfig = .ok localClient :=
  build_eq_ok (by decide +kernel)

end Client

end RealmLookup
