import RealmLookup.Client.Error
import RealmLookup.Http.Basic

/-!
# Plans of admin requests

What is asked of the admin API is a plan: a tree that names the next resource to fetch and,
for each way in which that may end, how to go on.  A plan knows nothing of tokens, logins or
the address of the server, so one plan can be carried out by a session that looks after these,
and can as well be evaluated against a function from resources to replies.

## Main definitions

* `Admin.Resource` : a resource of the admin API.
* `Admin.Document`, `Admin.Reply` : what fetching a resource gives.
* `Admin.Plan` : plans, which form a monad.
* `Admin.Plan.eval` : the outcome of a plan for given replies.
-/

namespace RealmLookup.Admin

open RealmLookup.Http RealmLookup.Representation

/-- A resource of the admin API: a realm, a path below it, and a query. -/
structure Resource where
  realm : String
  segments : List String
  query : List (String × String)
deriving DecidableEq

/-- The path segments of a resource below the server URL. -/
def Resource.path (resource : Resource) : List String :=
  "admin" :: "realms" :: resource.realm :: resource.segments

/-- The body of a successful response, with the URL it came from. -/
structure Document where
  url : String
  body : Body
deriving DecidableEq

/-- What fetching a resource gives. -/
abbrev Reply : Type := Except Client.Error Document

variable {α β : Type}

/-- A document read as a value of one type. -/
def Document.decode (decoder : Decoder α) (document : Document) : Except Client.Error α :=
  match document.body.read? decoder with
  | some value => .ok value
  | none => .error (.decode document.url)

/-- A tree of fetches that ends in a value. -/
inductive Plan (α : Type) : Type
  | done (value : α)
  | fetch (resource : Resource) (next : Reply → Plan α)

namespace Plan

/-- The plan that goes on with the value of another one. -/
def bind : Plan α → (α → Plan β) → Plan β
  | done value, f => f value
  | fetch resource next, f => fetch resource fun reply => (next reply).bind f

instance : Monad Plan where
  pure := done
  bind := bind

/-- The value of a plan for given replies. -/
def eval (replies : Resource → Reply) : Plan α → α
  | done value => value
  | fetch resource next => (next (replies resource)).eval replies

/-- Fetches a resource and reads it as a value of one type. -/
def get (decoder : Decoder α) (resource : Resource) : Plan (Except Client.Error α) :=
  fetch resource fun reply => done (reply.bind (Document.decode decoder))

/-- Fetches a resource that need not exist. -/
def getOptional (decoder : Decoder α) (resource : Resource) :
    Plan (Except Client.Error (Option α)) := do
  match ← get decoder resource with
  | .ok value => return .ok (some value)
  | .error error => return if error.isNotFound then .ok none else .error error

end Plan

end RealmLookup.Admin
