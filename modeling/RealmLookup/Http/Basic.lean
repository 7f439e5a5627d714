import RealmLookup.Representation.Record
import RealmLookup.Url.Basic

/-!
# Requests and answers

Requests are those that the client hands to its HTTP library.  How the library sends them, with
the redirects that it follows, the connections that it keeps and the time that it allows, is a
part of the network.

## Main definitions

* `Http.Request` : a request as the HTTP library receives it.
* `Http.Body`, `Http.Response`, `Http.Answer` : what can come back.
* `Http.Network` : a server, with all that lies between it and the client, as a function of
  the requests so far.
-/

namespace RealmLookup.Http

open RealmLookup.Text

/-- The method of a request. -/
inductive Method
  | get
  | post
deriving DecidableEq

/-- A request as it is handed to the HTTP library; headers are named in lower case. -/
structure Request where
  method : Method
  url : Url
  headers : List (String × String)
  body : Option (List Char)
deriving DecidableEq

/-- The body of a response; a truncated one breaks off before its end. -/
inductive Body
  | complete (bytes : List UInt8)
  | truncated
deriving DecidableEq

/-- What a truncated body is shown as. -/
def unreadableText : String := "Unknown error"

/-- The body as it is shown in messages. -/
def Body.text : Body → String
  | .complete bytes => String.ofList (Utf8.decodeLossy bytes)
  | .truncated => unreadableText

/-- The value of a body that is a JSON text.  As little as possible is looked at: malformed UTF-8
in the value of an unknown field does no harm. -/
def Body.read? {α : Type} (decode : Representation.Decoder α) : Body → Option α
  | .complete bytes => Representation.readBytes? decode bytes
  | .truncated => none

/-- A response. -/
structure Response where
  status : Nat
  body : Body
deriving DecidableEq

/-- Whether a response means success. -/
def Response.isSuccess (response : Response) : Bool :=
  200 ≤ response.status && response.status ≤ 299

/-- What becomes of a request once the HTTP library has it: it does not reach the server; it does,
but the connection is lost before a response arrives; or a response arrives.  Where the library
follows redirects, what counts is the end of the last one. -/
inductive Answer
  | unreachable
  | dropped
  | response (response : Response)
deriving DecidableEq

/-- The response of an answer. -/
def Answer.response? : Answer → Option Response
  | .response found => some found
  | _ => none

/-- What answers a request, given the earlier requests in order.  Requests are those that the client
hands to its HTTP library; redirects and whatever else the library sends for one of them happen in
here, unrecorded. -/
abbrev Network : Type := List Request → Request → Answer

/-- The network without a way to the server. -/
def Network.unreachable : Network := fun _ _ => .unreachable

end RealmLookup.Http
