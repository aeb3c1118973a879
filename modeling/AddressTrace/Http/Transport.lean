import AddressTrace.Http.Url
import AddressTrace.Json.Writer

/-!
# Requests

Requests over HTTP and what answers them.

## Main definitions

* `Request`, `Response` — what is asked, and what is answered;
* `Transport` — whatever brings a request to a server and its response back.
-/

namespace AddressTrace.Http

/-- **A request.**  It sends a JSON value, or nothing. -/
structure Request where
  url : Url
  body : Option Json.Value

/-- The request for a resource. -/
def Request.get (url : Url) : Request := ⟨url, none⟩

/-- The request that sends a value. -/
def Request.post (url : Url) (body : Json.Value) : Request := ⟨url, some body⟩

/-- The word for what a request does. -/
def Request.verb (r : Request) : String := if r.body.isSome then "POST" else "GET"

/-- **A response.** -/
structure Response where
  status : Nat
  body : String
deriving Repr, DecidableEq

/-- Does the response report an error? -/
def Response.isError (r : Response) : Bool := 400 ≤ r.status

/-- The status of a resource that is not there. -/
def Response.notFound : Nat := 404

/-- **What brings requests to their servers.**  Without a response there was no server. -/
abbrev Transport (m : Type → Type) := Request → m (Option Response)

end AddressTrace.Http
