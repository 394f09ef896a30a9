import ServletFilters.Exchange.Request
import ServletFilters.Exchange.Response
import ServletFilters.Http.Message

/-!
# Between HTTP and exchanges

How a request that comes in is made into one that can be serviced, and how what components
answered is made into a response that can go out. Every response carries the number of its
request, `x-request-id`.
-/

namespace ServletFilters.Http

def requestIdHeader : String := "x-request-id"

/-- The number that the request brings along, unless it is empty or no text. -/
def Incoming.requestId? (r : Incoming) : Option String :=
  ((r.first? requestIdHeader).bind fieldText?).filter fun id => !id.isEmpty

inductive AdaptError where
  | bodyTooLarge (limit : Nat)
  | brokenBody (reason : String)
  deriving DecidableEq, Repr

namespace AdaptError

def message : AdaptError → String
  | .bodyTooLarge limit => "request body exceeds " ++ toString limit ++ " bytes"
  | .brokenBody reason => "failed to read request body: " ++ reason

def status : AdaptError → Nat
  | .bodyTooLarge _ => 413
  | .brokenBody _ => 400

end AdaptError

/-- The request to be serviced. A body that grows too large is noticed before it breaks off;
headers that are no text are dropped. -/
def Incoming.adapt (r : Incoming) (id : String) (maxBody : Nat) : Except AdaptError RequestSpec :=
  if maxBody < r.body.length then .error (.bodyTooLarge maxBody)
  else match r.bodyFailure with
    | some reason => .error (.brokenBody reason)
    | none => .ok {
        method := r.method
        uri := r.target
        id
        headers := r.headers.filterMap fun h => (fieldText? h.2).map fun value => (h.1, value)
        body := r.body
        async := true }

/-- A status that can go out; all others count as internal errors. -/
def statusOf (status : UInt16) : Nat :=
  if 100 ≤ status.toNat ∧ status.toNat ≤ 999 then status.toNat else 500

namespace Outgoing

/-- The response with the number of its request, if that can be a header value. -/
def withRequestId (r : Outgoing) (id : String) : Outgoing :=
  if isFieldText id then r.insert requestIdHeader id else r

/-- A header that components wrote, if it can go out. -/
def writtenHeader? (name value : String) : Option (String × String) :=
  if isFieldText value then (headerName? name).map fun name => (name, value) else none

/-- The response that goes out for what components answered. -/
def ofResponse (response : Response) (id : String) : Outgoing :=
  { status := statusOf response.status
    headers := response.headers.filterMap fun h => writtenHeader? h.1 h.2
    body := response.body : Outgoing }.withRequestId id

def ofError (status : Nat) (message id : String) : Outgoing :=
  { status
    headers := [("content-type", "text/plain; charset=utf-8")]
    body := utf8 message : Outgoing }.withRequestId id

end Outgoing

end ServletFilters.Http
