import ServletFilters.Exchange.Fields
import ServletFilters.Exchange.Request
import ServletFilters.Exchange.Response

/-!
# Observations

What a running component may report of the exchange and the chain around it.
-/

namespace ServletFilters

structure ChainView where
  filters : List String
  position : Nat
  capacity : Nat
  hasServlet : Bool
  nonAsync : List String
  deriving DecidableEq, Repr

inductive Observation where
  /-- A word of the component's own. -/
  | note (text : String)
  /-- A request header. -/
  | header (value : Option String)
  /-- A response header. -/
  | responseHeader (value : Option String)
  /-- A request attribute. -/
  | attribute (value : Option String)
  /-- The attribute that was taken away. -/
  | removed (value : Option String)
  /-- The fixed parts of the request. -/
  | fields (request : Request)
  /-- The parameters in the query. -/
  | params (values : Dict String String)
  /-- The changing parts of the request, and whether this exchange is the one on record. -/
  | state (request : Request) (trackedRequest trackedResponse : Bool)
  /-- Whether the request has a pipeline. -/
  | attached (yes : Bool)
  /-- The dispatch state that was replaced. -/
  | previous (state : DispatchState)
  /-- Whether a suspension was pending. -/
  | taken (yes : Bool)
  /-- The body that was taken out of the response. -/
  | takenBody (bytes : List UInt8)
  /-- The response so far. -/
  | response (response : Response)
  /-- A listing of a value. -/
  | shown (text : String)
  /-- The chain. -/
  | chain (view : ChainView)
  /-- A failure that the component dealt with. -/
  | caught (failure : Failure)

end ServletFilters
