import ServletFilters.Data.Dict
import ServletFilters.Exchange.Fields
import ServletFilters.Failure
import ServletFilters.Routing.Dispatcher
import ServletFilters.Text.Quoted
import ServletFilters.Text.Split

/-!
# Requests

The fixed parts of a request, and the state that changes while it is serviced: how it was
dispatched, how deep, and whether it may be or was suspended.
-/

namespace ServletFilters

/-- How the request came to the running component, and for which path if for one. -/
structure DispatchState where
  dispatcher : Dispatcher := .request
  path : Option String := none
  deriving DecidableEq, Repr, Inhabited

structure Request where
  /-- Tells this request from all others of the same content. -/
  serial : Nat := 0
  id : String := ""
  method : String := "GET"
  path : String := "/"
  query : Option String := none
  headers : Headers := []
  body : List UInt8 := []
  principal : Option String := none
  dispatch : DispatchState := {}
  asyncSupported : Bool := false
  asyncStarted : Bool := false
  /-- The number of internal dispatches that are going on. -/
  depth : Nat := 0
  /-- The classes named when a suspension is refused. -/
  nonAsyncComponents : List String := []
  attributes : Dict String String := {}
  /-- The pipeline that serviced the request first, by its number. -/
  pipeline : Option Nat := none
  deriving Repr, Inhabited

structure RequestSpec where
  method : String := "GET"
  uri : String := "/"
  id : String := "req"
  headers : Headers := []
  body : List UInt8 := []
  principal : Option String := none
  async : Bool := false
  deriving Repr, Inhabited

namespace Request

/-- The path and the query of an address: the first question mark separates them. -/
def splitUri (uri : String) : String × Option String :=
  match Text.cut '?' uri.toList with
  | some (path, query) => (String.ofList path, some (String.ofList query))
  | none => (uri, none)

/-- A new request; it counts as dispatched for its own path. -/
def ofSpec (serial : Nat) (spec : RequestSpec) : Request :=
  let (path, query) := splitUri spec.uri
  { serial
    id := spec.id
    method := spec.method
    path
    query
    headers := spec.headers
    body := spec.body
    principal := spec.principal
    dispatch := { dispatcher := .request, path := some path }
    asyncSupported := spec.async }

/-- The first header of a name. -/
def header? (r : Request) (name : String) : Option String := r.headers.get? name

def asyncRefusal (r : Request) : Failure :=
  .runtime ("Unable to start async because the following components in the processing chain " ++
    "do not support async: [" ++ ", ".intercalate r.nonAsyncComponents ++ "]")

def shownDispatch (d : DispatchState) : String :=
  Text.shownRecord "DispatchState"
    [("dispatcher", d.dispatcher.label), ("path", Text.shownOption Text.quote d.path)]

def shown (r : Request) : String :=
  Text.shownRecord "ServletRequest"
    [("id", Text.quote r.id), ("method", Text.quote r.method), ("path", Text.quote r.path),
      ("dispatch", shownDispatch r.dispatch)]

end Request

end ServletFilters
