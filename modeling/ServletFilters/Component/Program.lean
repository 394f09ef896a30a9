import ServletFilters.Config.Schema
import ServletFilters.Journal.Event

/-!
# Programs of components

The behaviour of a filter or a servlet as a tree: each node does one thing to the exchange, to
the chain or to the pipeline, and goes on with the answer. A program is finite along every
path, so all that can make a call go on for ever is that components call each other. What is to
outlast a call is kept with the component.

A chain is there for one request, so the exchange with which a component goes on has the request
that it was called with; the response may be another one.
-/

namespace ServletFilters

/-- What a program can read. Identities of objects are left out. -/
structure View where
  request : Request
  response : Response
  attached : Bool
  trackedRequest : Bool
  trackedResponse : Bool

inductive Target where
  | path (path : String)
  | named (servlet : String)
  deriving DecidableEq, Repr

def Target.shown : Target → String
  | .path text => "path '" ++ text ++ "'"
  | .named servlet => "servlet '" ++ servlet ++ "'"

inductive Action where
  | look
  | setAttribute (name value : String)
  | removeAttribute (name : String)
  | replaceDispatch (state : DispatchState)
  /-- Suspends the request, or is refused. -/
  | startAsync
  | takeAsync
  | setAsyncSupported (yes : Bool)
  | setNonAsyncComponents (names : List String)
  | write (bytes : List UInt8)
  | setHeader (name value : String)
  | addHeader (name value : String)
  | setStatus (status : UInt16)
  | resetBuffer
  | observe (value : Observation)
  | log (entry : LogEntry)
  /-- Asks for the text that the component kept at an earlier call. -/
  | retrieve
  /-- Keeps a text for later calls, in place of the one before. -/
  | remember (text : String)

def Action.Answer : Action → Type
  | .look => View
  | .startAsync => Result
  | .retrieve => Option String
  | _ => Unit

inductive ChainAction where
  /-- Goes on with the next filter, or with the servlet. -/
  | proceed
  /-- Puts the chain back to its first filter. -/
  | reuse
  /-- Empties the chain. -/
  | release
  /-- Reports the chain, and looks at all of it but its room. -/
  | observe
  /-- Asks for how many filters the chain has room. -/
  | gauge
  deriving DecidableEq, Repr

def ChainAction.Answer : ChainAction → Type
  | .proceed => Result
  | .observe => ChainView
  | .gauge => Nat
  | _ => Unit

inductive Program where
  /-- Returns to the caller. -/
  | finish (result : Result)
  /-- Breaks off all that is going on. -/
  | panic (message : String)
  | act (action : Action) (next : action.Answer → Program)
  | chain (action : ChainAction) (next : action.Answer → Program)
  /-- Sends the exchange to another servlet of the request's pipeline. -/
  | dispatch (dispatcher : Dispatcher) (target : Target) (next : Result → Program)
  /-- Does what the body says with a response of its own in the exchange, with which the body also
  goes on and dispatches, and is told the result and what that response has become. -/
  | withResponse (response : Response) (body : Program) (next : Result → Response → Program)
  /-- Gives the request's pipeline a new configuration. -/
  | reload (config : Config) (next : Result → Program)

instance : Inhabited Program := ⟨.finish (.ok ())⟩

namespace Program

/-- The failure of a program that addresses a chain and has none. -/
def noChain : Failure := .runtime "no chain here"

/-- The failure of a program that addresses a pipeline and has none. -/
def notAttached : Failure := .runtime "request is not attached to a pipeline"

def perform (action : Action) (next : Program) : Program := .act action fun _ => next

def performAll (actions : List Action) (next : Program) : Program :=
  actions.foldr perform next

def look (next : View → Program) : Program := .act .look next

def proceed (next : Result → Program) : Program := .chain .proceed next

def startAsync (next : Result → Program) : Program := .act .startAsync next

def done : Program := .finish (.ok ())

def fail (f : Failure) : Program := .finish (.error f)

end Program

end ServletFilters
