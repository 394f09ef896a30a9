import ServletFilters.Component.Program

/-!
# Scripts

A script is a component written as a list of steps. Each step does one thing to the exchange,
reports one thing about it, or chooses which steps come next.
-/

namespace ServletFilters.Script

inductive Step where
  -- Steps on the response.
  | write (bytes : List UInt8)
  | setHeader (name value : String)
  | addHeader (name value : String)
  | setStatus (status : UInt16)
  | resetBuffer
  /-- Takes the body out of the response and reports it. -/
  | takeBody
  | reportResponseHeader (name : String)
  | reportResponse
  | listResponse
  -- Steps on the request.
  | reportHeader (name : String)
  | reportAttribute (name : String)
  | setAttribute (name value : String)
  /-- Takes an attribute away and reports it. -/
  | removeAttribute (name : String)
  | reportFields
  | reportParams
  | reportState
  | reportAttached
  /-- Replaces the dispatch state and reports the previous one. -/
  | replaceDispatch (state : DispatchState)
  | startAsync
  /-- Takes the mark of a suspension away and reports whether there was one. -/
  | takeAsync
  | setAsyncSupported (yes : Bool)
  | setNonAsyncComponents (names : List String)
  | listRequest
  -- Steps on the chain.
  | proceed
  | reuse
  | release
  | reportChain
  -- Steps that say how to go on.
  | note (text : String)
  | fail (failure : Failure)
  | panic (message : String)
  /-- Runs the body; a failure in it is reported and answered by the handler. -/
  | attempt (body handler : List Step)
  | ifHeader (name : String) (yes no : List Step)
  | ifDispatcher (dispatcher : Dispatcher) (yes no : List Step)
  /-- Adds one to an attribute that holds a number. -/
  | increment (name : String)
  | ifLess (name : String) (bound : Int) (yes no : List Step)
  -- Steps on the pipeline.
  | dispatch (dispatcher : Dispatcher) (target : Target)
  /-- Gives the pipeline a configuration, or fails for want of one. -/
  | reload (config : Except Failure Config)

instance : Inhabited Step := ⟨.resetBuffer⟩

/-- Whether a step, when it succeeds, reports something of its own. -/
def Step.reports : Step → Bool
  | .takeBody | .reportResponseHeader _ | .reportResponse | .listResponse | .reportHeader _
  | .reportAttribute _ | .removeAttribute _ | .reportFields | .reportParams | .reportState
  | .reportAttached | .replaceDispatch _ | .takeAsync | .listRequest | .reportChain | .note _ => true
  | _ => false

end ServletFilters.Script
