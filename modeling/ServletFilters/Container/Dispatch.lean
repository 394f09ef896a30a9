import ServletFilters.Container.Traversal

/-!
# Dispatches

How an exchange gets a chain: the servlet is found in the pipeline's registry, a chain is
populated for it and for the way the request came, and the chain is run. Dispatches nest at
most 32 deep.
-/

namespace ServletFilters

/-- The number of internal dispatches that may go on at once. -/
def maxDispatchDepth : Nat := 32

namespace Chain

/-- The filters of a registry with these names, as far as they are declared. -/
def declared (registry : Registry) (names : List String) : List FilterConfig :=
  names.filterMap registry.filters.find?

def reportUndeclared (registry : Registry) (servlet : String) (names : List String) : Run Unit :=
  (names.filter fun name => (registry.filters.find? name).isNone).forM fun name =>
    log .warn "Filter mapping references an undefined filter, skipping"
      [("filter", .text name), ("servlet", .text servlet)]

/-- Fills the current chain for a servlet and for the way the request came. -/
def populate (registry : Registry) (wrapper : Wrapper) : Run Unit := do
  modify (·.updateChain fun c => c.release.setServlet wrapper.servlet wrapper.asyncSupported)
  if !registry.mappings.isEmpty then
    let d := (← get).request.dispatch
    let names := resolve registry.mappings d.dispatcher d.path (some wrapper.name)
    reportUndeclared registry wrapper.name names
    modify (·.updateChain fun c => (declared registry names).foldl addFilter c)
    measure (.chainBuilt (← get).chain.filters.length)

end Chain

namespace Pipeline

def newChain (p : Pipeline) : Chain :=
  { executor := p.executor, tracking := p.trackLastServiced }

/-- Takes a chain for a servlet out of the pool, or makes one. -/
def acquire (pipeline : Nat) (servlet : String) : Run Chain := do
  match (← get).pipelines.find? pipeline with
  | none => return {}
  | some p =>
    let (found, pool) := p.pool.acquire servlet
    modify (·.updatePipeline pipeline fun p => { p with pool })
    measure (.poolAcquired found.isSome)
    return { found.getD {} with tracking := p.trackLastServiced }

def giveBack (pipeline : Nat) (servlet : String) (chain : Chain) : Run Unit :=
  modify (·.updatePipeline pipeline fun p => { p with pool := p.pool.giveBack servlet chain })

/-- Runs a computation in a chain, one level deeper, and gives its result and the chain as it
was left. -/
def inChain (chain : Chain) (body : Run Result) : Run (Result × Chain) := do
  let outer ← get
  let inner : Run (Result × Chain) := do
    let result ← body
    return (result, (← get).chain)
  modify fun s => { s with chain, nesting := outer.nesting + 1 }
  inner.cleanedBy fun s => { s with chain := outer.chain, nesting := outer.nesting }

/-- Writes down for the request which components stand against a suspension. -/
def recordNonAsync (wrapper : Wrapper) : Run Unit :=
  modify fun s =>
    let own := if wrapper.asyncSupported then [] else [wrapper.className]
    s.updateRequest fun r => { r with nonAsyncComponents := s.chain.nonAsyncClasses [] ++ own }

def runChain (calls : Calls) (pipeline : Nat) (registry : Registry) (wrapper : Wrapper)
    (pooled : Bool) : Run Result := do
  match (← get).pipelines.find? pipeline with
  | none => return .error Program.notAttached
  | some p =>
    let pooled := pooled && p.executor.isNone
    let chain ← if pooled then acquire pipeline wrapper.name else pure p.newChain
    let (result, left) ← inChain chain do
      let s ← get
      record (.traversed s.nesting pipeline registry.serial wrapper.name s.request.dispatch)
      Chain.populate registry wrapper
      recordNonAsync wrapper
      Traversal.doFilter calls
    if pooled then giveBack pipeline wrapper.name left
    return result

/-- Runs a chain for a request that counts as dispatched this way; afterwards it counts as
before. -/
def dispatchTo (calls : Calls) (pipeline : Nat) (registry : Registry) (wrapper : Wrapper)
    (state : DispatchState) (pooled : Bool) : Run Result := do
  let previous := (← get).request.dispatch
  modify (·.updateRequest fun r => { r with dispatch := state })
  let result ← runChain calls pipeline registry wrapper pooled
  modify (·.updateRequest fun r => { r with dispatch := previous })
  return result

/-- The servlet that a target addresses, and the path the request is then dispatched for. -/
def locate (registry : Registry) : Target → Option Wrapper × Option String
  | .path text =>
    let path := (Request.splitUri text).1
    (registry.mapServlet path, some path)
  | .named servlet => (registry.findWrapper servlet, none)

def divert (calls : Calls) (pipeline : Nat) (registry : Registry) (dispatcher : Dispatcher)
    (target : Target) : Run Result :=
  match locate registry target with
  | (none, _) => return .error (.servlet ("no servlet available for " ++ target.shown))
  | (some wrapper, path) => dispatchTo calls pipeline registry wrapper { dispatcher, path } false

/-- Sends the exchange to another servlet of the current registry. -/
def dispatchNested (calls : Calls) (pipeline : Nat) (dispatcher : Dispatcher) (target : Target) :
    Run Result := do
  match (← get).pipelines.find? pipeline with
  | none => return .error Program.notAttached
  | some p => p.registry.whileHeld (divert calls pipeline p.registry dispatcher target)

/-- Sends the exchange to another servlet, unless dispatches are nested too deeply. -/
def dispatch (calls : Calls) (pipeline : Nat) (dispatcher : Dispatcher) (target : Target) :
    Run Result := do
  modify (·.updateRequest fun r => { r with depth := r.depth + 1 })
  let request := (← get).request
  let result ←
    if maxDispatchDepth < request.depth then do
      log .warn "Internal dispatch nested too deeply"
        [("request_id", .text request.id), ("target", .text target.shown),
          ("depth", .number request.depth)]
      pure (.error (.runtime ("internal dispatch to " ++ target.shown ++ " nested more than " ++
        toString maxDispatchDepth ++ " levels")))
    else dispatchNested calls pipeline dispatcher target
  modify (·.updateRequest fun r => { r with depth := r.depth - 1 })
  return result

end Pipeline

end ServletFilters
