import ServletFilters.Container.Dispatch

/-!
# Servicing requests

A pipeline services a request on the registry it finds when the request comes in, and goes on
with it as often as it was suspended, at most 16 times. A pipeline can be given a new
configuration at any time, also by a component that it is running.
-/

namespace ServletFilters

/-- How often a request may be suspended. -/
def maxAsyncDispatches : Nat := 16

inductive ServiceError where
  /-- No servlet is mapped for the path. -/
  | notFound (path : String)
  | chain (failure : Failure)
  deriving DecidableEq, Repr

def ServiceError.message : ServiceError → String
  | .notFound path => "no servlet mapped for path '" ++ path ++ "'"
  | .chain failure => failure.message

structure PipelineOptions where
  trackLastServiced : Bool := false
  executor : Option Executor := none
  maxIdlePerServlet : Nat := 64

def PipelineOptions.ofConfig (config : Config) : PipelineOptions where
  trackLastServiced := config.isolation.trackLastServiced
  executor := if config.security.privilegedExecution then some .span else none
  maxIdlePerServlet := config.pool.maxIdlePerServlet

namespace Pipeline

def create (registry : Registry) (components : ComponentFactory) (options : PipelineOptions) :
    Run Nat := do
  let serial ← freshSerial
  let pipeline : Pipeline :=
    { registry
      components
      pool := { maxIdle := options.maxIdlePerServlet }
      executor := options.executor
      trackLastServiced := options.trackLastServiced }
  modify fun s =>
    (registry.hold { s with pipelines := s.pipelines.insert serial pipeline }).note
      (.installed serial registry.serial)
  return serial

def ofConfig (config : Config) (components : ComponentFactory) : Run (Except RegistryError Nat) := do
  match ← Registry.build config components with
  | .error e => return .error e
  | .ok registry =>
    let options := PipelineOptions.ofConfig config
    log .info "Pipeline initialised"
      [("track_last_serviced", .flag options.trackLastServiced),
        ("privileged_execution", .flag options.executor.isSome),
        ("max_idle_per_servlet", .number options.maxIdlePerServlet)]
    return .ok (← create registry components options)

def close (pipeline : Nat) : Run Unit :=
  modify fun s =>
    match s.pipelines.find? pipeline with
    | some p => p.registry.letGo { s with pipelines := s.pipelines.erase pipeline }
    | none => s

def swapRegistry (pipeline : Nat) (registry : Registry) (s : Container) : Container :=
  match s.pipelines.find? pipeline with
  | some p =>
    p.registry.letGo ((registry.hold (s.updatePipeline pipeline fun p => { p with registry })).note
      (.installed pipeline registry.serial))
  | none => s

/-- Gives a pipeline a new configuration. What is going on ends on the registry it began with. -/
def reload (pipeline : Nat) (config : Config) : Run (Except RegistryError Unit) := do
  match (← get).pipelines.find? pipeline with
  | none => return .ok ()
  | some p =>
    match ← Registry.build config p.components with
    | .error e => return .error e
    | .ok registry =>
      if config.security.privilegedExecution != p.executor.isSome then
        log .warn "Privileged execution setting changed; restart required for it to apply" []
      modify (swapRegistry pipeline registry)
      modify (·.updatePipeline pipeline fun p =>
        { p with trackLastServiced := config.isolation.trackLastServiced, pool := p.pool.clear })
      log .info "Pipeline registry reloaded" []
      return .ok ()

end Pipeline

def Call.answer (calls : Calls) : Calls
  | .proceed => Traversal.doFilter calls
  | .dispatch pipeline dispatcher target => Pipeline.dispatch calls pipeline dispatcher target
  | .reload pipeline config => do
    return (← Pipeline.reload pipeline config).mapError fun e => .runtime e.message

/-- What the calls of components do, as long as they are nested less deeply than allowed. -/
def nestedCalls : Nat → Calls
  | 0 => fun _ => Run.halt .exhausted
  | n + 1 => Call.answer (nestedCalls n)

namespace Pipeline

def takeAsync : Run Bool :=
  modifyGet fun s =>
    (s.request.asyncStarted, s.updateRequest fun r => { r with asyncStarted := false })

/-- Goes on with a request as long as it is suspended, so many times at most. -/
def resume (again : Run Result) : Nat → Run Result
  | 0 => do
    if ← takeAsync then
      return .error (.runtime ("request restarted async more than " ++ toString maxAsyncDispatches ++
        " times"))
    else return .ok ()
  | n + 1 => do
    if ← takeAsync then
      match ← again with
      | .error failure => return .error failure
      | .ok () => resume again n
    else return .ok ()

/-- The traversals for a request: the first one, then one for each suspension. -/
def traverse (calls : Calls) (pipeline : Nat) (registry : Registry) (wrapper : Wrapper)
    (path : String) : Run Result := do
  let visit (dispatcher : Dispatcher) : Run Result :=
    dispatchTo calls pipeline registry wrapper { dispatcher, path := some path } true
  match ← visit .request with
  | .error failure => return .error failure
  | .ok () => resume (visit .async) maxAsyncDispatches

def serviceOn (calls : Calls) (pipeline : Nat) (registry : Registry) (path : String) :
    Run (Except ServiceError Unit) := do
  match registry.mapServlet path with
  | none => return .error (.notFound path)
  | some wrapper =>
    match ← traverse calls pipeline registry wrapper path with
    | .ok () => return .ok ()
    | .error failure =>
      measure (.chainFailed failure.kind)
      log .warn "Request failed"
        [("request_id", .text (← get).request.id), ("path", .text path),
          ("servlet", .text wrapper.name), ("error", .text failure.message)]
      return .error (.chain failure)

def serviceWith (calls : Calls) (pipeline : Nat) : Run (Except ServiceError Unit) := do
  modify (·.updateRequest fun r => { r with pipeline := r.pipeline.or (some pipeline) })
  let s ← get
  match s.pipelines.find? pipeline with
  | none => return .error (.chain Program.notAttached)
  | some p => p.registry.whileHeld (serviceOn calls pipeline p.registry s.request.path)

/-- Services the current request; components may call each other so many levels deep. -/
def service (levels : Nat) (pipeline : Nat) : Run (Except ServiceError Unit) :=
  serviceWith (nestedCalls levels) pipeline

/-- The chain that the current request would run in for a servlet. -/
def createFilterChain (pipeline : Nat) (wrapper : Wrapper) : Run Chain := do
  match (← get).pipelines.find? pipeline with
  | none => return {}
  | some p =>
    let (_, chain) ← inChain p.newChain do
      Chain.populate p.registry wrapper
      return .ok ()
    return chain

end Pipeline

end ServletFilters
