import ServletFilters.Container.Lifetime

/-!
# Traversals

How a chain runs: each call to proceed takes the next filter, and after the last one the
servlet. A component may call the chain and the pipeline again, so the traversal is given what
those calls do as a function, `Calls`.
-/

namespace ServletFilters

/-- What a component calls. All calls are made with the exchange of the component, which is one of
the request and the response that it has at hand at the time. -/
inductive Call where
  /-- Goes on with the current chain. -/
  | proceed
  /-- Sends the exchange to another servlet of this pipeline. -/
  | dispatch (pipeline : Nat) (dispatcher : Dispatcher) (target : Target)
  /-- Gives this pipeline a new configuration. -/
  | reload (pipeline : Nat) (config : Config)

abbrev Calls := Call → Run Result

namespace Action

def perform (who : Component) : (action : Action) → Run action.Answer
  | .look => fun s => (.ok s.view, s)
  | .setAttribute name value => modify (·.updateRequest fun r =>
      { r with attributes := r.attributes.insert name value })
  | .removeAttribute name => modify (·.updateRequest fun r =>
      { r with attributes := r.attributes.erase name })
  | .replaceDispatch state => modify (·.updateRequest fun r => { r with dispatch := state })
  | .startAsync => fun s =>
    if s.request.asyncSupported then
      (.ok (.ok ()), s.updateRequest fun r => { r with asyncStarted := true })
    else (.ok (.error s.request.asyncRefusal), s)
  | .takeAsync => modify (·.updateRequest fun r => { r with asyncStarted := false })
  | .setAsyncSupported yes => modify (·.updateRequest fun r => { r with asyncSupported := yes })
  | .setNonAsyncComponents names => modify (·.updateRequest fun r =>
      { r with nonAsyncComponents := names })
  | .write bytes => modify (·.updateResponse (·.write bytes))
  | .setHeader name value => modify (·.updateResponse (·.setHeader name value))
  | .addHeader name value => modify (·.updateResponse (·.addHeader name value))
  | .setStatus status => modify (·.updateResponse fun r => { r with status })
  | .resetBuffer => modify (·.updateResponse (·.resetBuffer))
  | .observe value => record (.observed who.name value)
  | .log entry => record (.logged entry)
  | .retrieve => fun s => (.ok (s.memory.find? who.serial), s)
  | .remember text => modify fun s => { s with memory := s.memory.insert who.serial text }

end Action

namespace ChainAction

def perform (calls : Calls) (who : Component) : (action : ChainAction) → Run action.Answer
  | .proceed => calls .proceed
  | .reuse => do
    record (.rewound (← get).nesting)
    modify (·.updateChain (·.reuse))
  | .release => do
    record (.emptied (← get).nesting)
    modify (·.updateChain (·.release))
  | .observe => do
    let view := (← get).chain.view
    record (.observed who.name (.chain view))
    return { view with capacity := 0 }
  | .gauge => do
    let s ← get
    record (.gauged s.nesting)
    return s.chain.capacity

end ChainAction

/-- Runs a computation with a new response in the exchange, and gives its result and that response as
it was left. However it ends, the exchange has the response again that it had before. -/
def onResponse (response : Response) (body : Run Result) : Run (Result × Response) := fun s =>
  let (result, t) := body (s.newResponse response)
  (result.map (·, { t.response with serial := 0 }), { t with response := s.response })

namespace Program

/-- Runs a program. Only filters have a chain. -/
def run (calls : Calls) (who : Component) (hasChain : Bool) : Program → Run Result
  | .finish result => pure result
  | .panic message => Run.halt (.panic message)
  | .act action next => do
    let answer ← action.perform who
    run calls who hasChain (next answer)
  | .chain action next =>
    if hasChain then do
      let answer ← action.perform calls who
      run calls who hasChain (next answer)
    else pure (.error noChain)
  | .dispatch dispatcher target next => do
    let result ← match (← get).attachedPipeline? with
      | some p => calls (.dispatch p dispatcher target)
      | none => pure (.error notAttached)
    run calls who hasChain (next result)
  | .withResponse response body next => do
    let (result, left) ← onResponse response (run calls who hasChain body)
    run calls who hasChain (next result left)
  | .reload config next => do
    let result ← match (← get).attachedPipeline? with
      | some p => calls (.reload p config)
      | none => pure (.error notAttached)
    run calls who hasChain (next result)

end Program

def Plan.carryOut (operation : Operation) (principal : Option String) (step : Run Result) :
    Plan → Run Result
  | .finish result => pure result
  | .panic message => Run.halt (.panic message)
  | .report next => do
    record (.executed operation principal)
    carryOut operation principal step next
  | .run next => do
    let result ← step
    carryOut operation principal step (next result)

namespace Traversal

/-- Runs a step through the chain's executor, if it has one. -/
def privileged (operation : Operation) (step : Run Result) : Run Result := do
  let s ← get
  match s.chain.executor with
  | none => step
  | some executor =>
    (executor operation s.request.principal).carryOut operation s.request.principal step

/-- Takes from the request the permission to be suspended, where the next component asks for
that. -/
def downgrade (declined : Bool) : Run Unit :=
  modify fun s =>
    if s.request.asyncSupported && declined then
      s.updateRequest fun r => { r with asyncSupported := false }
    else s

def recordInvocation (stage : Stage) (c : Component) : Run Unit := do
  let s ← get
  record (.invoked s.nesting stage c.serial c.name s.request.depth)

def invokeFilter (calls : Calls) (f : FilterConfig) : Run Result := do
  match ← f.obtain with
  | .error failure => return .error failure
  | .ok filter =>
    downgrade f.declinesAsync
    measure (.filterInvoked f.name)
    privileged .doFilter do
      recordInvocation .filter filter
      filter.program.run calls filter true

/-- A computation during which the exchange is on record; afterwards nothing is. -/
def onRecord (body : Run Result) : Run Result := do
  modify fun s => { s with lastServiced := some (s.request.serial, s.response.serial) }
  body.cleanedBy fun s => { s with lastServiced := none }

def invokeServlet (calls : Calls) : Run Result := do
  let chain := (← get).chain
  match chain.servlet with
  | none => return .error (.runtime "filter chain has no servlet configured")
  | some servlet =>
    let body : Run Result := do
      downgrade !chain.servletAsync
      measure .servletInvoked
      privileged .service do
        recordInvocation .servlet servlet
        servlet.program.run calls servlet false
    if chain.tracking then onRecord body else body

/-- One step of the chain: the next filter, or the servlet. The place moves on before the
filter is called. -/
def step (calls : Calls) : Run Result := do
  let s ← get
  match s.chain.filters[s.chain.position]? with
  | some f =>
    record (.advanced s.nesting (some s.chain.position))
    modify (·.updateChain fun c => { c with position := c.position + 1 })
    return (← invokeFilter calls f).mapError (Failure.classify .filter)
  | none =>
    record (.advanced s.nesting none)
    return (← invokeServlet calls).mapError (Failure.classify .servlet)

/-- Goes on with the chain, through its executor if it has one. -/
def doFilter (calls : Calls) : Run Result := do
  match (← get).chain.executor with
  | none => step calls
  | some _ =>
    return (← privileged .doFilter (step calls)).mapError Failure.classifyPrivileged

end Traversal

end ServletFilters
