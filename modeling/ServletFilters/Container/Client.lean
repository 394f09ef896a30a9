import ServletFilters.Container.Host

/-!
# Clients

A pipeline as those see it who send requests to it: what they ask for, one thing after the other,
and what they are told.
-/

namespace ServletFilters

def Pipeline.openFor (config : Config) (components : ComponentFactory) (options : PipelineOptions) :
    Run (Except RegistryError Nat) := do
  match ← Registry.build config components with
  | .error e => return .error e
  | .ok registry => return .ok (← create registry components options)

/-- A container in which nothing was done but to open a pipeline. -/
def Container.opened (config : Config) (components : ComponentFactory) (options : PipelineOptions) :
    Container :=
  (Pipeline.openFor config components options {}).2

inductive Use where
  /-- Has a new request and a new response in place of the current ones. -/
  | request (spec : RequestSpec)
  /-- Has a new response in place of the current one. -/
  | response
  /-- Has the current request serviced; components may call each other so many levels deep. -/
  | service (levels : Nat)
  | dispatch (levels : Nat) (dispatcher : Dispatcher) (target : Target)
  | reload (config : Config)

inductive Answer where
  | done
  | serviced (result : Except ServiceError Unit)
  | dispatched (result : Result)
  | reloaded (result : Except RegistryError Unit)

def Use.run (p : Nat) : Use → Run Answer
  | .request spec => do
    modify (·.openRequest spec)
    return .done
  | .response => do
    modify (·.openResponse)
    return .done
  | .service levels => return .serviced (← Pipeline.service levels p)
  | .dispatch levels dispatcher target =>
    return .dispatched (← Pipeline.dispatch (nestedCalls levels) p dispatcher target)
  | .reload config => return .reloaded (← Pipeline.reload p config)

def Use.isRefused (p : Nat) (s : Container) : Use → Bool
  | .reload config =>
    match (Pipeline.reload p config s).1 with
    | .ok (.ok ()) => false
    | _ => true
  | _ => false

/-- What a client is told of a use: how it ended, what happened, newest first, and what the exchange
looks like since. -/
structure Report where
  answer : Except Halt Answer
  events : List Event
  request : Request
  response : Response
  lastServiced : Option (Nat × Nat)

namespace Container

def use (p : Nat) (s : Container) (u : Use) : Container := (u.run p s).2

def report (p : Nat) (s : Container) (u : Use) : Report :=
  let (answer, t) := u.run p s
  { answer
    events := t.journal.take (t.journal.length - s.journal.length)
    request := t.request
    response := t.response
    lastServiced := t.lastServiced }

def reports (p : Nat) (s : Container) : List Use → List Report
  | [] => []
  | u :: rest => s.report p u :: (s.use p u).reports p rest

/-- Several uses with their reports, one after the other, but for reloads that fail. -/
def outcomes (p : Nat) (s : Container) : List Use → List (Use × Report)
  | [] => []
  | u :: rest =>
    if u.isRefused p s then (s.use p u).outcomes p rest
    else (u, s.report p u) :: (s.use p u).outcomes p rest

/-- The container with the exchange of another one. A request that is attached to a pipeline there
is attached to the given one here. Numbers that are in use in either are in use from then on. -/
def receive (s other : Container) (p : Nat) : Container :=
  { s with
    nextSerial := max s.nextSerial other.nextSerial
    request := { other.request with pipeline := other.request.pipeline.map fun _ => p }
    response := other.response }

end Container

end ServletFilters
