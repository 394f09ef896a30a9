import ServletFilters.Container.State

/-!
# The life of components

Filters are made when they are first needed and servlets when their registry is built. Both
are destroyed when the last holder of the registry lets go of it: the pipeline, a traversal
that is going on, or whoever keeps it.
-/

namespace ServletFilters

/-- Ends the making of a component: with the component, if it is ready. -/
def Making.finish (announced : Bool) (name : String) : Making → Run (Except Failure Component)
  | .panicked message => Run.halt (.panic message)
  | .refused failure => return .error failure
  | .ready program => do
    let serial ← freshSerial
    record (.constructed serial name)
    return .ok { serial, name, announced, program }

def makeComponent (announced : Bool) (name : String) (make : Nat → Making) :
    Run (Except Failure Component) := do
  let count := ((← get).constructions.find? name).getD 0 + 1
  if announced then
    modify fun s => { s with constructions := s.constructions.insert name count }
    record (.constructing name count)
  (make count).finish announced name

namespace FilterConfig

/-- Makes the filter, or gives the one it was bound to. -/
def make (f : FilterConfig) : Run (Except Failure Component) :=
  match f.source with
  | .given component => pure (.ok component)
  | .made cls => makeComponent cls.announced f.name (cls.make f.definition)

def recordSupply (f : FilterConfig) (component : Component) : Run Unit := do
  record (.supplied (← get).nesting f.serial component.serial)

/-- The filter, made now if it is not there. -/
def obtain (f : FilterConfig) : Run (Except Failure Component) := do
  match (← get).instances.find? f.serial with
  | some component =>
    f.recordSupply component
    return .ok component
  | none =>
    match ← f.make with
    | .error failure =>
      log .error "Filter initialisation failed"
        [("filter", .text f.name), ("class", .text f.className), ("error", .text failure.message)]
      return .error failure
    | .ok component =>
      modify fun s => { s with instances := s.instances.insert f.serial component }
      f.recordSupply component
      return .ok component

def isInitialised (f : FilterConfig) (s : Container) : Bool :=
  (s.instances.find? f.serial).isSome

/-- The state after the filter, if it is there, was destroyed. -/
def release (f : FilterConfig) (s : Container) : Container :=
  match s.instances.find? f.serial with
  | some c =>
    { s with instances := s.instances.erase f.serial }.note (.destroyed c.serial c.name c.announced)
  | none => s

end FilterConfig

namespace Registry

def birth (r : Registry) : Event :=
  .built r.serial (r.filters.values.map (·.serial)) (r.wrappers.map (·.servlet.serial))

/-- The state after all components of a registry were destroyed. -/
def destroy (r : Registry) (s : Container) : Container :=
  let released := r.filters.values.foldl (fun s f => f.release s) s
  r.wrappers.foldl
    (fun s w => s.note (.destroyed w.servlet.serial w.servlet.name w.servlet.announced)) released

def hold (r : Registry) (s : Container) : Container :=
  { s with holders := r.serial :: s.holders }.note (.held r.serial)

/-- The state with one holder of a registry less; the last one to go destroys the components. -/
def letGo (r : Registry) (s : Container) : Container :=
  let left := { s with holders := s.holders.erase r.serial }.note (.released r.serial)
  if r.serial ∈ left.holders then left else r.destroy left

def whileHeld (r : Registry) (body : Run α) : Run α := do
  modify r.hold
  body.cleanedBy r.letGo

def makeWrappers (components : ComponentFactory) :
    List Config.ServletEntry → Run (Except RegistryError (List Wrapper))
  | [] => return .ok []
  | entry :: rest => do
    match components.servlets.find? entry.className with
    | none => return .error (.unknownServletClass entry.name entry.className)
    | some cls =>
      match ← makeComponent cls.announced entry.name (cls.make entry) with
      | .error failure => return .error (.servletInit entry.name failure)
      | .ok servlet =>
        let wrapper : Wrapper :=
          { name := entry.name
            className := entry.className
            servlet
            asyncSupported := entry.asyncSupported
            urlPatterns := entry.urlPatterns }
        return (← makeWrappers components rest).map (wrapper :: ·)

/-- Declares the filters of a configuration; of two with one name the last counts. -/
def declareFilters (components : ComponentFactory) :
    List Config.FilterEntry → Dict String FilterConfig → Run (Except RegistryError (Dict String FilterConfig))
  | [], declared => return .ok declared
  | entry :: rest, declared => do
    match components.filters.find? entry.className with
    | none => return .error (.unknownFilterClass entry.name entry.className)
    | some cls =>
      let config : FilterConfig :=
        { serial := ← freshSerial, definition := .ofEntry entry, source := .made cls }
      declareFilters components rest (declared.insert entry.name config)

/-- The default servlet of a configuration among the servlets. -/
def chooseDefault (wrappers : List Wrapper) : Option String → Except RegistryError (Option Wrapper)
  | none => .ok none
  | some name =>
    match wrappers.find? fun w => w.name == name with
    | some w => .ok (some w)
    | none => .error (.unknownDefaultServlet name)

/-- Builds the registry of a configuration: filters, mappings, servlets, then the default
servlet. It has no holder yet. -/
def build (config : Config) (components : ComponentFactory) : Run (Except RegistryError Registry) := do
  match ← declareFilters components config.filters {} with
  | .error e => return .error e
  | .ok filters =>
    match config.filterMappings.mapM FilterMapping.ofEntry with
    | .error e => return .error (.mapping e)
    | .ok mappings =>
      match ← makeWrappers components config.servlets with
      | .error e => return .error e
      | .ok wrappers =>
        match chooseDefault wrappers config.defaultServlet with
        | .error e => return .error e
        | .ok defaultServlet =>
          log .info "Registry built"
            [("filters", .number filters.size), ("filter_mappings", .number mappings.length),
              ("servlets", .number wrappers.length)]
          let registry : Registry :=
            { serial := ← freshSerial, mappings, filters, wrappers, defaultServlet }
          record registry.birth
          return .ok registry

end Registry

end ServletFilters
