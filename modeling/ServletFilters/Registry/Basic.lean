import ServletFilters.Component.Class
import ServletFilters.Routing.Resolution

/-!
# Registries

A registry holds what a configuration declares: filters by name, mappings in order and
servlets in order. It never changes once it is built; which of its filters have been made is
part of the container.
-/

namespace ServletFilters

inductive FilterSource where
  | made (cls : FilterClass)
  | given (component : Component)

/-- A declared filter. It is made when it is first needed. -/
structure FilterConfig where
  /-- Tells this declaration from all others. -/
  serial : Nat
  definition : FilterDefinition
  source : FilterSource

namespace FilterConfig

def name (f : FilterConfig) : String := f.definition.name

def className (f : FilterConfig) : String := f.definition.className

/-- Whether requests may not be suspended behind the filter. -/
def declinesAsync (f : FilterConfig) : Bool := f.definition.asyncSupport = .unsupported

def shown (f : FilterConfig) (initialised : Bool) : String :=
  let params := f.definition.initParams.entries.map fun e => Text.quote e.1 ++ ": " ++ Text.quote e.2
  Text.shownRecord "FilterConfig"
    [("def", Text.shownRecord "FilterDef"
        [("name", Text.quote f.name), ("class", Text.quote f.className),
          ("async_supported", f.definition.asyncSupport.label),
          ("init_params", Text.shownSet params)]),
      ("initialised", Text.shownBool initialised)]

end FilterConfig

/-- A servlet in its place: the component, and the paths that it serves. -/
structure Wrapper where
  name : String
  className : String
  servlet : Component
  asyncSupported : Bool := false
  urlPatterns : List String := []
  deriving Inhabited

def Wrapper.shown (w : Wrapper) : String :=
  Text.shownRecord "Wrapper"
    [("name", Text.quote w.name), ("class", Text.quote w.className),
      ("async_supported", Text.shownBool w.asyncSupported),
      ("url_patterns", Text.shownList (w.urlPatterns.map Text.quote))]

structure Registry where
  /-- Tells this registry from all others. -/
  serial : Nat
  mappings : List FilterMapping := []
  filters : Dict String FilterConfig := {}
  wrappers : List Wrapper := []
  defaultServlet : Option Wrapper := none
  deriving Inhabited

/-- Filters that stand under their own names, no two of them one declaration. -/
structure Dict.Declares (filters : Dict String FilterConfig) : Prop where
  named : ∀ {name : String} {f : FilterConfig}, filters.find? name = some f → f.name = name
  distinct : (filters.values.map (·.serial)).Nodup

namespace Registry

/-- The servlet of a name; the first counts. -/
def findWrapper (r : Registry) (name : String) : Option Wrapper :=
  r.wrappers.find? fun w => w.name == name

/-- The servlet for a path: the first with a pattern for it, else the default servlet. -/
def mapServlet (r : Registry) (path : String) : Option Wrapper :=
  (r.wrappers.find? fun w => w.urlPatterns.any fun p => UrlPattern.accepts p path).or
    r.defaultServlet

end Registry

end ServletFilters
