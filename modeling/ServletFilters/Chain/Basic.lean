import ServletFilters.Component.Executor
import ServletFilters.Registry.Basic

/-!
# Chains

The filters in front of a servlet, and how far a request has come. A chain holds each declared
filter at most once and makes room for ten filters at a time; the room outlives a release.
-/

namespace ServletFilters

/-- The filters before a servlet and the place that a request has reached. -/
structure Chain where
  filters : List FilterConfig := []
  position : Nat := 0
  servlet : Option Component := none
  servletAsync : Bool := false
  executor : Option Executor := none
  /-- Whether the exchange is put on record while the servlet runs. -/
  tracking : Bool := false
  capacity : Nat := 0
  deriving Inhabited

namespace Chain

/-- The number of filters for which room is made at a time. -/
def increment : Nat := 10

/-- The chain with one more filter, unless it holds that filter already. -/
def addFilter (c : Chain) (f : FilterConfig) : Chain :=
  if c.filters.any (fun g => g.serial == f.serial) then c
  else
    { c with
      filters := c.filters ++ [f]
      capacity := if c.filters.length = c.capacity then c.capacity + increment else c.capacity }

def setServlet (c : Chain) (servlet : Component) (async : Bool) : Chain :=
  { c with servlet := some servlet, servletAsync := async }

def reuse (c : Chain) : Chain := { c with position := 0 }

def release (c : Chain) : Chain :=
  { c with filters := [], position := 0, servlet := none, servletAsync := false }

def configure (c : Chain) (filters : List FilterConfig) (servlet : Component) (async : Bool) : Chain :=
  (filters.foldl addFilter c.release).setServlet servlet async

def filterNames (c : Chain) : List String := c.filters.map (·.name)

/-- The classes of the filters behind which a request may not be suspended, each once and in
order, together with some given ones. -/
def nonAsyncClasses (c : Chain) (given : List String) : List String :=
  ComponentFactory.sorted
    (firsts (given ++ (c.filters.filter (·.declinesAsync)).map (·.className)))

def view (c : Chain) : ChainView where
  filters := c.filterNames
  position := c.position
  capacity := c.capacity
  hasServlet := c.servlet.isSome
  nonAsync := c.nonAsyncClasses []

def shown (c : Chain) : String :=
  Text.shownRecord "FilterChain"
    [("filters", Text.shownList (c.filterNames.map Text.quote)), ("pos", toString c.position),
      ("has_servlet", Text.shownBool c.servlet.isSome),
      ("servlet_supports_async", Text.shownBool c.servletAsync),
      ("privileged", Text.shownBool c.executor.isSome)]

end Chain

end ServletFilters
