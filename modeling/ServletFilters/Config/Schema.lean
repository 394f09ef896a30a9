import ServletFilters.Data.Dict

/-!
# The configuration

What a configuration says, with the value that each missing part stands for. The order of
fields is the order in which a part may be given as a plain list of values.
-/

namespace ServletFilters

namespace Config

structure Listener where
  bindAddress : String := "0.0.0.0:8080"
  maxBodyBytes : Nat := 1048576
  deriving DecidableEq, Repr, Inhabited

structure Timeouts where
  requestSecs : Nat := 30
  deriving DecidableEq, Repr, Inhabited

structure Observability where
  logLevel : String := "info"
  metricsEnabled : Bool := false
  metricsAddress : String := "0.0.0.0:9090"
  deriving DecidableEq, Repr, Inhabited

/-- Whether the exchange last handed to a servlet is on record while the servlet runs. -/
structure Isolation where
  trackLastServiced : Bool := false
  deriving DecidableEq, Repr, Inhabited

structure Security where
  privilegedExecution : Bool := false
  deriving DecidableEq, Repr, Inhabited

structure Pool where
  maxIdlePerServlet : Nat := 64
  deriving DecidableEq, Repr, Inhabited

structure FilterEntry where
  name : String
  className : String
  asyncSupported : Option Bool := none
  initParams : Dict String String := {}
  deriving DecidableEq, Repr, Inhabited

structure MappingEntry where
  filterName : String
  urlPatterns : List String := []
  servletNames : List String := []
  dispatchers : List String := []
  deriving DecidableEq, Repr, Inhabited

structure ServletEntry where
  name : String
  className : String
  urlPatterns : List String := []
  asyncSupported : Bool := false
  initParams : Dict String String := {}
  deriving DecidableEq, Repr, Inhabited

end Config

structure Config where
  listener : Config.Listener := {}
  timeouts : Config.Timeouts := {}
  observability : Config.Observability := {}
  isolation : Config.Isolation := {}
  security : Config.Security := {}
  pool : Config.Pool := {}
  filters : List Config.FilterEntry := []
  filterMappings : List Config.MappingEntry := []
  servlets : List Config.ServletEntry := []
  defaultServlet : Option String := none
  deriving DecidableEq, Repr, Inhabited

/-- The rule by which log lines are selected when nothing else is asked for. -/
def Config.Observability.directive (o : Config.Observability) : String :=
  "filter_pipeline=" ++ o.logLevel ++ ",tower_http=" ++ o.logLevel

end ServletFilters
