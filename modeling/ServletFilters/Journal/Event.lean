import ServletFilters.Journal.Observation

/-!
# The journal

What happens in a container, event by event. The journal is kept newest first; it holds the
life of every registry and component, the steps of every chain, what components report, the
measurements and the log. The level of an event is the number of traversals it happens in, each
inside the one before.
-/

namespace ServletFilters

inductive Operation where
  | doFilter
  | service
  deriving DecidableEq, Repr

def Operation.name : Operation → String
  | .doFilter => "doFilter"
  | .service => "service"

inductive LogLevel where
  | info
  | warn
  | error
  deriving DecidableEq, Repr

def LogLevel.name : LogLevel → String
  | .info => "INFO"
  | .warn => "WARN"
  | .error => "ERROR"

inductive LogValue where
  | text (text : String)
  | number (n : Nat)
  | flag (b : Bool)
  deriving DecidableEq, Repr

structure LogEntry where
  level : LogLevel
  message : String
  fields : List (String × LogValue) := []
  deriving DecidableEq, Repr

inductive Measurement where
  /-- A chain was populated with this many filters. -/
  | chainBuilt (length : Nat)
  | filterInvoked (name : String)
  | servletInvoked
  /-- A serviced request failed. -/
  | chainFailed (kind : FailureKind)
  /-- A chain was asked of the pool, which had one or not. -/
  | poolAcquired (hit : Bool)
  deriving DecidableEq, Repr

inductive Event where
  /-- The construction of an announced component begins, as the `count`-th of its name. -/
  | constructing (name : String) (count : Nat)
  /-- A component was constructed. -/
  | constructed (component : Nat) (name : String)
  /-- A declared filter gave its instance. -/
  | supplied (level filter component : Nat)
  /-- A component is called, at this depth of internal dispatches. -/
  | invoked (level : Nat) (stage : Stage) (component : Nat) (name : String) (depth : Nat)
  /-- A component was destroyed. -/
  | destroyed (component : Nat) (name : String) (announced : Bool)
  /-- A registry was built, with these declared filters and these servlets. -/
  | built (registry : Nat) (filters servlets : List Nat)
  /-- A registry has one holder more. -/
  | held (registry : Nat)
  /-- A registry has one holder less. -/
  | released (registry : Nat)
  /-- A registry becomes the current one of a pipeline. -/
  | installed (pipeline registry : Nat)
  /-- A traversal begins in a pipeline, on this registry and for this servlet. -/
  | traversed (level pipeline registry : Nat) (servlet : String) (state : DispatchState)
  /-- A chain goes on to the filter in this slot, or to its servlet. -/
  | advanced (level : Nat) (slot : Option Nat)
  /-- A filter put its chain back to the first filter. -/
  | rewound (level : Nat)
  /-- A filter emptied its chain. -/
  | emptied (level : Nat)
  /-- A filter asked for how many filters its chain has room. -/
  | gauged (level : Nat)
  /-- A component reports something. -/
  | observed (who : String) (value : Observation)
  /-- An executor reports that it is called. -/
  | executed (operation : Operation) (principal : Option String)
  | measured (measurement : Measurement)
  | logged (entry : LogEntry)

end ServletFilters
