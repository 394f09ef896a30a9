import ServletFilters.Config.Schema
import ServletFilters.Routing.Dispatcher
import ServletFilters.Routing.UrlPattern

/-!
# Validation

The rules that a configuration has to keep, and the list of its defects in the order of its
parts. A mapping may name a filter that is not declared; such a mapping has no effect.
-/

namespace ServletFilters

inductive Defect where
  | duplicateFilter (name : String)
  | duplicateServlet (name : String)
  | invalidUrlPattern (owner pattern : String)
  | unknownDispatcher (filter dispatcher : String)
  | emptyMapping (filter : String)
  | unknownDefaultServlet (name : String)
  | zeroTimeout
  deriving DecidableEq, Repr

def Defect.message : Defect → String
  | .duplicateFilter name => "duplicate filter name '" ++ name ++ "'"
  | .duplicateServlet name => "duplicate servlet name '" ++ name ++ "'"
  | .invalidUrlPattern owner pattern =>
    "invalid URL pattern '" ++ pattern ++ "' for '" ++ owner ++ "'"
  | .unknownDispatcher filter dispatcher =>
    "unknown dispatcher '" ++ dispatcher ++ "' in mapping for filter '" ++ filter ++ "'"
  | .emptyMapping filter =>
    "mapping for filter '" ++ filter ++ "' has neither URL patterns nor servlet names"
  | .unknownDefaultServlet name => "default servlet '" ++ name ++ "' is not defined"
  | .zeroTimeout => "request timeout must be greater than zero"

namespace Config

/-- The words that stood in the list before, once for each such place. -/
def repeated : List String → List String
  | words => (words.zipIdx.filter fun w => w.1 ∈ words.take w.2).map (·.1)

/-- The patterns of an owner that have none of the valid forms. -/
def patternDefects (owner : String) (patterns : List String) : List Defect :=
  (patterns.filter fun p => !UrlPattern.isValid p).map (.invalidUrlPattern owner)

def MappingEntry.defects (entry : MappingEntry) : List Defect :=
  let empty := entry.urlPatterns.isEmpty && entry.servletNames.isEmpty
  (if empty then [.emptyMapping entry.filterName] else []) ++
    patternDefects entry.filterName entry.urlPatterns ++
    (entry.dispatchers.filter fun d => !(Dispatcher.parse d).isOk).map
      (.unknownDispatcher entry.filterName)

/-- The defects of the servlets, given the names of those before. -/
def servletDefects : List String → List ServletEntry → List Defect
  | _, [] => []
  | seen, entry :: rest =>
    (if entry.name ∈ seen then [.duplicateServlet entry.name] else []) ++
      patternDefects entry.name entry.urlPatterns ++ servletDefects (entry.name :: seen) rest

def defaultDefects (config : Config) : List Defect :=
  match config.defaultServlet with
  | none => []
  | some name =>
    if config.servlets.any fun s => s.name == name then [] else [.unknownDefaultServlet name]

def defects (config : Config) : List Defect :=
  (if config.timeouts.requestSecs = 0 then [.zeroTimeout] else []) ++
    (repeated (config.filters.map (·.name))).map .duplicateFilter ++
    config.filterMappings.flatMap MappingEntry.defects ++
    servletDefects [] config.servlets ++ defaultDefects config

end Config

end ServletFilters
