import ServletFilters.CommandLine.Invocation
import ServletFilters.Component.Builtin.Servlets
import ServletFilters.Config.Source
import ServletFilters.Container.Lifetime

/-!
# What commands print

A command prints its answer and succeeds, or prints nothing and fails. The filters for a request
are numbered in the order in which they run; mapped names that no filter has are listed without
a number, since chains pass over them.
-/

namespace ServletFilters.CommandLine

/-- The registry of a configuration with the classes that are always known. -/
def registryOf? (config : Config) : Option Registry :=
  match (Registry.build config .builtin {}).1 with
  | .ok (.ok registry) => some registry
  | _ => none

def servletLine (w : Wrapper) : String :=
  "  servlet " ++ w.name ++ " (" ++ w.className ++ ") " ++
    Text.shownList (w.urlPatterns.map Text.quote)

def checkLines (config : Config) : Option (List String) :=
  (registryOf? config).map fun registry =>
    ["Configuration OK", "  filters:         " ++ toString config.filters.length,
      "  filter mappings: " ++ toString config.filterMappings.length] ++
      registry.wrappers.map servletLine

/-- The lines for mapped names, the first filter having this number. -/
def numbered (isFilter : String → Bool) : Nat → List String → List String
  | _, [] => []
  | n, name :: rest =>
    if isFilter name then (toString n ++ ". " ++ name) :: numbered isFilter (n + 1) rest
    else ("-  " ++ name ++ " (undefined, skipped)") :: numbered isFilter n rest

def chainLines (config : Config) (names : List String) : List String :=
  if names.isEmpty then ["(no filters)"]
  else numbered (fun name => config.filters.any fun f => f.name == name) 1 names

/-- The servlet that a request is for: the one that is named, or the one that is mapped to the
path. -/
def servletFor (config : Config) (path servlet : Option String) : Option (Option String) :=
  match servlet, path with
  | some name, _ => some (some name)
  | none, some path => (registryOf? config).map fun registry => (registry.mapServlet path).map (·.name)
  | none, none => some none

def resolveLines (config : Config) (path servlet : Option String) (dispatcher : Dispatcher) :
    Option (List String) := do
  let mappings ← (config.filterMappings.mapM FilterMapping.ofEntry).toOption
  let servlet ← servletFor config path servlet
  let names := ServletFilters.resolve mappings dispatcher path servlet
  return (dispatcher.name ++ " " ++ path.getD "-" ++ " → " ++ servlet.getD "-") ::
    (chainLines config names).map ("  " ++ ·)

def Command.lines (config : Config) : Command → Option (List String)
  | .check => checkLines config
  | .resolve path servlet dispatcher => resolveLines config path servlet dispatcher

structure Outcome where
  code : Nat
  output : String := ""
  deriving DecidableEq, Repr

/-- Runs a command on the content of the configuration file. -/
def Command.run (command : Command) (content : Option String) : Outcome :=
  match (Config.load content).toOption.bind command.lines with
  | some lines => { code := 0, output := String.join (lines.map (· ++ "\n")) }
  | none => { code := 1 }

/-- Runs a command line; `read` gives the content of a file. -/
def respond [Monad m] (read : String → m (Option String)) (words : List String) : m Outcome :=
  match parse words with
  | .help text => pure { code := 0, output := text }
  | .misuse => pure { code := 2 }
  | .run path command => do return command.run (← read path)

end ServletFilters.CommandLine
