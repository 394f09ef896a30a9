import ServletFilters.CommandLine.Help
import ServletFilters.CommandLine.Options
import ServletFilters.Routing.Dispatcher

/-!
# What a command line asks for
-/

namespace ServletFilters.CommandLine

inductive Command where
  /-- Checks the configuration and lists its components. -/
  | check
  /-- Lists the filters for a request. -/
  | resolve (path servlet : Option String) (dispatcher : Dispatcher)
  deriving DecidableEq, Repr

inductive Invocation where
  | help (text : String)
  | misuse
  | run (configPath : String) (command : Command)
  deriving DecidableEq, Repr

/-- The file that holds the configuration where no other is named. -/
def defaultConfigPath : String := "pipeline.toml"

def programSettings : List Setting :=
  [{ letter := 'c', long := "config", allows := fun value => !value.isEmpty }]

def resolveSettings : List Setting :=
  [{ letter := 'p', long := "path" }, { letter := 's', long := "servlet" },
    { letter := 'd', long := "dispatcher", allows := fun value => (Dispatcher.parse value).isOk }]

def resolveCommand (given : Given) : Command :=
  .resolve (given.lookup "path") (given.lookup "servlet")
    (((given.lookup "dispatcher").bind fun d => (Dispatcher.parse d).toOption).getD .request)

def helpOn : List String → Invocation
  | [] => .help programHelp
  | ["check"] => .help checkHelp
  | ["resolve"] => .help resolveHelp
  | ["help"] => .help helpHelp
  | _ => .misuse

/-- Reads the words after a command, all of which are options. -/
def readCommand (configPath : Option String) (settings : List Setting) (help : String)
    (command : Given → Command) (words : List String) : Invocation :=
  match scan settings [] none words with
  | .help => .help help
  | .finished given =>
    match configPath with
    | some path => .run path (command given)
    | none => .misuse
  | _ => .misuse

/-- Reads a command line. A fault in the last option before the command counts only if the
command is run. -/
def parse (words : List String) : Invocation :=
  match scan programSettings [] none words with
  | .help => .help programHelp
  | .misuse => .misuse
  | .finished _ => .misuse
  | .word w rest given pending =>
    let configPath := (settle given pending).map fun given =>
      (given.lookup "config").getD defaultConfigPath
    match w with
    | "check" => readCommand configPath [] checkHelp (fun _ => .check) rest
    | "resolve" => readCommand configPath resolveSettings resolveHelp resolveCommand rest
    | "help" => helpOn rest
    | _ => .misuse

end ServletFilters.CommandLine
