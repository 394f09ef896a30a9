/-!
# Help texts

A help text names a command and lists what may follow it, with the explanations in one column.
-/

namespace ServletFilters.CommandLine

def columns (rows : List (String × String)) : List String :=
  let width := rows.foldl (fun w r => max w r.1.length) 0
  rows.map fun r =>
    "  " ++ r.1 ++ String.ofList (List.replicate (width - r.1.length + 2) ' ') ++ r.2

def listing (heading : String) (rows : List (String × String)) : List String :=
  if rows.isEmpty then [] else ["", heading ++ ":"] ++ columns rows

def helpText (about usage : String) (commands arguments options : List (String × String)) : String :=
  "\n".intercalate
    ([about, "", "Usage: " ++ usage] ++ listing "Commands" commands ++
      listing "Arguments" arguments ++ listing "Options" options) ++ "\n"

def helpRow : String × String := ("-h, --help", "Print help")

def aboutCheck : String := "Validate the configuration and list its components"

def aboutResolve : String := "Print the filters applied to a request, in execution order"

def aboutHelp : String := "Print this message or the help of the given subcommand(s)"

def programHelp : String :=
  helpText "Offline inspection of a filter pipeline configuration"
    "pipeline-cli [OPTIONS] <COMMAND>"
    [("check", aboutCheck), ("resolve", aboutResolve), ("help", aboutHelp)] []
    [("-c, --config <CONFIG>", "Path to the TOML configuration file [default: pipeline.toml]"), helpRow]

def checkHelp : String := helpText aboutCheck "pipeline-cli check" [] [] [helpRow]

def resolveHelp : String :=
  helpText aboutResolve "pipeline-cli resolve [OPTIONS]" [] []
    [("-p, --path <PATH>", "Request path; omit for a named dispatch"),
      ("-s, --servlet <SERVLET>", "Target servlet; defaults to the servlet mapped to the path"),
      ("-d, --dispatcher <DISPATCHER>",
        "Dispatcher type (REQUEST, FORWARD, INCLUDE, ASYNC, ERROR) [default: REQUEST]"),
      helpRow]

def helpHelp : String :=
  helpText aboutHelp "pipeline-cli help [COMMAND]..." []
    [("[COMMAND]...", "Print help for the subcommand(s)")] []

end ServletFilters.CommandLine
