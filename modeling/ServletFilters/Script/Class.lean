import ServletFilters.Container.Service
import ServletFilters.Script.Meaning

/-!
# Classes of scripted components

The parameter `script` names the script of a component. The parameters `panic_init` and
`fail_init` say how many of the first makings break off or fail, and `fail_kind` how they fail.

A step can also be executed on the current exchange, outside of every component and chain. What it
reports itself is its answer; what steps inside it report is written down as usual.
-/

namespace ServletFilters.Script

abbrev Library := Dict String (List Step)

/-- The failure with which making a component is refused. Two kinds have texts of their own. -/
def refusal (kind : Option String) (name : String) : Failure :=
  let message := "cannot build " ++ name
  match kind with
  | some "io" => .io message
  | some "io_kind" => .io "entity not found"
  | some "runtime" => .runtime message
  | some "fatal" => .fatal message
  | some "other" => .other (.text message)
  | some "invocation" => .invocation (.servlet "")
  | _ => .servlet message

def making (scripts : Library) (hasChain : Bool) (name : String) (params : Dict String String)
    (count : Nat) : Making :=
  let upTo (param : String) : Nat := ((params.find? param).bind (Text.unsigned? 64)).getD 0
  if count ≤ upTo "panic_init" then .panicked ("init of " ++ name ++ " panicked")
  else if count ≤ upTo "fail_init" then .refused (refusal (params.find? "fail_kind") name)
  else
    let steps := ((params.find? "script").bind scripts.find?).getD []
    .ready (program hasChain steps)

def filterClass (scripts : Library) : FilterClass where
  announced := true
  make d count := making scripts true d.name d.initParams count

def servletClass (scripts : Library) : ServletClass where
  announced := true
  make entry count := making scripts false entry.name entry.initParams count

def takeReport : Run (Option Observation) :=
  modifyGet fun s =>
    match s.journal with
    | .observed _ value :: rest => (some value, { s with journal := rest })
    | _ => (none, s)

/-- Executes a step under a name; components may call each other so many levels deep. -/
def execute (levels : Nat) (who : String) (step : Step) : Run (Except Failure (Option Observation)) := do
  let single : Component := { serial := 0, name := who, program := program false [step] }
  match ← single.program.run (nestedCalls levels) single false with
  | .error failure => return .error failure
  | .ok () => if step.reports then return .ok (← takeReport) else return .ok none

end ServletFilters.Script

namespace ServletFilters

def ComponentFactory.withScripts (f : ComponentFactory) (scripts : Script.Library)
    (classes : List String) : ComponentFactory :=
  classes.foldl
    (fun f name =>
      (f.registerFilter name (Script.filterClass scripts)).registerServlet name
        (Script.servletClass scripts))
    f

end ServletFilters
