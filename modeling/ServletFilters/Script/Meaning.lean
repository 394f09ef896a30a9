import ServletFilters.Script.Step
import ServletFilters.Text.Numeral

/-!
# What scripts do

A script is turned into a program. A failing step ends the script it stands in, unless an
`attempt` around it takes the failure; breaking off is not a failure and ends everything.
-/

namespace ServletFilters.Script

/-- The number in an attribute; zero where there is none. -/
def numberIn (request : Request) (name : String) : Int :=
  ((request.attributes.find? name).bind Text.integer?).getD 0

/-- The failure of a step that addresses a pipeline from a request that has none. -/
def noPipeline : Failure := .runtime "script: no pipeline"

def report (value : View → Observation) (next : Program) : Program :=
  .look fun v => .perform (.observe (value v)) next

/-- Reports something that is read off the exchange, and then changes the exchange. -/
def reportThen (value : View → Observation) (action : Action) (next : Program) : Program :=
  .look fun v => .perform action (.perform (.observe (value v)) next)

def continueWith (onFailure : Failure → Program) (next : Program) : Result → Program
  | .ok () => next
  | .error failure => onFailure failure

def withPipeline (onFailure : Failure → Program) (body : Program) : Program :=
  .look fun v => if v.attached then body else onFailure noPipeline

def withChain (hasChain : Bool) (onFailure : Failure → Program) (body : Program) : Program :=
  if hasChain then body else onFailure Program.noChain

mutual
/-- The program of one step: what it does, followed by what comes next, or by the answer to its
failure. -/
def Step.program (hasChain : Bool) (onFailure : Failure → Program) (next : Program) : Step → Program
  | .write bytes => .perform (.write bytes) next
  | .setHeader name value => .perform (.setHeader name value) next
  | .addHeader name value => .perform (.addHeader name value) next
  | .setStatus status => .perform (.setStatus status) next
  | .resetBuffer => .perform .resetBuffer next
  | .takeBody => reportThen (fun v => .takenBody v.response.body) .resetBuffer next
  | .reportResponseHeader name => report (fun v => .responseHeader (v.response.headers.get? name)) next
  | .reportResponse => report (fun v => .response v.response) next
  | .listResponse => report (fun v => .shown v.response.shown) next
  | .reportHeader name => report (fun v => .header (v.request.header? name)) next
  | .reportAttribute name => report (fun v => .attribute (v.request.attributes.find? name)) next
  | .setAttribute name value => .perform (.setAttribute name value) next
  | .removeAttribute name =>
    reportThen (fun v => .removed (v.request.attributes.find? name)) (.removeAttribute name) next
  | .reportFields => report (fun v => .fields v.request) next
  | .reportParams => report (fun v => .params (Query.parse (v.request.query.getD ""))) next
  | .reportState => report (fun v => .state v.request v.trackedRequest v.trackedResponse) next
  | .reportAttached => report (fun v => .attached v.attached) next
  | .replaceDispatch state =>
    reportThen (fun v => .previous v.request.dispatch) (.replaceDispatch state) next
  | .startAsync => .startAsync (continueWith onFailure next)
  | .takeAsync => reportThen (fun v => .taken v.request.asyncStarted) .takeAsync next
  | .setAsyncSupported yes => .perform (.setAsyncSupported yes) next
  | .setNonAsyncComponents names => .perform (.setNonAsyncComponents names) next
  | .listRequest => report (fun v => .shown v.request.shown) next
  | .proceed => withChain hasChain onFailure (.proceed (continueWith onFailure next))
  | .reuse => withChain hasChain onFailure (.chain .reuse fun _ => next)
  | .release => withChain hasChain onFailure (.chain .release fun _ => next)
  | .reportChain => withChain hasChain onFailure (.chain .observe fun _ => next)
  | .note text => .perform (.observe (.note text)) next
  | .fail failure => onFailure failure
  | .panic message => .panic message
  | .attempt body handler =>
    let answer := programOf hasChain onFailure next handler
    programOf hasChain (fun failure => .perform (.observe (.caught failure)) answer) next body
  | .ifHeader name yes no =>
    let yes := programOf hasChain onFailure next yes
    let no := programOf hasChain onFailure next no
    .look fun v => if (v.request.header? name).isSome then yes else no
  | .ifDispatcher dispatcher yes no =>
    let yes := programOf hasChain onFailure next yes
    let no := programOf hasChain onFailure next no
    .look fun v => if v.request.dispatch.dispatcher = dispatcher then yes else no
  | .increment name =>
    .look fun v => .perform (.setAttribute name (toString (numberIn v.request name + 1))) next
  | .ifLess name bound yes no =>
    let yes := programOf hasChain onFailure next yes
    let no := programOf hasChain onFailure next no
    .look fun v => if numberIn v.request name < bound then yes else no
  | .dispatch dispatcher target =>
    withPipeline onFailure (.dispatch dispatcher target (continueWith onFailure next))
  | .reload config =>
    withPipeline onFailure (match config with
      | .ok config => .reload config (continueWith onFailure next)
      | .error failure => onFailure failure)
/-- The program of a list of steps, followed by what comes next. -/
def programOf (hasChain : Bool) (onFailure : Failure → Program) (next : Program) : List Step → Program
  | [] => next
  | step :: rest => step.program hasChain onFailure (programOf hasChain onFailure next rest)
end

def program (hasChain : Bool) (steps : List Step) : Program :=
  programOf hasChain .fail .done steps

end ServletFilters.Script
