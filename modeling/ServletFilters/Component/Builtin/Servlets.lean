import ServletFilters.Component.Builtin.Filters

/-!
# The servlets that are always known

`echo` answers with the request, `static-text` with a fixed text, `forwarding` with what
another servlet answers, and `async-echo` after the request was suspended once.
-/

namespace ServletFilters.Builtin

/-- Answers with the request line, the dispatcher and the body. -/
def echo : Program :=
  .look fun v =>
    .performAll
      [.setHeader "content-type" "text/plain",
        .write (utf8 (v.request.method ++ " " ++ v.request.path ++ " dispatcher=" ++
          v.request.dispatch.dispatcher.name ++ "\n")),
        .write v.request.body]
      .done

def staticText (status : UInt16) (contentType body : String) : Program :=
  .performAll
    [.setStatus status, .setHeader "content-type" contentType, .write (utf8 body)]
    .done

/-- Sends every request to a path; a forward discards what was written before. -/
def forwarding (dispatcher : Dispatcher) (path : String) : Program :=
  .look fun v =>
    if !v.attached then .fail Program.notAttached
    else if dispatcher = .forward then
      .perform .resetBuffer (.dispatch dispatcher (.path path) .finish)
    else .dispatch dispatcher (.path path) .finish

def asyncEcho : Program :=
  .look fun v =>
    if v.request.dispatch.dispatcher = .async then
      .performAll
        [.setHeader "content-type" "text/plain",
          .write (utf8 ("resumed " ++ v.request.path ++ "\n"))]
        .done
    else .startAsync .finish

/-- The way in which a forwarding servlet dispatches; forwarding is meant where nothing is said. -/
def modeParam (servlet : String) : Option String → Except Failure Dispatcher
  | none | some "forward" => .ok .forward
  | some "include" => .ok .inclusion
  | some mode => .error (.servlet ("servlet '" ++ servlet ++ "': unknown mode '" ++ mode ++ "'"))

def echoClass : ServletClass where
  make _ _ := .ready echo

def staticTextClass : ServletClass where
  make entry _ := making do
    let param (name usual : String) := (entry.initParams.find? name).getD usual
    let status ← statusParam ("servlet '" ++ entry.name ++ "'") (entry.initParams.find? "status") 200
    return staticText status (param "content_type" "text/plain") (param "body" "")

def forwardingClass : ServletClass where
  make entry _ := making do
    match entry.initParams.find? "target" with
    | none =>
      .error (.servlet ("servlet '" ++ entry.name ++ "' requires init parameter 'target'"))
    | some target =>
      let dispatcher ← modeParam entry.name (entry.initParams.find? "mode")
      return forwarding dispatcher target

def asyncEchoClass : ServletClass where
  make _ _ := .ready asyncEcho

end ServletFilters.Builtin

namespace ServletFilters

def ComponentFactory.builtin : ComponentFactory where
  filters := .ofList
    [("request-log", Builtin.requestLogClass), ("response-header", Builtin.responseHeaderClass),
      ("require-header", Builtin.requireHeaderClass)]
  servlets := .ofList
    [("echo", Builtin.echoClass), ("static-text", Builtin.staticTextClass),
      ("forwarding", Builtin.forwardingClass), ("async-echo", Builtin.asyncEchoClass)]

end ServletFilters
