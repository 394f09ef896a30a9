import ServletFilters.Component.Class
import ServletFilters.Text.Numeral

/-!
# The filters that are always known

`request-log` logs how each request ended, `response-header` adds a header to every response,
and `require-header` stops requests that lack a header.
-/

namespace ServletFilters.Builtin

def requestLog : Program :=
  .proceed fun result => .look fun v =>
    let about (r : Request) : List (String × LogValue) :=
      [("request_id", .text r.id), ("method", .text r.method), ("path", .text r.path)]
    match result with
    | .ok () =>
      .perform
        (.log {
          level := .info
          message := "Request serviced"
          fields := about v.request ++
            [("dispatcher", .text v.request.dispatch.dispatcher.name),
              ("status", .number v.response.status.toNat)] })
        .done
    | .error failure =>
      .perform
        (.log {
          level := .warn
          message := "Request failed"
          fields := about v.request ++ [("error", .text failure.message)] })
        (.fail failure)

def responseHeader (name value : String) : Program :=
  .perform (.setHeader name value) (.proceed .finish)

/-- Goes on if the request has the header; otherwise answers that it is missing. -/
def requireHeader (header : String) (status : UInt16) : Program :=
  .look fun v =>
    if (v.request.header? header).isSome then .proceed .finish
    else
      .performAll
        [.setStatus status, .setHeader "content-type" "text/plain",
          .write (utf8 ("missing required header: " ++ header ++ "\n"))]
        .done

def requiredParam (d : FilterDefinition) (name : String) : Except Failure String :=
  match d.initParams.find? name with
  | some value => .ok value
  | none => .error (.servlet ("filter '" ++ d.name ++ "' (" ++ d.className ++
      ") requires init parameter '" ++ name ++ "'"))

/-- A status in a parameter, or the usual one where there is no such parameter. -/
def statusParam (owner : String) (given : Option String) (usual : UInt16) : Except Failure UInt16 :=
  match given with
  | none => .ok usual
  | some text =>
    match Text.unsigned? 16 text with
    | some n => .ok (UInt16.ofNat n)
    | none => .error (.servlet (owner ++ ": invalid status '" ++ text ++ "'"))

/-- A class whose making fails or succeeds, and never panics. -/
def making (made : Except Failure Program) : Making :=
  match made with
  | .ok program => .ready program
  | .error failure => .refused failure

def requestLogClass : FilterClass where
  make _ _ := .ready requestLog

def responseHeaderClass : FilterClass where
  make d _ := making do
    let name ← requiredParam d "name"
    let value ← requiredParam d "value"
    return responseHeader name value

/-- The class `require-header`; the status is read before the name of the header. -/
def requireHeaderClass : FilterClass where
  make d _ := making do
    let status ← statusParam ("filter '" ++ d.name ++ "'") (d.initParams.find? "status") 401
    let header ← requiredParam d "header"
    return requireHeader header status

end ServletFilters.Builtin
