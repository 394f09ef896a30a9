import ServletFilters.Failure
import ServletFilters.Routing.Dispatcher

/-!
# Why a registry cannot be built
-/

namespace ServletFilters

inductive RegistryError where
  | unknownFilterClass (filter className : String)
  | unknownServletClass (servlet className : String)
  /-- A servlet could not be made. -/
  | servletInit (servlet : String) (source : Failure)
  /-- A mapping names an unknown dispatcher kind. -/
  | mapping (error : UnknownDispatcher)
  | unknownDefaultServlet (name : String)
  deriving DecidableEq, Repr

def RegistryError.message : RegistryError → String
  | .unknownFilterClass filter className =>
    "filter '" ++ filter ++ "' uses unknown class '" ++ className ++ "'"
  | .unknownServletClass servlet className =>
    "servlet '" ++ servlet ++ "' uses unknown class '" ++ className ++ "'"
  | .servletInit servlet source =>
    "servlet '" ++ servlet ++ "' failed to initialise: " ++ source.message
  | .mapping error => error.message
  | .unknownDefaultServlet name => "default servlet '" ++ name ++ "' is not defined"

end ServletFilters
