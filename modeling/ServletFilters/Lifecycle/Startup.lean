import ServletFilters.Config.Source
import ServletFilters.Http.Server
import ServletFilters.Http.SocketAddress

/-!
# Startup

The steps from a configuration file to a server that listens: load the configuration, build the
pipeline, watch the file, and take the address. Only an address for metrics that cannot be read
is no reason to stop.
-/

namespace ServletFilters

inductive StartupError where
  | config (error : ConfigError)
  | registry (error : RegistryError)
  /-- The address to listen on cannot be had. -/
  | bind (address : String)
  deriving DecidableEq, Repr

def StartupError.message : StartupError → String
  | .config error => error.message
  | .registry error => "failed to build pipeline: " ++ error.message
  | .bind address => "failed to bind " ++ address

namespace Startup

/-- How long the watched file has to be quiet before it is read again, in milliseconds. -/
def debounceMillis : Nat := 250

/-- Opens the address for metrics, if metrics are asked for. -/
def openMetrics (o : Config.Observability) : Run Unit :=
  if !o.metricsEnabled then pure ()
  else if Http.SocketAddress.isValid o.metricsAddress then
    log .info "Metrics endpoint listening" [("address", .text o.metricsAddress)]
  else
    log .error "Failed to parse metrics address" [("metrics_address", .text o.metricsAddress)]

/-- Starts a server for the configuration in a file; `canBind` says which addresses can be
had. -/
def run (content : Option String) (components : ComponentFactory) (canBind : String → Bool) :
    Run (Except StartupError Http.Server) := do
  match Config.load content with
  | .error e => return .error (.config e)
  | .ok config =>
    log .info "filter-pipeline starting"
      [("filters", .number config.filters.length), ("servlets", .number config.servlets.length)]
    openMetrics config.observability
    match ← Pipeline.ofConfig config components with
    | .error e => return .error (.registry e)
    | .ok pipeline =>
      log .info "Config watcher started" [("debounce_ms", .number debounceMillis)]
      let address := config.listener.bindAddress
      if canBind address then return .ok { config, pipeline }
      else
        Pipeline.close pipeline
        return .error (.bind address)

end Startup

end ServletFilters
