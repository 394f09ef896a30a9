import ServletFilters.Config.Schema
import ServletFilters.Data.Datum

/-!
# Reading a configuration

Each part of a configuration is read from plain data, by name or by place. Parts that are not
known are passed over, a part that is missing has its usual value, and a part of the wrong kind
spoils the whole.
-/

namespace ServletFilters

namespace Config

def Listener.read (d : Datum) : Option Listener := do
  let parts ← d.parts?
  let usual : Listener := {}
  return {
    bindAddress := ← parts.get 0 "bind_address" Datum.text? usual.bindAddress
    maxBodyBytes := ← parts.get 1 "max_body_bytes" Datum.natural? usual.maxBodyBytes }

def Timeouts.read (d : Datum) : Option Timeouts := do
  let parts ← d.parts?
  let usual : Timeouts := {}
  return { requestSecs := ← parts.get 0 "request_secs" Datum.natural? usual.requestSecs }

def Observability.read (d : Datum) : Option Observability := do
  let parts ← d.parts?
  let usual : Observability := {}
  return {
    logLevel := ← parts.get 0 "log_level" Datum.text? usual.logLevel
    metricsEnabled := ← parts.get 1 "metrics_enabled" Datum.flag? usual.metricsEnabled
    metricsAddress := ← parts.get 2 "metrics_address" Datum.text? usual.metricsAddress }

def Isolation.read (d : Datum) : Option Isolation := do
  let parts ← d.parts?
  return { trackLastServiced := ← parts.get 0 "track_last_serviced" Datum.flag? false }

def Security.read (d : Datum) : Option Security := do
  let parts ← d.parts?
  return { privilegedExecution := ← parts.get 0 "privileged_execution" Datum.flag? false }

def Pool.read (d : Datum) : Option Pool := do
  let parts ← d.parts?
  let usual : Pool := {}
  return {
    maxIdlePerServlet := ← parts.get 0 "max_idle_per_servlet" Datum.natural? usual.maxIdlePerServlet }

def FilterEntry.read (d : Datum) : Option FilterEntry := do
  let parts ← d.parts?
  return {
    name := ← parts.need 0 "name" Datum.text?
    className := ← parts.need 1 "class" Datum.text?
    asyncSupported := ← parts.get 2 "async_supported" (Datum.optional? Datum.flag?) none
    initParams := ← parts.get 3 "init_params" Datum.texts? {} }

def MappingEntry.read (d : Datum) : Option MappingEntry := do
  let parts ← d.parts?
  let texts := Datum.list? Datum.text?
  return {
    filterName := ← parts.need 0 "filter_name" Datum.text?
    urlPatterns := ← parts.get 1 "url_patterns" texts []
    servletNames := ← parts.get 2 "servlet_names" texts []
    dispatchers := ← parts.get 3 "dispatchers" texts [] }

def ServletEntry.read (d : Datum) : Option ServletEntry := do
  let parts ← d.parts?
  return {
    name := ← parts.need 0 "name" Datum.text?
    className := ← parts.need 1 "class" Datum.text?
    urlPatterns := ← parts.get 2 "url_patterns" (Datum.list? Datum.text?) []
    asyncSupported := ← parts.get 3 "async_supported" Datum.flag? false
    initParams := ← parts.get 4 "init_params" Datum.texts? {} }

end Config

def Config.read (d : Datum) : Option Config := do
  let parts ← d.parts?
  return {
    listener := ← parts.get 0 "listener" Listener.read {}
    timeouts := ← parts.get 1 "timeouts" Timeouts.read {}
    observability := ← parts.get 2 "observability" Observability.read {}
    isolation := ← parts.get 3 "isolation" Isolation.read {}
    security := ← parts.get 4 "security" Security.read {}
    pool := ← parts.get 5 "pool" Pool.read {}
    filters := ← parts.get 6 "filters" (Datum.list? FilterEntry.read) []
    filterMappings := ← parts.get 7 "filter_mappings" (Datum.list? MappingEntry.read) []
    servlets := ← parts.get 8 "servlets" (Datum.list? ServletEntry.read) []
    defaultServlet := ← parts.get 9 "default_servlet" (Datum.optional? Datum.text?) none }

end ServletFilters
