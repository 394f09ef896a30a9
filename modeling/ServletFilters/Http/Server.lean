import ServletFilters.Container.Service
import ServletFilters.Http.Adapter

/-!
# The server

Each request that comes in is adapted, serviced by the pipeline, and answered. What components
wrote goes out only if the request was serviced without a failure. Configurations that come
while the server runs are given to its pipeline.
-/

namespace ServletFilters

/-- Runs a computation and gives the message with which a component broke it off, if one did. -/
def Run.caught (body : Run α) : Run (Except String α) := fun s =>
  match body s with
  | (.ok a, t) => (.ok (.ok a), t)
  | (.error (.panic message), t) => (.ok (.error message), t)
  | (.error .exhausted, t) => (.error .exhausted, t)

namespace Http

structure Server where
  config : Config
  pipeline : Nat

namespace Server

def maxBody (s : Server) : Nat := s.config.listener.maxBodyBytes

def panicText : String := "task panicked"

/-- Answers a request. The given number is used where the request has none. -/
def handle (levels : Nat) (server : Server) (freshId : String) (r : Incoming) : Run Outgoing := do
  let id := r.requestId?.getD freshId
  match r.adapt id server.maxBody with
  | .error e =>
    log .warn "Rejected request" [("request_id", .text id), ("error", .text e.message)]
    return .ofError e.status e.message id
  | .ok spec =>
    modify (·.openRequest spec)
    match ← (Pipeline.service levels server.pipeline).caught with
    | .ok (.ok ()) =>
      let response := (← get).response
      modify (·.updateResponse (·.resetBuffer))
      return .ofResponse response id
    | .ok (.error (.notFound _)) => return .ofError 404 "No servlet mapped for path" id
    | .ok (.error (.chain failure)) =>
      log .error "Filter chain failed"
        [("request_id", .text id), ("kind", .text failure.kind.name),
          ("error", .text failure.message)]
      return .ofError 500 "Internal Server Error" id
    | .error _ =>
      log .error "Pipeline worker panicked" [("request_id", .text id), ("error", .text panicText)]
      return .ofError 500 "Internal Server Error" id

/-- Gives a configuration to the pipeline; whether it was taken. -/
def update (server : Server) (config : Config) : Run Bool := do
  match ← Pipeline.reload server.pipeline config with
  | .ok () => return true
  | .error e =>
    log .error "Rejected configuration update, keeping current pipeline" [("error", .text e.message)]
    return false

end Server

end Http

end ServletFilters
