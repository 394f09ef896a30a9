import ServletFilters.Container.Service

/-!
# Hosts

A container as its owner sees it. Pipelines are opened, reloaded and closed, requests are
serviced and dispatched, and registries are kept for later. While components run, others may
reload the pipelines as well.
-/

namespace ServletFilters

/-- The reloads that others ask for at a time, as pipelines and their new configurations. -/
abbrev Outside := Container → List (Nat × Config)

/-- Carries out the reloads that others ask for now; what comes of them is their affair. -/
def meanwhile (outside : Outside) : Run Unit := fun s =>
  (.ok (), (outside s).foldl (fun s job => (Pipeline.reload job.1 job.2 s).2) s)

/-- What the calls of components do while others reload pipelines before and after each call. -/
def callsAmid (outside : Outside) : Nat → Calls
  | 0 => fun _ => Run.halt .exhausted
  | n + 1 => fun call => do
    meanwhile outside
    let result ← Call.answer (callsAmid outside n) call
    meanwhile outside
    return result

/-- With no reloads from others the calls are those of a container by itself. -/
theorem callsAmid_nothing (levels : Nat) : callsAmid (fun _ => []) levels = nestedCalls levels := by
  induction levels with
  | zero => rfl
  | succ n ih =>
    funext call s
    change (Call.answer (callsAmid (fun _ => []) n) call >>= fun result =>
      (pure result : Run Result)) s = Call.answer (nestedCalls n) call s
    rw [bind_pure, ih]

/-- A container and the registries that its owner keeps. -/
structure Host where
  box : Container := {}
  kept : List Registry := []

namespace Host

inductive Act where
  /-- Opens a pipeline for a configuration, which an executor given here overrides. -/
  | openPipeline (config : Config) (components : ComponentFactory) (executor : Option Executor)
  | close (pipeline : Nat)
  /-- Has a new request and a new response in place of the current ones. -/
  | request (spec : RequestSpec)
  | response
  | service (levels : Nat) (outside : Outside) (pipeline : Nat)
  | dispatch (levels : Nat) (outside : Outside) (pipeline : Nat) (dispatcher : Dispatcher)
      (target : Target)
  | reload (pipeline : Nat) (config : Config)
  /-- Keeps the current registry of a pipeline. -/
  | keep (pipeline : Nat)
  /-- Lets go of the kept registry in this place. -/
  | letGo (place : Nat)
  /-- Has a filter of the kept registry in this place made. -/
  | obtain (place : Nat) (filter : String)

/-- The host after a computation in its container, however it ended. -/
def after (h : Host) (x : Run α) : Host := { h with box := (x h.box).2 }

/-- Opens a pipeline for a configuration, with an executor that is given or configured. -/
def openWith (config : Config) (components : ComponentFactory) :
    Option Executor → Run (Except RegistryError Nat)
  | none => Pipeline.ofConfig config components
  | some executor => do
    match ← Registry.build config components with
    | .error e => return .error e
    | .ok registry =>
      let options := { PipelineOptions.ofConfig config with executor := some executor }
      return .ok (← Pipeline.create registry components options)

def act (h : Host) : Act → Host
  | .openPipeline config components executor => h.after (openWith config components executor)
  | .close pipeline => h.after (Pipeline.close pipeline)
  | .request spec => { h with box := h.box.openRequest spec }
  | .response => { h with box := h.box.openResponse }
  | .service levels outside pipeline =>
    h.after (Pipeline.serviceWith (callsAmid outside levels) pipeline)
  | .dispatch levels outside pipeline dispatcher target =>
    h.after (Pipeline.dispatch (callsAmid outside levels) pipeline dispatcher target)
  | .reload pipeline config => h.after (Pipeline.reload pipeline config)
  | .keep pipeline =>
    match h.box.pipelines.find? pipeline with
    | none => h
    | some p => { box := p.registry.hold h.box, kept := p.registry :: h.kept }
  | .letGo place =>
    match h.kept[place]? with
    | none => h
    | some r => { box := r.letGo h.box, kept := h.kept.eraseIdx place }
  | .obtain place filter =>
    match h.kept[place]?.bind fun r => r.filters.find? filter with
    | none => h
    | some f => h.after f.obtain

def run (acts : List Act) : Host := acts.foldl act {}

end Host

end ServletFilters
