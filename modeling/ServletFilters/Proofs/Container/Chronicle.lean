import ServletFilters.Proofs.Container.Starts

/-!
The chronicle of a run: what happens to the exchange and on the way, in the order of time, each
incident with the state in which it happens. It is read off the run call by call, whatever ends the
run, and tells of every component that is reached, of every traversal that begins and of every servlet
that is called, however deep inside.
-/

namespace ServletFilters

/-- A component that a step has got hold of: a declared filter that gave its instance, or the servlet
of a chain that may be asynchronous or not. -/
inductive Reached where
  | filter (f : FilterConfig)
  | servlet (c : Component) (async : Bool)

namespace Reached

/-- Whether requests may not be suspended behind the component. -/
def declines : Reached → Bool
  | .filter f => f.declinesAsync
  | .servlet _ async => !async

def measurement : Reached → Measurement
  | .filter f => .filterInvoked f.name
  | .servlet _ _ => .servletInvoked

end Reached

inductive Incident where
  /-- A component acts on the exchange, or looks at it. -/
  | acts (action : Action)
  | reaches (r : Reached)
  /-- A traversal begins, with a chain that was populated for this servlet. -/
  | visits (wrapper : Wrapper) (chain : Chain)
  /-- The call of a servlet begins, out of a chain that tracks or not. -/
  | opens (tracked : Bool)
  | closes (tracked : Bool)
  /-- A pipeline takes back the mark of a suspension, to go on with the request. -/
  | resumes

abbrev Chronicle := List (Incident × Container)

namespace Container

/-- The state after a component was reached, which may end the permission to suspend the request. -/
def meet (s : Container) (r : Reached) : Container :=
  (Traversal.downgrade r.declines s).2.note (.measured r.measurement)

def exchange (s : Container) : Nat × Nat := (s.request.serial, s.response.serial)

def openRecord (s : Container) (tracked : Bool) : Container :=
  if tracked then { s with lastServiced := some s.exchange } else s

def closeRecord (s : Container) (tracked : Bool) : Container :=
  if tracked then { s with lastServiced := none } else s

end Container

/-! ### Traversals -/

section Calling

variable (calls : Calls) (told : Call → Container → Chronicle)

def Program.chronicle (who : Component) (hasChain : Bool) : Program → Container → Chronicle
  | .finish _ => fun _ => []
  | .panic _ => fun _ => []
  | .act action next => fun s =>
    (.acts action, s) ::
      (action.perform who).thence (fun answer => chronicle who hasChain (next answer)) s
  | .chain action next => fun s =>
    if hasChain then
      (if action = .proceed then told .proceed s else []) ++
        (action.perform calls who).thence (fun answer => chronicle who hasChain (next answer)) s
    else []
  | .dispatch dispatcher target next => fun s =>
    match s.attachedPipeline? with
    | some p =>
      told (.dispatch p dispatcher target) s ++
        (calls (.dispatch p dispatcher target)).thence
          (fun result => chronicle who hasChain (next result)) s
    | none => chronicle who hasChain (next (.error notAttached)) s
  | .withResponse response body next => fun s =>
    chronicle who hasChain body (s.newResponse response) ++
      (onResponse response (body.run calls who hasChain)).thence
        (fun answer => chronicle who hasChain (next answer.1 answer.2)) s
  | .reload config next => fun s =>
    match s.attachedPipeline? with
    | some p =>
      told (.reload p config) s ++
        (calls (.reload p config)).thence
          (fun result => chronicle who hasChain (next result)) s
    | none => chronicle who hasChain (next (.error notAttached)) s

/-- The chronicle of a component that is ready, as often as its call is carried out. -/
def Invocation.chronicle (i : Invocation) (s : Container) : Chronicle :=
  (Traversal.actions i.stage.operation (i.run calls) s).flatMap fun t =>
    i.component.program.chronicle calls told i.component i.stage.hasChain
      (t.invoke i.stage i.component)

namespace Traversal

def filterChronicle (f : FilterConfig) : Except Failure Component → Container → Chronicle
  | .error _ => fun _ => []
  | .ok c => fun s =>
    (.reaches (.filter f), s) ::
      Invocation.chronicle calls told { stage := .filter, component := c } (s.meet (.filter f))

def servletChronicle (s : Container) : Chronicle :=
  match s.chain.servlet with
  | none => []
  | some c =>
    let r : Reached := .servlet c s.chain.servletAsync
    let i : Invocation := { stage := .servlet, component := c, recorded := s.chain.tracking }
    let ready := (s.openRecord s.chain.tracking).meet r
    (.opens s.chain.tracking, s) ::
      ((.reaches r, s.openRecord s.chain.tracking) :: i.chronicle calls told ready) ++
        [(.closes s.chain.tracking, (privileged .service (i.run calls) ready).2)]

def stepChronicle (s : Container) : Chronicle :=
  match s.chain.filters[s.chain.position]? with
  | some f => f.obtain.thence (filterChronicle calls told f) s.advance
  | none => servletChronicle calls told (s.note (.advanced s.nesting none))

/-- The chronicle of a call to go on. -/
def chronicle (s : Container) : Chronicle :=
  (actions .doFilter (step calls) s).flatMap (stepChronicle calls told)

end Traversal

/-! ### Visits -/

namespace Pipeline

def visitChronicle (p : Nat) (r : Registry) (w : Wrapper) (state : DispatchState) (pooled : Bool)
    (s : Container) : Chronicle :=
  (starts p r w state pooled s).flatMap fun u => (.visits w u.chain, s) :: Traversal.chronicle calls told u

def nestedChronicle (p : Nat) (dispatcher : Dispatcher) (target : Target) (s : Container) :
    Chronicle :=
  match s.pipelines.find? p with
  | none => []
  | some x =>
    match locate x.registry target with
    | (none, _) => []
    | (some w, path) =>
      visitChronicle calls told p x.registry w { dispatcher, path } false (x.registry.hold s)

def dispatchChronicle (p : Nat) (dispatcher : Dispatcher) (target : Target) (s : Container) :
    Chronicle :=
  if maxDispatchDepth < s.deepen.request.depth then []
  else nestedChronicle calls told p dispatcher target s.deepen

end Pipeline

def Call.chronicle : Call → Container → Chronicle
  | .proceed => Traversal.chronicle calls told
  | .dispatch p dispatcher target => Pipeline.dispatchChronicle calls told p dispatcher target
  | .reload _ _ => fun _ => []

end Calling

/-- The chronicle of a call of a component, while others reload the pipelines. -/
def chronicleAmid (outside : Outside) : Nat → Call → Container → Chronicle
  | 0 => fun _ _ => []
  | n + 1 => fun call s =>
    call.chronicle (callsAmid outside n) (chronicleAmid outside n) (meanwhile outside s).2

/-! ### Servicing requests -/

namespace Pipeline

def resumeChronicle (again : Run Result) (told : Container → Chronicle) : Nat → Container → Chronicle
  | 0 => fun s => if s.request.asyncStarted then [(.resumes, s)] else []
  | n + 1 => fun s =>
    if s.request.asyncStarted then
      (.resumes, s) :: (told (takeAsync s).2 ++
        again.thence (fun result t =>
          if result = .ok () then resumeChronicle again told n t else []) (takeAsync s).2)
    else []

variable (calls : Calls) (told : Call → Container → Chronicle)

def traverseChronicle (p : Nat) (r : Registry) (w : Wrapper) (path : String) (s : Container) :
    Chronicle :=
  let visit (dispatcher : Dispatcher) : Run Result :=
    dispatchTo calls p r w { dispatcher, path := some path } true
  let tale (dispatcher : Dispatcher) : Container → Chronicle :=
    visitChronicle calls told p r w { dispatcher, path := some path } true
  tale .request s ++ (visit .request).thence (fun result t =>
    if result = .ok () then resumeChronicle (visit .async) (tale .async) maxAsyncDispatches t
    else []) s

def serviceOnChronicle (p : Nat) (r : Registry) (path : String) (s : Container) : Chronicle :=
  match r.mapServlet path with
  | none => []
  | some w => traverseChronicle calls told p r w path s

/-- The chronicle of all that a pipeline does to service the current request. -/
def serviceChronicle (p : Nat) (s : Container) : Chronicle :=
  match s.pipelines.find? p with
  | none => []
  | some x =>
    serviceOnChronicle calls told p x.registry s.request.path (x.registry.hold (s.attach p))

end Pipeline

/-- What the outside asks of a container. -/
inductive Errand where
  | call (call : Call)
  /-- Has a pipeline service the current request. -/
  | service (pipeline : Nat)

namespace Errand

variable (outside : Outside) (levels : Nat)

/-- The state that an errand leaves, however it ends, while others reload the pipelines. -/
def leaves : Errand → Container → Container
  | .call c, s => (c.answer (callsAmid outside levels) s).2
  | .service p, s => (Pipeline.serviceWith (callsAmid outside levels) p s).2

def chronicle : Errand → Container → Chronicle
  | .call c => c.chronicle (callsAmid outside levels) (chronicleAmid outside levels)
  | .service p => Pipeline.serviceChronicle (callsAmid outside levels) (chronicleAmid outside levels) p

end Errand

def Incident.reached? : Incident → Option Reached
  | .reaches r => some r
  | _ => none

/-! ### Accounts along a chronicle -/

namespace Chronicle

/-- The components that are reached, in the order of time. -/
def reached (told : Chronicle) : List Reached := told.filterMap fun e => e.1.reached?

theorem reached_append (told later : Chronicle) :
    reached (told ++ later) = told.reached ++ later.reached := List.filterMap_append

variable {α : Type} {step : α → Incident × Container → α} {fits : α → Container → Prop}

/-- Each incident happens in a state that fits what those before it make of an account. -/
def Along (step : α → Incident × Container → α) (fits : α → Container → Prop) :
    α → Chronicle → Prop
  | _, [] => True
  | x, e :: rest => fits x e.2 ∧ Along step fits (step x e) rest

theorem along_append (told later : Chronicle) (x : α) :
    Along step fits x (told ++ later) ↔
      Along step fits x told ∧ Along step fits (told.foldl step x) later := by
  induction told generalizing x with
  | nil => exact (and_iff_right trivial).symm
  | cons e rest ih => exact (and_congr_right fun _ => ih (step x e)).trans and_assoc.symm

/-- What fits along a chronicle fits wherever it is looked at. -/
theorem Along.point {told before : Chronicle} {x : α} {m : Incident} {u : Container}
    (along : Along step fits x told) (here : before ++ [(m, u)] <+: told) :
    fits (before.foldl step x) u := by
  obtain ⟨later, rfl⟩ := here
  rw [along_append, along_append] at along
  exact along.1.2.1

theorem prefix_at {told : Chronicle} {n : Nat} {e : Incident × Container}
    (here : told[n]? = some e) : told.take n ++ [e] <+: told := by
  have taken : told.take (n + 1) = told.take n ++ [e] := by
    rw [List.take_add_one, here]
    rfl
  exact taken ▸ List.take_prefix (n + 1) told

end Chronicle

end ServletFilters
