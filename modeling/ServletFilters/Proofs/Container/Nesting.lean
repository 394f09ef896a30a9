import ServletFilters.Proofs.Container.Changes

/-!
A traversal seen from inside: the states in which an executor runs its action, the component that a
step gets ready, and the calls that a component makes while it runs.
-/

namespace ServletFilters

/-- What comes up behind a computation that ends with a value. -/
def Run.thence (x : Run α) (next : α → Container → List β) (s : Container) : List β :=
  match x s with
  | (.ok a, t) => next a t
  | (.error _, _) => []

theorem Run.mem_thence {x : Run α} {next : α → Container → List β} {s : Container} {b : β} :
    b ∈ x.thence next s ↔ ∃ a t, x s = (.ok a, t) ∧ b ∈ next a t := by
  unfold Run.thence
  rcases x s with ⟨halt | a, t⟩
  · simp
  · constructor
    · exact fun h => ⟨a, t, rfl, h⟩
    · rintro ⟨a', t', same, h⟩
      cases same
      exact h

theorem Run.thence_of_ok {x : Run α} {next : α → Container → List β} {s t : Container} {a : α}
    (h : x s = (.ok a, t)) : x.thence next s = next a t := by
  unfold Run.thence
  rw [h]

theorem Run.thence_of_error {x : Run α} {next : α → Container → List β} {s t : Container} {e : Halt}
    (h : x s = (.error e, t)) : x.thence next s = [] := by
  unfold Run.thence
  rw [h]

/-- The calls that a program makes, in their order, and the states in which it makes them. -/
def Program.made (calls : Calls) (who : Component) (hasChain : Bool) :
    Program → Container → List (Call × Container)
  | .finish _ => fun _ => []
  | .panic _ => fun _ => []
  | .act action next =>
    (action.perform who).thence fun answer => made calls who hasChain (next answer)
  | .chain action next => fun s =>
    if hasChain then
      (if action = .proceed then [(.proceed, s)] else []) ++
        (action.perform calls who).thence (fun answer => made calls who hasChain (next answer)) s
    else []
  | .dispatch dispatcher target next => fun s =>
    match s.attachedPipeline? with
    | some p =>
      (.dispatch p dispatcher target, s) ::
        (calls (.dispatch p dispatcher target)).thence
          (fun result => made calls who hasChain (next result)) s
    | none => made calls who hasChain (next (.error notAttached)) s
  | .withResponse response body next => fun s =>
    made calls who hasChain body (s.newResponse response) ++
      (onResponse response (body.run calls who hasChain)).thence
        (fun answer => made calls who hasChain (next answer.1 answer.2)) s
  | .reload config next => fun s =>
    match s.attachedPipeline? with
    | some p =>
      (.reload p config, s) ::
        (calls (.reload p config)).thence
          (fun result => made calls who hasChain (next result)) s
    | none => made calls who hasChain (next (.error notAttached)) s

/-- The states in which a plan runs its step. -/
def Plan.runs (operation : Operation) (principal : Option String) (step : Run Result) :
    Plan → Container → List Container
  | .finish _ => fun _ => []
  | .panic _ => fun _ => []
  | .report next => fun s => runs operation principal step next (s.note (.executed operation principal))
  | .run next => fun s =>
    s :: step.thence (fun result => runs operation principal step (next result)) s

def Stage.operation : Stage → Operation
  | .filter => .doFilter
  | .servlet => .service

def Stage.hasChain : Stage → Bool
  | .filter => true
  | .servlet => false

/-- A component that a step is about to call. -/
structure Invocation where
  stage : Stage
  component : Component
  /-- Whether the exchange is on record until the call is over. -/
  recorded : Bool := false

def Container.invoke (s : Container) (stage : Stage) (c : Component) : Container :=
  s.note (.invoked s.nesting stage c.serial c.name s.request.depth)

def Container.advance (s : Container) : Container :=
  (s.note (.advanced s.nesting (some s.chain.position))).updateChain fun c =>
    { c with position := c.position + 1 }

namespace Invocation

def event (i : Invocation) (s : Container) : Event :=
  .invoked s.nesting i.stage i.component.serial i.component.name s.request.depth

def run (calls : Calls) (i : Invocation) : Run Result := do
  Traversal.recordInvocation i.stage i.component
  i.component.program.run calls i.component i.stage.hasChain

/-- The calls that the component makes when it is called in a state. -/
def made (calls : Calls) (i : Invocation) (s : Container) : List (Call × Container) :=
  i.component.program.made calls i.component i.stage.hasChain (s.invoke i.stage i.component)

def close (i : Invocation) (s : Container) : Container :=
  if i.recorded then { s with lastServiced := none } else s

end Invocation

namespace Traversal

/-- The states in which a step is run that goes through the chain's executor. -/
def actions (operation : Operation) (step : Run Result) (s : Container) : List Container :=
  match s.chain.executor with
  | none => [s]
  | some executor =>
    (executor operation s.request.principal).runs operation s.request.principal step s

def prepareFilter (f : FilterConfig) : Run (Except Failure Invocation) := do
  match ← f.obtain with
  | .error failure => return .error (failure.classify .filter)
  | .ok filter =>
    downgrade f.declinesAsync
    measure (.filterInvoked f.name)
    return .ok { stage := .filter, component := filter }

def prepareServlet : Run (Except Failure Invocation) := do
  let chain := (← get).chain
  match chain.servlet with
  | none => return .error (.runtime "filter chain has no servlet configured")
  | some servlet =>
    if chain.tracking then
      modify fun s => { s with lastServiced := some (s.request.serial, s.response.serial) }
    downgrade !chain.servletAsync
    measure .servletInvoked
    return .ok { stage := .servlet, component := servlet, recorded := chain.tracking }

/-- Gets the component of the next step ready, so that nothing is left but to call it. -/
def prepare : Run (Except Failure Invocation) := do
  let s ← get
  match s.chain.filters[s.chain.position]? with
  | some f =>
    modify (·.advance)
    prepareFilter f
  | none =>
    record (.advanced s.nesting none)
    prepareServlet

/-- Calls a component that is ready. -/
def call (calls : Calls) : Except Failure Invocation → Run Result
  | .error failure => pure (.error failure)
  | .ok i => do
    return (← (privileged i.stage.operation (i.run calls)).cleanedBy i.close).mapError
      (Failure.classify i.stage)

/-- The components that a call to go on calls, and the states in which it calls them. -/
def invocations (calls : Calls) (s : Container) : List (Invocation × Container) :=
  (actions .doFilter (step calls) s).flatMap <| prepare.thence fun prepared t =>
    match prepared with
    | .error _ => []
    | .ok i => (actions i.stage.operation (i.run calls) t).map (i, ·)

/-- The calls that these components make. -/
def inner (calls : Calls) (s : Container) : List (Call × Container) :=
  (invocations calls s).flatMap fun (i, t) => i.made calls t

end Traversal

theorem mem_invocations {calls : Calls} {s : Container} {c : Invocation × Container} :
    c ∈ Traversal.invocations calls s ↔
      ∃ t ∈ Traversal.actions .doFilter (Traversal.step calls) s, ∃ u,
        Traversal.prepare t = (.ok (.ok c.1), u) ∧
          c.2 ∈ Traversal.actions c.1.stage.operation (c.1.run calls) u := by
  obtain ⟨i, v⟩ := c
  unfold Traversal.invocations
  rw [List.mem_flatMap]
  refine exists_congr fun t => and_congr_right fun _ => ?_
  rw [Run.mem_thence]
  constructor
  · rintro ⟨failure | j, u, ran, member⟩
    · cases member
    · obtain ⟨w, member, same⟩ := List.mem_map.1 member
      cases same
      exact ⟨u, ran, member⟩
  · rintro ⟨u, ran, member⟩
    exact ⟨.ok i, u, ran, List.mem_map.2 ⟨v, member, rfl⟩⟩

theorem mem_inner {calls : Calls} {s : Container} {c : Call × Container} :
    c ∈ Traversal.inner calls s ↔
      ∃ x ∈ Traversal.invocations calls s, c ∈ x.1.made calls x.2 := List.mem_flatMap

theorem prepareFilter_ok {f : FilterConfig} {s t : Container} {c : Component}
    (given : f.obtain s = (.ok (.ok c), t)) :
    ∃ u, Quiet t u ∧
      Traversal.prepareFilter f s = (.ok (.ok { stage := .filter, component := c }), u) :=
  ⟨_, (downgrade_quiet f.declinesAsync t).trans (.note _ (e := .measured (.filterInvoked f.name)) rfl),
    Run.bind_of_ok given⟩

theorem prepareServlet_cases (s : Container) :
    (s.chain.servlet = none ∧ Traversal.prepareServlet s =
        (.ok (.error (.runtime "filter chain has no servlet configured")), s)) ∨
      ∃ c t, s.chain.servlet = some c ∧ Quiet s t ∧ Traversal.prepareServlet s =
        (.ok (.ok { stage := .servlet, component := c, recorded := s.chain.tracking }), t) := by
  unfold Traversal.prepareServlet
  rw [Run.get_bind_apply]
  cases s.chain.servlet with
  | none => exact .inl ⟨rfl, rfl⟩
  | some c =>
    have ready := fun t => (downgrade_quiet (!s.chain.servletAsync) t).trans
      (.note _ (e := .measured .servletInvoked) rfl)
    cases s.chain.tracking with
    | false => exact .inr ⟨c, _, rfl, ready s, rfl⟩
    | true => exact .inr ⟨c, _, rfl, (Quiet.lastServiced s _).trans (ready _), rfl⟩

theorem prepare_filter {s : Container} {f : FilterConfig}
    (next : s.chain.filters[s.chain.position]? = some f) :
    Traversal.prepare s = Traversal.prepareFilter f s.advance := by
  unfold Traversal.prepare
  rw [Run.get_bind_apply, next]
  rfl

theorem prepare_servlet {s : Container} (next : s.chain.filters[s.chain.position]? = none) :
    Traversal.prepare s = Traversal.prepareServlet (s.note (.advanced s.nesting none)) := by
  unfold Traversal.prepare
  rw [Run.get_bind_apply, next]
  rfl

theorem invokeFilter_eq (calls : Calls) (f : FilterConfig) (s : Container) :
    (do return (← Traversal.invokeFilter calls f).mapError (Failure.classify .filter) : Run Result) s =
      (Traversal.prepareFilter f >>= Traversal.call calls) s := by
  unfold Traversal.invokeFilter Traversal.prepareFilter
  rcases ran : f.obtain s with ⟨halt | failure | c, t⟩ <;> simp only [Run.bind_apply, ran] <;> rfl

theorem invokeServlet_eq (calls : Calls) (s : Container) :
    (do return (← Traversal.invokeServlet calls).mapError (Failure.classify .servlet) : Run Result) s =
      (Traversal.prepareServlet >>= Traversal.call calls) s := by
  unfold Traversal.invokeServlet Traversal.prepareServlet
  simp only [Run.bind_apply, Run.get_apply]
  cases s.chain.servlet with
  | none => rfl
  | some servlet => cases s.chain.tracking <;> rfl

theorem Invocation.close_quiet (i : Invocation) (s : Container) : Quiet s (i.close s) := by
  unfold Invocation.close
  split
  · exact .lastServiced s none
  · exact .refl s

theorem call_apply (calls : Calls) (i : Invocation) (s : Container) :
    Traversal.call calls (.ok i) s =
      ((Traversal.privileged i.stage.operation (i.run calls) s).1.map
          (·.mapError (Failure.classify i.stage)),
        i.close (Traversal.privileged i.stage.operation (i.run calls) s).2) := by
  have closed : ((Traversal.privileged i.stage.operation (i.run calls)).cleanedBy i.close) s =
      ((Traversal.privileged i.stage.operation (i.run calls) s).1,
        i.close (Traversal.privileged i.stage.operation (i.run calls) s).2) := rfl
  change ((Traversal.privileged i.stage.operation (i.run calls)).cleanedBy i.close >>= fun result =>
    (pure (result.mapError (Failure.classify i.stage)) : Run Result)) s = _
  rw [Run.bind_apply, closed]
  rcases (Traversal.privileged i.stage.operation (i.run calls) s).1 with halt | result <;> rfl

theorem step_eq (calls : Calls) (s : Container) :
    Traversal.step calls s = (Traversal.prepare >>= Traversal.call calls) s := by
  unfold Traversal.step Traversal.prepare
  rw [Run.get_bind_apply, bind_assoc, Run.get_bind_apply]
  cases s.chain.filters[s.chain.position]? with
  | some f => exact invokeFilter_eq calls f s.advance
  | none => exact invokeServlet_eq calls (s.note (.advanced s.nesting none))

theorem privileged_direct {s : Container} (h : s.chain.executor = none) (operation : Operation)
    (step : Run Result) : Traversal.privileged operation step s = step s := by
  unfold Traversal.privileged
  rw [Run.get_bind_apply, h]

theorem doFilter_direct {s : Container} (h : s.chain.executor = none) (calls : Calls) :
    Traversal.doFilter calls s = Traversal.step calls s := by
  unfold Traversal.doFilter
  rw [Run.get_bind_apply, h]

theorem prepare_executor (s : Container) :
    (Traversal.prepare s).2.chain.executor = s.chain.executor := by
  cases next : s.chain.filters[s.chain.position]? with
  | some f =>
    rw [prepare_filter next]
    have kept : (f.obtain s.advance).2.chain.executor = s.chain.executor := by
      rw [f.obtain_chain]
      rfl
    rcases given : f.obtain s.advance with ⟨halt | failure | c, t⟩ <;> rw [given] at kept
    · rwa [Traversal.prepareFilter, Run.bind_of_error given]
    · rwa [Traversal.prepareFilter, Run.bind_of_ok given]
    · obtain ⟨u, quiet, ran⟩ := prepareFilter_ok given
      rw [ran, quiet.chain]
      exact kept
  | none =>
    rw [prepare_servlet next]
    rcases prepareServlet_cases (s.note (.advanced s.nesting none)) with
      ⟨-, ran⟩ | ⟨c, t, -, quiet, ran⟩ <;> rw [ran]
    · rfl
    · exact congrArg Chain.executor quiet.chain

end ServletFilters
