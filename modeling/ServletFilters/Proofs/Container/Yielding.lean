import ServletFilters.Proofs.Container.Resuming
import ServletFilters.Proofs.Container.Tending
import ServletFilters.Proofs.Parallel.Dispatch

/-!
What a traversal yields that reloads no pipeline: its result and the exchange as it leaves it. Behind
an executor that relays results, a step of the chain yields what its component does, `servlet_yields`
and `filter_yields`; a visit and a dispatch yield what the chain does that they start, with the way in
which the request counts as dispatched put back, `dispatchTo_yields` and `dispatch_yields`.
-/

namespace ServletFilters

/-- The computation ends with a value, and this holds of it and of the exchange that it leaves. All
pipelines have their registries still. -/
def Run.Yields (post : α → Request → Response → Prop) (x : Run α) (s : Container) : Prop :=
  ∃ a t, x s = (.ok a, t) ∧ t.current = s.current ∧ post a t.request t.response

theorem Run.Yields.bind {mid : α → Request → Response → Prop} {post : β → Request → Response → Prop}
    {x : Run α} {next : α → Run β} {s : Container} (h : x.Yields mid s)
    (then_ : ∀ a t, mid a t.request t.response → (next a).Yields post t) :
    (x >>= next).Yields post s := by
  obtain ⟨a, t, ran, current, holds⟩ := h
  obtain ⟨b, u, ran', current', holds'⟩ := then_ a t holds
  exact ⟨b, u, (Run.bind_of_ok ran).trans ran', current'.trans current, holds'⟩

theorem Run.Yields.imp {post post' : α → Request → Response → Prop} {x : Run α} {s : Container}
    (h : x.Yields post s) (weaker : ∀ a q r, post a q r → post' a q r) : x.Yields post' s := by
  obtain ⟨a, t, ran, current, holds⟩ := h
  exact ⟨a, t, ran, current, weaker _ _ _ holds⟩

/-! ### Executors that relay results -/

/-- The result is one that a chain leaves as it is. -/
def Unaltered (result : Result) : Prop := ∀ f, result = .error f → f.passesThrough = true

/-- The plan answers with this result, and at most reports before. -/
inductive Plan.Concludes (result : Result) : Plan → Prop
  | finish : Concludes result (.finish result)
  | report {next : Plan} : Concludes result next → Concludes result (.report next)

/-- The plan runs its step once, and hands on what a chain leaves as it is. -/
inductive Plan.Relays : Plan → Prop
  | report {next : Plan} : Relays next → Relays (.report next)
  | run {next : Result → Plan} :
    (∀ result, Unaltered result → (next result).Concludes result) → Relays (.run next)

def Executor.Relays (E : Executor) : Prop := ∀ operation principal, (E operation principal).Relays

def Relaying (executor : Option Executor) : Prop := ∀ E ∈ executor, E.Relays

theorem Executor.relays_direct : direct.Relays := fun _ _ => .run fun _ _ => .finish

theorem Executor.relays_trace : trace.Relays := fun _ _ => .report (.run fun _ _ => .finish)

theorem Executor.relays_span : span.Relays := by
  refine fun _ _ => .run fun result unaltered => ?_
  cases result with
  | ok done => exact .finish
  | error f =>
    -- A span wraps failures of the one kind that a chain does not hand on as it is.
    cases f with
    | other cause => cases unaltered _ rfl
    | _ => exact .finish

theorem Transparent.relaying {executor : Option Executor} (h : Transparent executor) :
    Relaying executor := by
  rcases h with rfl | rfl
  · rintro E ⟨⟩
  · rintro E ⟨⟩
    exact Executor.relays_span

theorem Plan.Concludes.carryOut {result : Result} {plan : Plan} (h : plan.Concludes result)
    (operation : Operation) (principal : Option String) (step : Run Result) :
    ∀ s, ∃ journal, plan.carryOut operation principal step s = (.ok result, { s with journal }) := by
  induction h with
  | finish => exact fun s => ⟨s.journal, rfl⟩
  | report _ ih => exact fun s => ih (s.note _)

section Stages

variable {s : Container} {calls : Calls} {post : Result → Request → Response → Prop}
  (unaltered : ∀ a q r, post a q r → Unaltered a)
include unaltered

theorem Plan.Relays.carryOut {plan : Plan} (h : plan.Relays) (operation : Operation)
    (principal : Option String) {step : Run Result} :
    ∀ {s}, (∀ journal, step.Yields post { s with journal }) →
      (plan.carryOut operation principal step).Yields post s := by
  induction h with
  | report _ ih => exact fun ran => ih (s := Container.note _ _) ran
  | run concludes =>
    intro s ran
    obtain ⟨a, t, ran, current, holds⟩ := ran s.journal
    obtain ⟨journal, ends⟩ :=
      (concludes a (unaltered _ _ _ holds)).carryOut operation principal step t
    exact ⟨a, { t with journal }, (Run.bind_of_ok ran).trans ends, current, holds⟩

variable (relaying : Relaying s.chain.executor)
include relaying

theorem privileged_yields (operation : Operation) {step : Run Result}
    (ran : ∀ journal, step.Yields post { s with journal }) :
    (Traversal.privileged operation step).Yields post s := by
  unfold Traversal.privileged Run.Yields
  rw [Run.get_bind_apply]
  cases executor : s.chain.executor with
  | none => exact ran s.journal
  | some E => exact (relaying E executor _ _).carryOut unaltered _ _ ran

theorem doFilter_yields (ran : ∀ journal, (Traversal.step calls).Yields post { s with journal }) :
    (Traversal.doFilter calls).Yields post s := by
  have privileged := privileged_yields unaltered relaying .doFilter ran
  unfold Traversal.doFilter Run.Yields
  rw [Run.get_bind_apply]
  cases s.chain.executor with
  | none => exact ran s.journal
  | some E =>
    obtain ⟨a, t, ran, current, holds⟩ := privileged
    refine ⟨a, t, (Run.bind_of_ok ran).trans ?_, current, holds⟩
    cases a with
    | ok done => rfl
    | error f =>
      simp [Except.mapError, Failure.classifyPrivileged_of_passesThrough (unaltered _ _ _ holds f rfl)]

theorem call_yields {i : Invocation}
    (ran : ∀ journal, (i.component.program.run calls i.component i.stage.hasChain).Yields post
      { s with journal }) : (Traversal.call calls (.ok i)).Yields post s := by
  have run (journal : List Event) : (i.run calls).Yields post { s with journal } :=
    ran (i.event { s with journal } :: journal)
  obtain ⟨a, t, ran, current, holds⟩ := privileged_yields unaltered relaying i.stage.operation run
  refine ⟨a, i.close t, ?_, (funext (i.close_quiet t).current).trans current, ?_⟩
  · rw [call_apply, ran]
    cases a with
    | ok done => rfl
    | error f =>
      simp [Except.map, Except.mapError,
        Failure.classify_of_passesThrough i.stage (unaltered _ _ _ holds f rfl)]
  · unfold Invocation.close
    split <;> exact holds

end Stages

/-! ### The steps of a chain -/

/-- The request as a component finds it that may not be suspended, if it is one. -/
def Request.narrowed (r : Request) (declined : Bool) : Request :=
  { r with asyncSupported := r.asyncSupported && !declined }

theorem downgrade_apply (declined : Bool) (s : Container) :
    Traversal.downgrade declined s = (.ok (), s.updateRequest (·.narrowed declined)) := by
  unfold Traversal.downgrade
  rw [Run.modify_apply]
  cases declined with
  | false => simp [Request.narrowed, Container.updateRequest]
  | true =>
    cases permitted : s.request.asyncSupported with
    | false => simp [Request.narrowed, Container.updateRequest, ← permitted]
    | true => simp [Request.narrowed, Container.updateRequest]

theorem prepareServlet_apply {s : Container} {c : Component} (bound : s.chain.servlet = some c) :
    ∃ lastServiced journal, Traversal.prepareServlet s =
      (.ok (.ok { stage := .servlet, component := c, recorded := s.chain.tracking }),
        { s with request := s.request.narrowed !s.chain.servletAsync, lastServiced, journal }) := by
  unfold Traversal.prepareServlet
  rw [Run.get_bind_apply, bound]
  cases s.chain.tracking with
  | false => exact ⟨_, _, Run.bind_of_ok (downgrade_apply _ s)⟩
  | true =>
    dsimp only
    rw [if_pos rfl, Run.modify_bind_apply]
    exact ⟨_, _, Run.bind_of_ok (downgrade_apply _ _)⟩

section Steps

variable {s : Container} {calls : Calls} {post : Result → Request → Response → Prop}
  (unaltered : ∀ a q r, post a q r → Unaltered a) (relaying : Relaying s.chain.executor)
include unaltered relaying

theorem servlet_yields (next : s.chain.filters[s.chain.position]? = none) {c : Component}
    (bound : s.chain.servlet = some c)
    (ran : ∀ lastServiced journal, (c.program.run calls c false).Yields post
      { s with request := s.request.narrowed !s.chain.servletAsync, lastServiced, journal }) :
    (Traversal.doFilter calls).Yields post s := by
  refine doFilter_yields unaltered relaying fun journal => ?_
  obtain ⟨lastServiced, journal', prepared⟩ := prepareServlet_apply
    (s := ({ s with journal } : Container).note (.advanced s.nesting none)) bound
  unfold Run.Yields
  rw [step_eq, Run.bind_of_ok ((prepare_servlet (s := { s with journal }) next).trans prepared)]
  exact call_yields unaltered (by exact relaying) fun journal => ran lastServiced journal

/-- At a filter, the chain fails if the filter cannot be had, and otherwise yields what it does. -/
theorem filter_yields {f : FilterConfig} (next : s.chain.filters[s.chain.position]? = some f)
    (ran : ∀ journal, (∃ failure t, f.obtain ({ s with journal } : Container).advance =
          (.ok (.error failure), t) ∧ post (.error (failure.classify .filter)) s.request s.response) ∨
        ∃ c t, f.obtain ({ s with journal } : Container).advance = (.ok (.ok c), t) ∧
          ∀ journal, (c.program.run calls c true).Yields post
            { t with request := t.request.narrowed f.declinesAsync, journal }) :
    (Traversal.doFilter calls).Yields post s := by
  refine doFilter_yields unaltered relaying fun journal => ?_
  let u := ({ s with journal } : Container).advance
  have prepared : Traversal.prepare { s with journal } = Traversal.prepareFilter f u :=
    prepare_filter (s := { s with journal }) next
  unfold Run.Yields
  rw [step_eq]
  rcases ran journal with ⟨failure, t, given, holds⟩ | ⟨c, t, given, ran⟩
  · have frame := f.obtain_frame u
    rw [given] at frame
    obtain ⟨_, _, _, _, same⟩ := frame
    have failed : Traversal.prepareFilter f u = (.ok (.error (failure.classify .filter)), t) :=
      Run.bind_of_ok given
    rw [Run.bind_of_ok (prepared.trans failed)]
    refine ⟨_, t, rfl, ?_, ?_⟩ <;> rw [show t = _ from same]
    · rfl
    · exact holds
  · have chain := f.obtain_chain u
    have frame := f.obtain_frame u
    rw [given] at chain frame
    obtain ⟨_, _, _, _, same⟩ := frame
    have bound : t.current = s.current := by
      rw [show t = _ from same]
      rfl
    let v := (t.updateRequest (·.narrowed f.declinesAsync)).note (.measured (.filterInvoked f.name))
    have ready : Traversal.prepareFilter f u =
        (.ok (.ok { stage := .filter, component := c }), v) :=
      (Run.bind_of_ok given).trans (Run.bind_of_ok (downgrade_apply _ t))
    rw [Run.bind_of_ok (prepared.trans ready)]
    have kept : Relaying v.chain.executor := by
      change Relaying t.chain.executor
      rw [chain]
      exact relaying
    have called : (Traversal.call calls (.ok { stage := .filter, component := c })).Yields post v :=
      call_yields unaltered kept ran
    obtain ⟨a, v, ran, current, holds⟩ := called
    exact ⟨a, v, ran, current.trans bound, holds⟩

end Steps

/-! ### Visits and dispatches -/

section Visits

variable {calls : Calls} {p : Nat} {x : Pipeline} {s : Container}
  {post : Result → Request → Response → Prop} (found : s.pipelines.find? p = some x)
include found

theorem dispatchTo_yields (r : Registry) (w : Wrapper) (state : DispatchState) (pooled : Bool)
    (visit : ∀ base t u, x.Lends pooled base → Quiet s t →
      t.request = { s.request with dispatch := state } → Entered p r w base t u →
      u.response = s.response → (Traversal.doFilter calls).Yields
        (fun a q r => post a { q with dispatch := s.request.dispatch } r) u) :
    (Pipeline.dispatchTo calls p r w state pooled).Yields post s := by
  let opened := s.updateRequest fun r => { r with dispatch := state }
  have found' : opened.pipelines.find? p = some x := found
  obtain ⟨base, t, taken, step, request, lends⟩ := take_cases found' w.name pooled
  have response : t.response = s.response := by
    obtain ⟨_, same | ⟨pool, hit, same⟩⟩ := take_apply p x w.name pooled opened
    · rw [(Prod.mk.inj (taken.symm.trans same)).2]
      rfl
    · rw [(Prod.mk.inj (taken.symm.trans same)).2]
      obtain ⟨_, frame⟩ := updatePipeline_frame opened p fun q => { q with pool }
      rw [frame]
      rfl
  obtain ⟨u, enter, entered⟩ := enter_apply p r w base t
  have response' : u.response = s.response := by
    obtain ⟨_, _, same⟩ := enter_frame p r w { t with chain := base, nesting := t.nesting + 1 }
    rw [(Prod.mk.inj (enter.symm.trans same)).2]
    exact response
  have quiet : Quiet s t := (Quiet.exchange s (t := opened) rfl rfl).trans step
  obtain ⟨a, v, ran, current, holds⟩ := visit base t u lends quiet request entered response'
  have bound : v.current = s.current :=
    current.trans (funext fun k => (entered.quiet.current k).trans (quiet.current k))
  have inside : Pipeline.inChain base (Pipeline.enter p r w >>= fun _ => Traversal.doFilter calls) t =
      (.ok (a, v.chain), t.leave v) := by
    rw [inChain_apply, Run.bind_of_ok enter, ran]
    rfl
  have chained := runChain_some calls r w pooled found'
  rw [Run.bind_of_ok taken, Run.bind_of_ok inside] at chained
  unfold Pipeline.dispatchTo Run.Yields
  rw [Run.get_bind_apply, Run.modify_bind_apply, show s.updateRequest _ = opened from rfl]
  -- A chain that is given back changes the pool alone, so both ways out leave the same exchange.
  generalize (pooled && x.executor.isNone) = idle at chained
  cases idle with
  | false =>
    rw [Run.bind_of_ok chained]
    exact ⟨a, _, rfl, bound, holds⟩
  | true =>
    rw [Run.bind_of_ok chained]
    have given := giveBack_quiet p w.name v.chain (t.leave v)
    refine ⟨a, _, rfl, (funext given.current).trans bound, ?_⟩
    obtain ⟨_, frame⟩ := updatePipeline_frame (t.leave v) p fun q =>
      { q with pool := q.pool.giveBack w.name v.chain }
    dsimp only
    rw [frame]
    exact holds

theorem dispatch_nested {dispatcher : Dispatcher} {target : Target}
    (shallow : s.request.depth < maxDispatchDepth)
    (ran : (Pipeline.divert calls p x.registry dispatcher target).Yields
      (fun a q r => post a { q with depth := q.depth - 1 } r) (x.registry.hold s.deepen)) :
    (Pipeline.dispatch calls p dispatcher target).Yields post s := by
  obtain ⟨a, t, ran, current, holds⟩ := ran
  have nested := dispatchNested_some calls dispatcher target (s := s.deepen) found
  rw [ran] at nested
  have shallow' : ¬ maxDispatchDepth < s.deepen.request.depth := Nat.not_lt.2 shallow
  unfold Pipeline.dispatch Run.Yields
  rw [Run.modify_bind_apply, Run.get_bind_apply, show s.updateRequest _ = s.deepen from rfl]
  dsimp only
  rw [if_neg shallow', Run.bind_of_ok nested]
  refine ⟨a, _, rfl, (funext (x.registry.letGo_ebbs t).current).trans current, ?_⟩
  obtain ⟨_, _, _, frame⟩ := letGo_frame x.registry t
  dsimp only
  rw [frame]
  exact holds

theorem dispatch_yields {dispatcher : Dispatcher} {target : Target} {w : Wrapper}
    {path : Option String} (shallow : s.request.depth < maxDispatchDepth)
    (located : Pipeline.locate x.registry target = (some w, path))
    (visit : ∀ base t u, base.executor = x.executor → Ebbs s t →
      t.request = { s.request with
        depth := s.request.depth + 1
        dispatch := { dispatcher, path } } →
      Entered p x.registry w base t u → u.response = s.response →
      (Traversal.doFilter calls).Yields (fun a q r => post a { q with
        depth := q.depth - 1
        dispatch := s.request.dispatch } r) u) :
    (Pipeline.dispatch calls p dispatcher target).Yields post s := by
  refine dispatch_nested found shallow ?_
  have held : Ebbs s (x.registry.hold s.deepen) :=
    (Quiet.updateRequest s rfl).ebbs.trans (x.registry.hold_ebbs _)
  unfold Pipeline.divert
  rw [located]
  refine dispatchTo_yields (s := x.registry.hold s.deepen) found x.registry w _ false ?_
  intro base t u lends quiet request entered response
  exact visit base t u (lends.resolve_right (by rintro ⟨⟨⟩, -⟩)) (held.trans quiet.ebbs) request entered
    response

theorem dispatch_unmapped {dispatcher : Dispatcher} {target : Target} {path : Option String}
    (shallow : s.request.depth < maxDispatchDepth)
    (located : Pipeline.locate x.registry target = (none, path))
    (holds : post (.error (.servlet ("no servlet available for " ++ target.shown))) s.request
      s.response) : (Pipeline.dispatch calls p dispatcher target).Yields post s := by
  refine dispatch_nested found shallow ?_
  unfold Pipeline.divert
  rw [located]
  exact ⟨_, _, rfl, rfl, holds⟩

end Visits

theorem dispatch_refused {calls : Calls} {p : Nat} {s : Container}
    {post : Result → Request → Response → Prop} {dispatcher : Dispatcher} {target : Target}
    (deep : maxDispatchDepth ≤ s.request.depth)
    (holds : post (.error (.runtime ("internal dispatch to " ++ target.shown ++ " nested more than " ++
      toString maxDispatchDepth ++ " levels"))) s.request s.response) :
    (Pipeline.dispatch calls p dispatcher target).Yields post s := by
  have deep' : maxDispatchDepth < s.deepen.request.depth := Nat.lt_succ_of_le deep
  unfold Pipeline.dispatch Run.Yields
  rw [Run.modify_bind_apply, Run.get_bind_apply, show s.updateRequest _ = s.deepen from rfl]
  dsimp only
  rw [if_pos deep']
  exact ⟨_, _, rfl, rfl, holds⟩

/-- A forwarding servlet yields what its dispatch does; a forward empties the response before. -/
theorem Builtin.forwarding_yields {calls : Calls} {p : Nat} {mode : Dispatcher} {target : String}
    {s : Container} {post : Result → Request → Response → Prop}
    (attached : s.attachedPipeline? = some p)
    (sent : ∀ response, response = s.response ∨ response = s.response.resetBuffer →
      (calls (.dispatch p mode (.path target))).Yields post { s with response }) (who : Component) :
    ((forwarding mode target).run calls who false).Yields post s := by
  have viewed : s.view.attached = true := by simp [Container.view, attached]
  have dispatched (response : Response) (same : response = s.response ∨ response = s.response.resetBuffer) :
      ((Program.dispatch mode (.path target) .finish).run calls who false).Yields post
        { s with response } := by
    have attached' : ({ s with response } : Container).attachedPipeline? = some p := attached
    obtain ⟨a, t, ran, current, holds⟩ := sent response same
    refine ⟨a, t, ?_, current, holds⟩
    unfold Program.run
    rw [Run.get_bind_apply, attached']
    exact Run.bind_of_ok ran
  have run : (forwarding mode target).run calls who false s =
      (if !s.view.attached then .fail Program.notAttached
        else if mode = .forward then .perform .resetBuffer (.dispatch mode (.path target) .finish)
        else .dispatch mode (.path target) .finish : Program).run calls who false s := rfl
  unfold Run.Yields
  rw [run, viewed, if_neg (by simp)]
  by_cases forward : mode = .forward
  · rw [if_pos forward]
    exact dispatched _ (.inr rfl)
  · rw [if_neg forward]
    exact dispatched _ (.inl rfl)

/-! ### Services -/

section Services

variable {calls : Calls} {p : Nat} {r : Registry} {w : Wrapper} {path : String} {s : Container}

theorem resume_rests (again : Run Result) (limit : Nat) (unmarked : s.request.asyncStarted = false) :
    Pipeline.resume again limit s = (.ok (.ok ()), s) := by
  have same : s.unmark = s := by
    unfold Container.unmark Container.updateRequest
    rw [← unmarked]
  rw [resume_unmarked again limit unmarked, same]

theorem resume_returned {again : Run Result} {t : Container} (limit : Nat)
    (marked : s.request.asyncStarted = true) (ran : again s.unmark = (.ok (.ok ()), t)) :
    Pipeline.resume again (limit + 1) s = Pipeline.resume again limit t := by
  rw [Pipeline.resume, Run.bind_of_ok (takeAsync_apply s), marked]
  exact Run.bind_of_ok ran

/-- A traversal that does not leave the request suspended is the last one. -/
theorem resume_yields {again : Run Result} {limit : Nat} {post : Result → Request → Response → Prop}
    (marked : s.request.asyncStarted = true)
    (ran : again.Yields (fun a q response => q.asyncStarted = false ∧ post a q response) s.unmark) :
    (Pipeline.resume again (limit + 1)).Yields post s := by
  obtain ⟨a, t, ran, current, unmarked, holds⟩ := ran
  refine ⟨a, t, ?_, current, holds⟩
  cases a with
  | error f =>
    rw [Pipeline.resume, Run.bind_of_ok (takeAsync_apply s), marked]
    exact Run.bind_of_ok ran
  | ok done => exact (resume_returned limit marked ran).trans (resume_rests again limit unmarked)

theorem traverse_yields {post : Result → Request → Response → Prop}
    (ran : (Pipeline.dispatchTo calls p r w { dispatcher := .request, path := some path } true).Yields
      (fun a q response => q.asyncStarted = false ∧ post a q response) s) :
    (Pipeline.traverse calls p r w path).Yields post s := by
  obtain ⟨a, t, ran, current, unmarked, holds⟩ := ran
  unfold Pipeline.traverse Run.Yields
  rw [Run.bind_of_ok ran]
  cases a with
  | error f => exact ⟨_, t, rfl, current, holds⟩
  | ok done => exact ⟨_, t, resume_rests _ _ unmarked, current, holds⟩

theorem traverse_resumed {post : Result → Request → Response → Prop} {t : Container}
    (ran : Pipeline.dispatchTo calls p r w { dispatcher := .request, path := some path } true s =
      (.ok (.ok ()), t)) (current : t.current = s.current)
    (resumed : (Pipeline.resume (Pipeline.dispatchTo calls p r w
      { dispatcher := .async, path := some path } true) maxAsyncDispatches).Yields post t) :
    (Pipeline.traverse calls p r w path).Yields post s := by
  obtain ⟨a, u, ran', current', holds⟩ := resumed
  exact ⟨a, u, (Run.bind_of_ok ran).trans ran', current'.trans current, holds⟩

theorem serviceOn_yields {post : Except ServiceError Unit → Request → Response → Prop}
    (mapped : r.mapServlet path = some w)
    (ran : (Pipeline.traverse calls p r w path).Yields
      (fun a q response => post (a.mapError .chain) q response) s) :
    (Pipeline.serviceOn calls p r path).Yields post s := by
  obtain ⟨a, t, ran, current, holds⟩ := ran
  unfold Pipeline.serviceOn Run.Yields
  rw [mapped]
  dsimp only
  rw [Run.bind_of_ok ran]
  cases a with
  | ok done => exact ⟨_, t, rfl, current, holds⟩
  | error f => exact ⟨_, _, rfl, current, holds⟩

theorem service_yields {levels : Nat} {x : Pipeline}
    {post : Except ServiceError Unit → Request → Response → Prop}
    (found : s.pipelines.find? p = some x)
    (ran : (Pipeline.serviceOn (nestedCalls levels) p x.registry s.request.path).Yields post
      (x.registry.hold (s.attach p))) : (Pipeline.service levels p).Yields post s := by
  obtain ⟨a, t, ran, current, holds⟩ := ran
  unfold Pipeline.service Run.Yields
  rw [serviceWith_some _ found, ran]
  refine ⟨a, _, rfl, (funext (x.registry.letGo_ebbs t).current).trans current, ?_⟩
  obtain ⟨_, _, _, frame⟩ := letGo_frame x.registry t
  rw [frame]
  exact holds

end Services

end ServletFilters
