import ServletFilters.Proofs.Container.Occasions

/-!
Executors stand between a chain and its components. Where a chain has an executor, a component is
called in an action that the executor runs, and a pipeline gives its executor to all chains that it
starts, `invocations_mediated`.
-/

namespace ServletFilters

/-- The executor runs an action for a step and in it, to call the component that the step has got
ready, another one: and in that one the component is called. -/
def Mediated (E : Executor) (principal : Option String) (calls : Calls) (g : Container)
    (i : Invocation) (v : Container) : Prop :=
  ∃ a ∈ (E .doFilter principal).runs .doFilter principal (Traversal.step calls) g, ∃ t,
    Traversal.prepare a = (.ok (.ok i), t) ∧
      v ∈ (E i.stage.operation principal).runs i.stage.operation principal (i.run calls) t

theorem principal_of_fixed {r q : Request} (h : q.fixed = r.fixed) : q.principal = r.principal :=
  (congrArg Request.principal h :)

theorem actions_some {s : Container} {E : Executor} (executor : s.chain.executor = some E)
    (operation : Operation) (step : Run Result) : Traversal.actions operation step s =
      (E operation s.request.principal).runs operation s.request.principal step s := by
  rw [Traversal.actions, executor]

theorem invocation_mediated {outside : Outside} {levels : Nat} {g v : Container} {i : Invocation}
    {E : Executor} (executor : g.chain.executor = some E)
    (called : (i, v) ∈ Traversal.invocations (callsAmid outside levels) g) :
    Mediated E g.request.principal (callsAmid outside levels) g i v := by
  obtain ⟨a, acts, t, ready, calls⟩ := mem_invocations.1 called
  have before := ((doFilter_abides outside levels g).steps a acts).2
  have prepared := (course_abides.toWay.prepare (s := a) trivial).1.2
  rw [ready] at prepared
  have same := before.trans prepared
  rw [actions_some executor] at acts
  rw [actions_some (same.executor.trans executor), principal_of_fixed same.request] at calls
  exact ⟨a, acts, t, ready, calls⟩

/-- A plan that does not run its step does nothing but report. -/
theorem carryOut_idle (operation : Operation) (principal : Option String) (step : Run Result)
    (plan : Plan) : ∀ s, plan.runs operation principal step s = [] → ∃ k,
      (plan.carryOut operation principal step s).2 =
        { s with journal := List.replicate k (.executed operation principal) ++ s.journal } := by
  induction plan with
  | finish result => exact fun s _ => ⟨0, rfl⟩
  | panic message => exact fun s _ => ⟨0, rfl⟩
  | run next ih =>
    intro s runs
    cases runs
  | report next ih =>
    intro s runs
    obtain ⟨k, idle⟩ := ih (s.note (.executed operation principal)) runs
    refine ⟨k + 1, ?_⟩
    rw [List.replicate_succ', List.append_assoc]
    exact idle

theorem doFilter_idle {calls : Calls} {s : Container} {E : Executor}
    (executor : s.chain.executor = some E)
    (idle : (E .doFilter s.request.principal).runs .doFilter s.request.principal
      (Traversal.step calls) s = []) : ∃ k, (Traversal.doFilter calls s).2 =
        { s with
          journal := List.replicate k (.executed .doFilter s.request.principal) ++ s.journal } := by
  unfold Traversal.doFilter
  rw [Run.get_bind_apply, executor]
  dsimp only
  rw [Run.bind_pure_snd]
  unfold Traversal.privileged
  rw [Run.get_bind_apply, executor]
  exact carryOut_idle _ _ _ _ s idle

/-- All calls to go on that a start leads to are in chains that have the executors of their
pipelines. -/
def Overseen (outside : Outside) (levels : Nat) (s start : Container) : Prop :=
  ∀ m g, Leads outside levels start m g → ∃ visit, visitAt g.nesting g.journal = some visit ∧
    ∀ E, s.executing visit.pipeline = some (some E) → g.chain.executor = some E ∧
      ∀ i v, (i, v) ∈ Traversal.invocations (callsAmid outside m) g →
        Mediated E s.request.principal (callsAmid outside m) g i v

theorem Begun.overseen {outside : Outside} {levels : Nat} {s start : Container}
    (h : Begun s start) : Overseen outside levels s start := by
  intro m g leads
  have last : ∃ u, Begun s u ∧ Abides u g := by
    rcases leads.begun with same | ⟨u, later, rest⟩
    · exact ⟨start, h, same⟩
    · exact ⟨u, later.after h.visit.1, rest⟩
  obtain ⟨u, begun, rest⟩ := last
  obtain ⟨amid, -, visit, here, given⟩ := begun.visit
  refine ⟨visit, ?_, fun E privileged => ?_⟩
  · rw [rest.nesting, rest.visits _ (Nat.le_refl _), here]
  · have executor := rest.executor.trans (given E privileged)
    refine ⟨executor, fun i v called => ?_⟩
    rw [← principal_of_fixed (amid.trans rest.toAmid).request]
    exact invocation_mediated executor called

/-- What a chain with an executor calls, the executor has it call, for the principal of the request;
and what it does not run is not begun. In a pipeline with an executor all traversals are in chains
with this executor, also after suspensions, in dispatches and while the pipeline is reloaded. -/
theorem invocations_mediated :
    (∀ (outside : Outside) (levels : Nat) (s : Container) (E : Executor) (e : Event)
      (past : List Event), s.chain.executor = some E →
      Added e past s (Traversal.doFilter (callsAmid outside levels) s).2 → e.isInvoked = true →
      e.level? = some s.nesting → ∃ m g i v, Leads outside levels s m g ∧ g.nesting = s.nesting ∧
        v.journal = past ∧ e = i.event v ∧
        Mediated E s.request.principal (callsAmid outside m) g i v) ∧
    (∀ (calls : Calls) (s : Container) (E : Executor), s.chain.executor = some E →
      (E .doFilter s.request.principal).runs .doFilter s.request.principal
        (Traversal.step calls) s = [] → ∃ k, (Traversal.doFilter calls s).2 =
          { s with
            journal := List.replicate k (.executed .doFilter s.request.principal) ++ s.journal }) ∧
    ∀ (outside : Outside) (levels p : Nat) (s : Container),
      (∀ start ∈ Pipeline.serviceStarts (callsAmid outside levels) p s,
        Overseen outside levels s start) ∧
      (∀ e past, Added e past s (Pipeline.serviceWith (callsAmid outside levels) p s).2 →
        e.CalledFrom outside levels (Pipeline.serviceStarts (callsAmid outside levels) p s) past) ∧
      ∀ dispatcher target,
        (∀ start ∈ Pipeline.dispatchStarts p dispatcher target s, Overseen outside levels s start) ∧
        ∀ e past,
          Added e past s (Pipeline.dispatch (callsAmid outside levels) p dispatcher target s).2 →
          e.CalledFrom outside levels (Pipeline.dispatchStarts p dispatcher target s) past := by
  refine ⟨?_, fun calls s E executor idle => doFilter_idle executor idle, ?_⟩
  · intro outside levels s E e past executor added invoked here
    obtain ⟨m, g, i, v, leads, called, before, rfl⟩ := (doFilter_called outside levels s).fits added
      invoked
    have level : g.nesting = s.nesting := by
      rw [← ((doFilter_abides outside m g).invocations _ called).1.2.nesting]
      exact Option.some.inj here
    -- Visits inside are deeper, so at its own level a traversal only leads to itself.
    have same : Abides s g := by
      rcases leads.begun with same | ⟨u, begun, rest⟩
      · exact same
      · have deeper := begun.visit.2.1
        rw [← rest.nesting, level] at deeper
        exact absurd deeper (Nat.lt_irrefl _)
    refine ⟨m, g, i, v, leads, level, before, rfl, ?_⟩
    rw [← principal_of_fixed same.request]
    exact invocation_mediated (same.executor.trans executor) called
  · intro outside levels p s
    refine ⟨fun start member => (serviceStarts_begun member).overseen,
      fun e past => (serviceWith_called outside levels p s).fits, fun dispatcher target =>
      ⟨fun start member => ?_, fun e past => (dispatch_called outside levels p dispatcher target s).fits⟩⟩
    have begun := starts_begun (show start ∈ (Call.dispatch p dispatcher target).starts s from member)
    exact (begun.resolve_left (by rintro ⟨⟨⟩, -⟩)).overseen

/-- A request of a principal in a chain that has an executor and only a servlet. -/
def privilegedPage (E : Executor) : Container where
  nextSerial := 2
  request := { principal := some "alice" }
  chain := { executor := some E, servlet := some { serial := 1, name := "page", program := .done } }

def tracedPages : Container :=
  .opened { servlets := [{ name := "page", className := "page", urlPatterns := ["/"] }] }
    { servlets := ⟨[("page", ⟨false, fun _ _ => .ready .done⟩)]⟩ } { executor := some .trace }

theorem invocations_mediated_page :
    (∃ m g i v, Leads (fun _ => []) 1 (privilegedPage .trace) m g ∧
      v.journal = [.executed .service (some "alice"), .measured .servletInvoked, .advanced 0 none,
        .executed .doFilter (some "alice")] ∧
      Mediated .trace (some "alice") (callsAmid (fun _ => []) m) g i v) ∧
    (∃ k, (Traversal.doFilter (callsAmid (fun _ => []) 1) (privilegedPage .deny)).2 =
      { privilegedPage .deny with
        journal := List.replicate k (.executed .doFilter (some "alice")) ++ [] }) ∧
    ∃ start ∈ Pipeline.serviceStarts (callsAmid (fun _ => []) 1) 3 tracedPages,
      start.chain.executor = some .trace := by
  obtain ⟨mediated, idle, piped⟩ := invocations_mediated
  refine ⟨?_, idle _ (privilegedPage .deny) .deny rfl rfl, ?_⟩
  · obtain ⟨m, g, i, v, leads, -, before, -, called⟩ := mediated (fun _ => []) 1
      (privilegedPage .trace) .trace (.invoked 0 .servlet 1 "page" 0) _ rfl
      ⟨List.nil_suffix, [], rfl⟩ rfl rfl
    exact ⟨m, g, i, v, leads, before, called⟩
  · have visits : (Pipeline.serviceStarts (callsAmid (fun _ => []) 1) 3 tracedPages).map
        (fun u => (visitAt u.nesting u.journal).map (·.pipeline)) = [some 3] := by decide +kernel
    obtain ⟨start, rest, starts, own, -⟩ := List.map_eq_cons_iff.1 visits
    have member : start ∈ Pipeline.serviceStarts (callsAmid (fun _ => []) 1) 3 tracedPages :=
      starts ▸ List.mem_cons_self ..
    obtain ⟨visit, here, given⟩ := (piped (fun _ => []) 1 3 tracedPages).1 start member 1 start .here
    rw [here] at own
    have own : visit.pipeline = 3 := Option.some.inj own
    exact ⟨start, member, (given .trace (own ▸ rfl)).1⟩

end ServletFilters
