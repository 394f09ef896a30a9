import ServletFilters.Proofs.Container.Occasions
import ServletFilters.Proofs.Container.Tending

/-!
Dispatches and the way in which a request counts as dispatched. What returns leaves the depth of a
request as it was, and a dispatch or the servicing of a request restores the rest as well,
`service_restores`; inside, the depth is the number of dispatches that are going on.
-/

namespace ServletFilters

/-- Where the computation returns, it leaves this of the request as it was. -/
structure Run.Retains (f : Request → β) (x : Run α) : Prop where
  same : ∀ {s t a}, x s = (.ok a, t) → f t.request = f s.request

section Retaining

variable {f : Request → β}

theorem Run.Retains.of_always {x : Run α} (h : ∀ s, f (x s).2.request = f s.request) :
    x.Retains f := by
  refine ⟨fun {s t a} ran => ?_⟩
  have same := h s
  rw [ran] at same
  exact same

theorem Run.Retains.pure (a : α) : (Pure.pure a : Run α).Retains f := .of_always fun _ => rfl

theorem Run.Retains.halt (h : Halt) : (Run.halt h : Run α).Retains f := .of_always fun _ => rfl

theorem Run.Retains.bind {x : Run α} {next : α → Run γ} (first : x.Retains f)
    (rest : ∀ a, (next a).Retains f) : (x >>= next).Retains f := by
  refine ⟨fun {s t c} ran => ?_⟩
  rcases done : x s with ⟨halt | a, u⟩
  · rw [Run.bind_of_error done] at ran
    cases ran
  · rw [Run.bind_of_ok done] at ran
    exact ((rest a).same ran).trans (first.same done)

theorem Run.Retains.onResponse {body : Run Result} (response : Response) (h : body.Retains f) :
    (onResponse response body).Retains f := by
  refine ⟨fun {s t a} ran => ?_⟩
  obtain ⟨u, inside, rfl⟩ := onResponse_ok ran
  have same := h.same inside
  exact same

theorem Run.Retains.map {x : Run α} (h : x.Retains f) (g : α → γ) :
    (do return g (← x) : Run γ).Retains f := h.bind fun _ => .pure _

end Retaining

/-! ### The depth -/

theorem perform_depth (who : Component) (action : Action) :
    (action.perform who).Retains (·.depth) := by
  refine .of_always fun s => ?_
  cases action with
  | startAsync =>
    change (if s.request.asyncSupported then _ else _ : _ × Container).2.request.depth = _
    split <;> rfl
  | _ => rfl

theorem Plan.carryOut_depth {operation : Operation} {principal : Option String} {step : Run Result}
    (kept : step.Retains (·.depth)) (plan : Plan) :
    (plan.carryOut operation principal step).Retains (·.depth) := by
  induction plan with
  | finish result => exact .pure result
  | panic message => exact .halt _
  | report next ih => exact Run.Retains.bind (.of_always fun _ => rfl) fun _ => ih
  | run next ih => exact kept.bind ih

theorem Plan.runs_depth {operation : Operation} {principal : Option String} {step : Run Result}
    (kept : step.Retains (·.depth)) (plan : Plan) : ∀ {s t},
    t ∈ plan.runs operation principal step s → t.request.depth = s.request.depth := by
  induction plan with
  | finish result => rintro s t ⟨⟩
  | panic message => rintro s t ⟨⟩
  | report next ih => exact fun {s t} member => ih (s := s.note _) member
  | run next ih =>
    intro s t member
    rcases List.mem_cons.1 member with rfl | later
    · rfl
    · obtain ⟨result, u, ran, member⟩ := Run.mem_thence.1 later
      exact (ih result member).trans (kept.same ran)

theorem privileged_depth (operation : Operation) {step : Run Result} (kept : step.Retains (·.depth)) :
    (Traversal.privileged operation step).Retains (·.depth) := by
  refine ⟨fun {s t a} ran => ?_⟩
  unfold Traversal.privileged at ran
  rw [Run.get_bind_apply] at ran
  cases executor : s.chain.executor <;> rw [executor] at ran
  · exact kept.same ran
  · exact (Plan.carryOut_depth kept _).same ran

theorem actions_depth {operation : Operation} {step : Run Result} (kept : step.Retains (·.depth))
    {s t : Container} (member : t ∈ Traversal.actions operation step s) :
    t.request.depth = s.request.depth := by
  unfold Traversal.actions at member
  split at member
  · rw [List.mem_singleton.1 member]
  · exact Plan.runs_depth kept _ member

section Calling

variable {calls : Calls} (kept : ∀ call, (calls call).Retains (·.depth))
include kept

theorem chainAction_depth (who : Component) (action : ChainAction) :
    (action.perform calls who).Retains (·.depth) := by
  cases action with
  | proceed => exact kept .proceed
  | _ => exact .of_always fun _ => rfl

theorem Program.run_depth (who : Component) (hasChain : Bool) (program : Program) :
    (program.run calls who hasChain).Retains (·.depth) := by
  induction program with
  | finish result => exact .pure result
  | panic message => exact .halt _
  | act action next ih => exact (perform_depth who action).bind ih
  | chain action next ih =>
    unfold Program.run
    split
    · exact (chainAction_depth kept who action).bind ih
    · exact .pure _
  | dispatch dispatcher target next ih =>
    refine ⟨fun {s t a} ran => ?_⟩
    unfold Program.run at ran
    rw [Run.get_bind_apply] at ran
    cases attached : s.attachedPipeline? <;> rw [attached] at ran
    · exact (ih _).same ran
    · exact ((kept _).bind ih).same ran
  | withResponse response body next inside ih =>
    exact (inside.onResponse response).bind fun answer => ih answer.1 answer.2
  | reload config next ih =>
    refine ⟨fun {s t a} ran => ?_⟩
    unfold Program.run at ran
    rw [Run.get_bind_apply] at ran
    cases attached : s.attachedPipeline? <;> rw [attached] at ran
    · exact (ih _).same ran
    · exact ((kept _).bind ih).same ran

theorem Program.made_depth (who : Component) (hasChain : Bool) (program : Program) : ∀ {s c},
    c ∈ program.made calls who hasChain s → c.2.request.depth = s.request.depth := by
  have behind : ∀ {α : Type} {x : Run α} {next : α → Program}, x.Retains (·.depth) →
      (∀ a {s c}, c ∈ (next a).made calls who hasChain s → c.2.request.depth = s.request.depth) →
      ∀ {s c}, c ∈ x.thence (fun a => (next a).made calls who hasChain) s →
        c.2.request.depth = s.request.depth := by
    intro α x next first rest s c member
    obtain ⟨a, t, ran, member⟩ := Run.mem_thence.1 member
    exact (rest a member).trans (first.same ran)
  induction program with
  | finish result => rintro s c ⟨⟩
  | panic message => rintro s c ⟨⟩
  | act action next ih => exact behind (perform_depth who action) ih
  | chain action next ih =>
    intro s c member
    unfold Program.made at member
    split at member
    · rcases List.mem_append.1 member with here | later
      · split at here
        · rw [List.mem_singleton.1 here]
        · cases here
      · exact behind (chainAction_depth kept who action) ih later
    · cases member
  | dispatch dispatcher target next ih =>
    intro s c member
    unfold Program.made at member
    split at member
    · rcases List.mem_cons.1 member with rfl | later
      · rfl
      · exact behind (kept _) ih later
    · exact ih _ member
  | withResponse response body next inside ih =>
    intro s c member
    rcases List.mem_append.1 member with within | later
    · exact inside (s := s.newResponse response) within
    · obtain ⟨answer, t, ran, later⟩ := Run.mem_thence.1 later
      have body := (Program.run_depth kept who hasChain body).onResponse response
      exact (ih _ _ later).trans (body.same ran)
  | reload config next ih =>
    intro s c member
    unfold Program.made at member
    split at member
    · rcases List.mem_cons.1 member with rfl | later
      · rfl
      · exact behind (kept _) ih later
    · exact ih _ member

theorem Invocation.run_depth (i : Invocation) : (i.run calls).Retains (·.depth) :=
  Run.Retains.bind (.of_always fun _ => rfl) fun _ => Program.run_depth kept _ _ _

theorem call_depth (prepared : Except Failure Invocation) :
    (Traversal.call calls prepared).Retains (·.depth) := by
  cases prepared with
  | error failure => exact .pure _
  | ok i =>
    refine ⟨fun {s t a} ran => ?_⟩
    rw [call_apply] at ran
    obtain ⟨returned, rfl⟩ := Prod.mk.inj ran
    have closed : ∀ u, (i.close u).request = u.request := by
      intro u
      unfold Invocation.close
      split <;> rfl
    rw [closed]
    rcases inner : Traversal.privileged i.stage.operation (i.run calls) s with ⟨halt | result, u⟩
    · rw [inner] at returned
      cases returned
    · exact (privileged_depth _ (i.run_depth kept)).same inner

theorem step_depth : (Traversal.step calls).Retains (·.depth) := by
  have stepped : Traversal.step calls = (Traversal.prepare >>= Traversal.call calls) :=
    funext (step_eq calls)
  rw [stepped]
  exact Run.Retains.bind (.of_always prepare_depth) (call_depth kept)

theorem doFilter_depth : (Traversal.doFilter calls).Retains (·.depth) := by
  refine ⟨fun {s t a} ran => ?_⟩
  unfold Traversal.doFilter at ran
  rw [Run.get_bind_apply] at ran
  cases executor : s.chain.executor <;> rw [executor] at ran
  · exact (step_depth kept).same ran
  · exact ((privileged_depth .doFilter (step_depth kept)).map _).same ran

theorem invocations_depth {s : Container} {c : Invocation × Container}
    (member : c ∈ Traversal.invocations calls s) : c.2.request.depth = s.request.depth := by
  obtain ⟨t, acts, u, ready, member⟩ := mem_invocations.1 member
  have prepared := prepare_depth t
  rw [ready] at prepared
  exact ((actions_depth (c.1.run_depth kept) member).trans prepared).trans
    (actions_depth (step_depth kept) acts)

theorem inner_depth {s : Container} {c : Call × Container} (member : c ∈ Traversal.inner calls s) :
    c.2.request.depth = s.request.depth := by
  obtain ⟨x, called, made⟩ := mem_inner.1 member
  exact (Program.made_depth kept _ _ _ made).trans (invocations_depth kept called)

end Calling

/-! ### Visits -/

/-- How a request counts as dispatched, and at what depth. -/
def Request.standing (r : Request) : DispatchState × Nat := (r.dispatch, r.depth)

theorem Run.Retains.depth {x : Run α} (h : x.Retains Request.standing) : x.Retains (·.depth) :=
  ⟨fun ran => congrArg Prod.snd (h.same ran)⟩

theorem take_request (p : Nat) (x : Pipeline) (servlet : String) (pooled : Bool) (s : Container) :
    (Pipeline.take p x servlet pooled s).2.request = s.request := by
  obtain ⟨chain, ran | ⟨pool, hit, ran⟩⟩ := take_apply p x servlet pooled s <;> rw [ran]
  exact updatePipeline_request s p _

theorem enter_depth (p : Nat) (r : Registry) (w : Wrapper) :
    (Pipeline.enter p r w).Retains (·.depth) := by
  refine .of_always fun s => ?_
  obtain ⟨_, _, entered⟩ := enter_frame p r w s
  rw [entered]

theorem Run.Retains.inChain {f : Request → β} {body : Run Result} (h : body.Retains f)
    (chain : Chain) : (Pipeline.inChain chain body).Retains f := by
  refine ⟨fun {s t a} ran => ?_⟩
  rw [inChain_apply] at ran
  rcases done : body { s with chain, nesting := s.nesting + 1 } with ⟨halt | result, u⟩ <;>
    rw [done] at ran <;> cases ran
  have back := h.same done
  exact back

theorem Run.Retains.whileHeld {f : Request → β} {body : Run α} (h : body.Retains f) (r : Registry) :
    (r.whileHeld body).Retains f := by
  refine ⟨fun {s t a} ran => ?_⟩
  have held : r.whileHeld body s = ((body (r.hold s)).1, r.letGo (body (r.hold s)).2) := rfl
  rw [held] at ran
  rcases done : body (r.hold s) with ⟨halt | result, u⟩ <;> rw [done] at ran <;> cases ran
  obtain ⟨_, _, _, frame⟩ := letGo_frame r u
  have back := h.same done
  rw [frame]
  exact back

theorem takeAsync_retains : Pipeline.takeAsync.Retains Request.standing := .of_always fun _ => rfl

theorem resume_restores {again : Run Result} (restores : again.Retains Request.standing) (n : Nat) :
    (Pipeline.resume again n).Retains Request.standing := by
  induction n with
  | zero =>
    refine takeAsync_retains.bind fun suspended => ?_
    cases suspended <;> exact .pure _
  | succ n ih =>
    refine takeAsync_retains.bind fun suspended => ?_
    cases suspended with
    | false => exact .pure _
    | true =>
      refine restores.bind fun result => ?_
      cases result with
      | error failure => exact .pure _
      | ok done => exact ih

section Visiting

variable {calls : Calls} (kept : ∀ call, (calls call).Retains (·.depth))
include kept

theorem runChain_depth (p : Nat) (r : Registry) (w : Wrapper) (pooled : Bool) :
    (Pipeline.runChain calls p r w pooled).Retains (·.depth) := by
  refine ⟨fun {s t a} ran => ?_⟩
  cases found : s.pipelines.find? p with
  | none =>
    rw [runChain_none calls r w pooled found] at ran
    cases ran
    rfl
  | some x =>
    rw [runChain_some calls r w pooled found] at ran
    have visit := ((enter_depth p r w).bind fun _ => doFilter_depth kept)
    refine Run.Retains.same (.bind (.of_always fun s => ?_) fun chain =>
      (visit.inChain chain).bind fun out => ?_) ran
    · exact congrArg Request.depth (take_request p x w.name pooled s)
    · generalize (pooled && x.executor.isNone) = idle
      cases idle with
      | false => exact .pure _
      | true =>
        exact .bind (.of_always fun s => congrArg Request.depth (updatePipeline_request s p _))
          fun _ => .pure _

theorem dispatchTo_restores (p : Nat) (r : Registry) (w : Wrapper) (state : DispatchState)
    (pooled : Bool) : (Pipeline.dispatchTo calls p r w state pooled).Retains Request.standing := by
  refine ⟨fun {s t a} ran => ?_⟩
  unfold Pipeline.dispatchTo at ran
  rw [Run.get_bind_apply, Run.modify_bind_apply] at ran
  rcases done : Pipeline.runChain calls p r w pooled
    (s.updateRequest fun r => { r with dispatch := state }) with ⟨halt | result, u⟩
  · rw [Run.bind_of_error done] at ran
    cases ran
  · rw [Run.bind_of_ok done] at ran
    cases ran
    have back := (runChain_depth kept p r w pooled).same done
    exact Prod.ext rfl back

theorem dispatchNested_restores (p : Nat) (dispatcher : Dispatcher) (target : Target) :
    (Pipeline.dispatchNested calls p dispatcher target).Retains Request.standing := by
  have divert : ∀ r, (Pipeline.divert calls p r dispatcher target).Retains Request.standing := by
    intro r
    unfold Pipeline.divert
    split
    · exact .pure _
    · exact dispatchTo_restores kept _ _ _ _ _
  refine ⟨fun {s t a} ran => ?_⟩
  unfold Pipeline.dispatchNested at ran
  rw [Run.get_bind_apply] at ran
  cases found : s.pipelines.find? p <;> rw [found] at ran
  · cases ran
    rfl
  · exact ((divert _).whileHeld _).same ran

/-- A dispatch that returns restores what it has changed of the request, and what components have. -/
theorem dispatch_restores (p : Nat) (dispatcher : Dispatcher) (target : Target) :
    (Pipeline.dispatch calls p dispatcher target).Retains Request.standing := by
  refine ⟨fun {s t a} ran => ?_⟩
  unfold Pipeline.dispatch at ran
  rw [Run.modify_bind_apply, Run.get_bind_apply, show s.updateRequest _ = s.deepen from rfl] at ran
  dsimp only at ran
  split at ran
  · cases ran
    rfl
  · rcases done : Pipeline.dispatchNested calls p dispatcher target s.deepen with ⟨halt | result, u⟩
    · rw [Run.bind_of_error done] at ran
      cases ran
    · rw [Run.bind_of_ok done] at ran
      cases ran
      have inside := (dispatchNested_restores kept p dispatcher target).same done
      have depth : u.request.depth = s.request.depth + 1 := congrArg Prod.snd inside
      refine Prod.ext (congrArg Prod.fst inside :) ?_
      change u.request.depth - 1 = s.request.depth
      rw [depth, Nat.add_sub_cancel]

theorem traverse_restores (p : Nat) (r : Registry) (w : Wrapper) (path : String) :
    (Pipeline.traverse calls p r w path).Retains Request.standing := by
  refine (dispatchTo_restores kept p r w _ true).bind fun result => ?_
  cases result with
  | error failure => exact .pure _
  | ok done => exact resume_restores (dispatchTo_restores kept p r w _ true) _

theorem serviceOn_restores (p : Nat) (r : Registry) (path : String) :
    (Pipeline.serviceOn calls p r path).Retains Request.standing := by
  unfold Pipeline.serviceOn
  split
  · exact .pure _
  · refine (traverse_restores kept p r _ path).bind fun result => ?_
    cases result with
    | ok done => exact .pure _
    | error failure => exact .of_always fun _ => rfl

/-- A pipeline that has serviced a request restores what it has changed of it, and what components
have. -/
theorem serviceWith_restores (p : Nat) :
    (Pipeline.serviceWith calls p).Retains Request.standing := by
  refine .bind (.of_always fun _ => rfl) fun _ => ⟨fun {s t a} ran => ?_⟩
  rw [Run.get_bind_apply] at ran
  cases found : s.pipelines.find? p <;> rw [found] at ran
  · cases ran
    rfl
  · exact ((serviceOn_restores kept p _ _).whileHeld _).same ran

end Visiting

theorem build_request (config : Config) (components : ComponentFactory) (s : Container) :
    (Registry.build config components s).2.request = s.request := by
  obtain ⟨n, counts, new, -, grown⟩ := build_grown config components s
  rw [grown]
  rfl

theorem install_request (p : Nat) (r : Registry) (config : Config) (s : Container) :
    (Pipeline.install p r config s).request = s.request := by
  obtain ⟨_, _, _, swapped⟩ := swapRegistry_pipelines s p r
  change (Container.updatePipeline _ p _).request = s.request
  rw [updatePipeline_request, swapped]
  exact updatePipeline_request s p _

theorem reload_request (p : Nat) (config : Config) (s : Container) :
    (Pipeline.reload p config s).2.request = s.request := by
  cases found : s.pipelines.find? p with
  | none => rw [reload_of_none found]
  | some x =>
    have grown := build_request config x.components s
    rcases ran : Registry.build config x.components s with ⟨halt | e | r, u⟩ <;> rw [ran] at grown
    · rw [reload_of_halt found ran]
      exact grown
    · rw [reload_of_error found ran]
      exact grown
    · rw [reload_of_ok found ran, install_request]
      split <;> exact grown

theorem meanwhile_request (outside : Outside) (s : Container) :
    (meanwhile outside s).2.request = s.request :=
  @meanwhile_across (fun s t => t.request = s.request) (fun _ => rfl)
    (fun first second => second.trans first) reload_request outside s

theorem callsAmid_depth (outside : Outside) (levels : Nat) (call : Call) :
    (callsAmid outside levels call).Retains (·.depth) := by
  induction levels generalizing call with
  | zero => exact .halt _
  | succ n ih =>
    have others : (meanwhile outside).Retains (·.depth) :=
      .of_always fun s => congrArg Request.depth (meanwhile_request outside s)
    refine others.bind fun _ => .bind ?_ fun _ => others.bind fun _ => .pure _
    cases call with
    | proceed => exact doFilter_depth ih
    | dispatch p dispatcher target => exact (dispatch_restores ih p dispatcher target).depth
    | reload p config =>
      refine .bind (.of_always fun s => ?_) fun _ => .pure _
      exact congrArg Request.depth (reload_request p config s)

/-! ### The depth inside -/

theorem Entered.depth {p : Nat} {r : Registry} {w : Wrapper} {base : Chain} {s t : Container}
    (h : Entered p r w base s t) : t.request.depth = s.request.depth := by
  obtain ⟨names, request⟩ := h.request
  rw [request]

theorem starts_depth {p : Nat} {r : Registry} {w : Wrapper} {state : DispatchState} {pooled : Bool}
    {s u : Container} (start : u ∈ Pipeline.starts p r w state pooled s) :
    u.request.depth = s.request.depth := by
  rcases dispatchTo_cases (fun _ => Run.halt .exhausted) p r w state pooled s with
    ⟨-, none, -⟩ | ⟨x, base, t, v, -, -, starts, -, request, entered, -⟩
  · rw [none] at start
    cases start
  · rw [starts] at start
    obtain rfl := List.mem_singleton.1 start
    rw [entered.depth, request]

theorem dispatchStarts_depth {p : Nat} {dispatcher : Dispatcher} {target : Target} {s u : Container}
    (start : u ∈ Pipeline.dispatchStarts p dispatcher target s) :
    u.request.depth = s.request.depth + 1 ∧ s.request.depth < maxDispatchDepth := by
  rcases dispatch_cases (fun _ => Run.halt .exhausted) p dispatcher target s with
    ⟨none, -⟩ | ⟨x, w, path, base, t, v, -, -, -, starts, -, shallow, request, entered, -⟩
  · rw [none] at start
    cases start
  · rw [starts] at start
    obtain rfl := List.mem_singleton.1 start
    refine ⟨?_, shallow⟩
    rw [entered.depth, request]

theorem resumptions_depth {again : Run Result} {start : Container → List Container}
    (restores : again.Retains Request.standing)
    (starts : ∀ {s u}, u ∈ start s → u.request.depth = s.request.depth) (n : Nat) : ∀ {s u},
    u ∈ Pipeline.resumptions again start n s → u.request.depth = s.request.depth := by
  induction n with
  | zero => rintro s u ⟨⟩
  | succ n ih =>
    intro s u member
    unfold Pipeline.resumptions at member
    obtain ⟨suspended, t, taken, member⟩ := Run.mem_thence.1 member
    have same : t.request.depth = s.request.depth := takeAsync_retains.depth.same taken
    cases suspended with
    | false => cases member
    | true =>
      rcases List.mem_append.1 member with first | later
      · exact (starts first).trans same
      · obtain ⟨result, v, ran, member⟩ := Run.mem_thence.1 later
        split at member
        · exact ((ih member).trans (restores.depth.same ran)).trans same
        · cases member

theorem serviceStarts_depth {calls : Calls} (kept : ∀ call, (calls call).Retains (·.depth)) {p : Nat}
    {s u : Container} (start : u ∈ Pipeline.serviceStarts calls p s) :
    u.request.depth = s.request.depth := by
  unfold Pipeline.serviceStarts at start
  split at start
  · cases start
  · split at start
    · cases start
    · unfold Pipeline.traversals at start
      rcases List.mem_append.1 start with first | later
      · have same := starts_depth first
        exact same
      · obtain ⟨result, v, ran, member⟩ := Run.mem_thence.1 later
        split at member
        · have once := (dispatchTo_restores kept _ _ _ _ true).depth.same ran
          exact (resumptions_depth (dispatchTo_restores kept _ _ _ _ true) starts_depth _ member).trans
            once
        · cases member

def Call.isDispatch : Call → Bool
  | .dispatch _ _ _ => true
  | _ => false

theorem Call.starts_depth {call : Call} {s t : Container} (start : t ∈ call.starts s) :
    t.request.depth = s.request.depth + [call].countP Call.isDispatch ∧
      (s.request.depth ≤ maxDispatchDepth → t.request.depth ≤ maxDispatchDepth) := by
  cases call with
  | proceed =>
    rw [List.mem_singleton.1 start]
    exact ⟨rfl, id⟩
  | dispatch p dispatcher target =>
    obtain ⟨depth, shallow⟩ := dispatchStarts_depth start
    exact ⟨depth, fun _ => depth ▸ shallow⟩
  | reload p config => cases start

/-- A call to go on that a traversal comes to, the calls of components in which that happens, the
outermost first, and the levels that are left for it. -/
inductive Through (outside : Outside) : Nat → Container → List Call → Nat → Container → Prop where
  | here {n s} : Through outside n s [] n s
  | inside {n s call w t calls m g} : (call, w) ∈ Traversal.inner (callsAmid outside (n + 1)) s →
      t ∈ call.starts (meanwhile outside w).2 → Through outside n t calls m g →
      Through outside (n + 1) s (call :: calls) m g

theorem Leads.through {outside : Outside} {n m : Nat} {s g : Container} (h : Leads outside n s m g) :
    ∃ calls, Through outside n s calls m g := by
  induction h with
  | here => exact ⟨[], .here⟩
  | inside made start _ ih =>
    obtain ⟨calls, through⟩ := ih
    exact ⟨_, .inside made start through⟩

/-- On the way inside, the depth grows by the dispatches, and not beyond its limit. -/
theorem Through.depth {outside : Outside} {n m : Nat} {s g : Container} {calls : List Call}
    (h : Through outside n s calls m g) :
    g.request.depth = s.request.depth + calls.countP Call.isDispatch ∧
      (s.request.depth ≤ maxDispatchDepth → g.request.depth ≤ maxDispatchDepth) := by
  induction h with
  | here => exact ⟨rfl, id⟩
  | @inside n s call w t calls m g made start _ ih =>
    have before : (meanwhile outside w).2.request.depth = s.request.depth := by
      rw [meanwhile_request]
      exact inner_depth (callsAmid_depth outside (n + 1)) made
    obtain ⟨counted, bounded⟩ := Call.starts_depth start
    rw [before] at counted bounded
    refine ⟨?_, fun le => ih.2 (bounded le)⟩
    rw [ih.1, counted, show call :: calls = [call] ++ calls from rfl, List.countP_append,
      Nat.add_assoc]

/-- In a traversal that is itself inside so many dispatches, the depth at which a component is called
is the number of dispatches around it. -/
def Counted (outside : Outside) (levels base : Nat) (start : Container) : Prop :=
  ∀ calls m g i v, Through outside levels start calls m g →
    (i, v) ∈ Traversal.invocations (callsAmid outside m) g →
    v.request.depth = base + calls.countP Call.isDispatch ∧ v.request.depth ≤ maxDispatchDepth

theorem counted_of_depth {outside : Outside} {levels base : Nat} {start : Container}
    (depth : start.request.depth = base) (bounded : base ≤ maxDispatchDepth) :
    Counted outside levels base start := by
  subst depth
  intro calls m g i v through called
  have here := invocations_depth (callsAmid_depth outside m) called
  obtain ⟨counted, within⟩ := through.depth
  rw [here]
  exact ⟨counted, within bounded⟩

/-! ### Requests of which all calls return -/

/-- What is done to the current request returns; other acts may be cut short. -/
def Host.Act.Returns (h : Host) : Host.Act → Prop
  | .service levels outside p =>
    ∃ a, (Pipeline.serviceWith (callsAmid outside levels) p h.box).1 = .ok a
  | .dispatch levels outside p dispatcher target =>
    ∃ a, (Pipeline.dispatch (callsAmid outside levels) p dispatcher target h.box).1 = .ok a
  | _ => True

/-- All that was done to the current request has returned. -/
inductive Host.Unbroken : Host → Prop where
  | none : Unbroken {}
  | request (h : Host) (spec : RequestSpec) : Unbroken (h.act (.request spec))
  | act {h : Host} {a : Host.Act} : Unbroken h → a.Returns h → Unbroken (h.act a)

/-- Opening a pipeline builds a registry and creates a pipeline with it, or ends before that. -/
theorem openWith_cases (config : Config) (components : ComponentFactory) (executor : Option Executor)
    (s : Container) :
    ∃ n counts new, (Host.openWith config components executor s).2 = s.grown n counts new ∨
      ∃ r t options, options.maxIdlePerServlet = config.pool.maxIdlePerServlet ∧
        Registry.build config components s = (.ok (.ok r), t) ∧
        Host.openWith config components executor s =
          (.ok (.ok (s.grown n counts new).nextSerial),
            (Pipeline.create r components options (s.grown n counts new)).2) := by
  obtain ⟨n, counts, new, -, grown⟩ := build_grown config components s
  rcases ran : Registry.build config components s with ⟨halt | e | r, t⟩ <;> rw [ran] at grown <;>
    obtain rfl : t = s.grown n counts new := grown
  · refine ⟨n, counts, new, .inl ?_⟩
    cases executor <;> exact congrArg Prod.snd (Run.bind_of_error ran)
  · refine ⟨n, counts, new, .inl ?_⟩
    cases executor <;> exact congrArg Prod.snd (Run.bind_of_ok ran)
  · cases executor with
    | none =>
      exact ⟨n, counts, _ :: new, .inr ⟨r, _, .ofConfig config, rfl, rfl, Run.bind_of_ok ran⟩⟩
    | some executor =>
      exact ⟨n, counts, new, .inr ⟨r, _, { PipelineOptions.ofConfig config with executor }, rfl, rfl,
        Run.bind_of_ok ran⟩⟩

theorem openWith_request (config : Config) (components : ComponentFactory)
    (executor : Option Executor) (s : Container) :
    (Host.openWith config components executor s).2.request = s.request := by
  obtain ⟨_, _, _, ended | ⟨_, _, _, -, -, created⟩⟩ := openWith_cases config components executor s
  · rw [ended]
    rfl
  · rw [created]
    rfl

theorem close_request (p : Nat) (s : Container) :
    (Pipeline.close p s).2.request = s.request := by
  unfold Pipeline.close
  rw [Run.modify_apply]
  cases s.pipelines.find? p with
  | none => rfl
  | some x =>
    obtain ⟨_, _, _, frame⟩ := letGo_frame x.registry { s with pipelines := s.pipelines.erase p }
    change (x.registry.letGo { s with pipelines := s.pipelines.erase p }).request = s.request
    rw [frame]

/-- An act that returns, if it is done to the current request, leaves its depth as it was, unless it
puts another request in its place. -/
theorem Host.act_depth {h : Host} {a : Host.Act} (returns : a.Returns h) :
    (h.act a).box.request.depth = h.box.request.depth ∨ (h.act a).box.request.depth = 0 := by
  cases a with
  | openPipeline config components executor =>
    exact .inl (congrArg Request.depth (openWith_request config components executor h.box))
  | close p => exact .inl (congrArg Request.depth (close_request p h.box))
  | request spec => exact .inr rfl
  | response => exact .inl rfl
  | service levels outside p =>
    obtain ⟨a, returned⟩ := returns
    exact .inl ((serviceWith_restores (callsAmid_depth outside levels) p).depth.same
      (Prod.ext returned rfl))
  | dispatch levels outside p dispatcher target =>
    obtain ⟨a, returned⟩ := returns
    exact .inl ((dispatch_restores (callsAmid_depth outside levels) p dispatcher target).depth.same
      (Prod.ext returned rfl))
  | reload p config => exact .inl (congrArg Request.depth (reload_request p config h.box))
  | keep p =>
    unfold Host.act
    dsimp only
    split
    · exact .inl rfl
    · exact .inl rfl
  | letGo place =>
    unfold Host.act
    dsimp only
    split
    · exact .inl rfl
    · rename_i r _
      obtain ⟨_, _, _, frame⟩ := letGo_frame r h.box
      exact .inl (congrArg (·.request.depth) frame)
  | obtain place filter =>
    unfold Host.act
    dsimp only
    split
    · exact .inl rfl
    · rename_i f _
      exact .inl (congrArg Request.depth (f.obtain_request h.box))

theorem Host.Unbroken.depth {h : Host} (unbroken : h.Unbroken) : h.box.request.depth = 0 := by
  induction unbroken with
  | none => rfl
  | request h spec => rfl
  | act _ returns ih =>
    rcases Host.act_depth returns with same | new
    · exact same.trans ih
    · exact new

/-- The event tells that a component is called in a traversal that begins in one of these states, and
the depth that it tells is the number of dispatches around the call. -/
def Event.CountedFrom (outside : Outside) (levels base : Nat) (starts : List Container)
    (past : List Event) (e : Event) : Prop :=
  e.isInvoked = true → ∃ start ∈ starts, ∃ calls m g i v, Through outside levels start calls m g ∧
    (i, v) ∈ Traversal.invocations (callsAmid outside m) g ∧ v.journal = past ∧ e = i.event v ∧
    v.request.depth = base + calls.countP Call.isDispatch ∧ v.request.depth ≤ maxDispatchDepth

theorem Event.CalledFrom.counted {outside : Outside} {levels base : Nat} {starts : List Container}
    {past : List Event} {e : Event} (h : e.CalledFrom outside levels starts past)
    (counted : ∀ start ∈ starts, Counted outside levels base start) :
    e.CountedFrom outside levels base starts past := by
  intro invoked
  obtain ⟨start, member, called⟩ := h invoked
  obtain ⟨m, g, i, v, leads, inside, before, told⟩ := called invoked
  obtain ⟨calls, through⟩ := leads.through
  exact ⟨start, member, calls, m, g, i, v, through, inside, before, told,
    counted start member calls m g i v through inside⟩

/-- What a call of `service` or `dispatch` returns with, success or failure, the request counts as
dispatched as it did before, at the depth that it was at before. And as long as all that is done to a
request returns, every component is called at the depth that is the number of dispatches around the
call, which is at most the greatest that is allowed. -/
theorem service_restores :
    (∀ (outside : Outside) (levels p : Nat) (s t : Container) (a : Except ServiceError Unit),
      Pipeline.serviceWith (callsAmid outside levels) p s = (.ok a, t) →
      t.request.dispatch = s.request.dispatch ∧ t.request.depth = s.request.depth) ∧
    (∀ (outside : Outside) (levels p : Nat) (dispatcher : Dispatcher) (target : Target)
      (s t : Container) (a : Result),
      Pipeline.dispatch (callsAmid outside levels) p dispatcher target s = (.ok a, t) →
      t.request.dispatch = s.request.dispatch ∧ t.request.depth = s.request.depth) ∧
    ∀ h : Host, h.Unbroken → ∀ (outside : Outside) (levels p : Nat),
      (∀ start ∈ Pipeline.serviceStarts (callsAmid outside levels) p h.box,
        Counted outside levels 0 start) ∧
      (∀ e past, Added e past h.box (Pipeline.serviceWith (callsAmid outside levels) p h.box).2 →
        e.CountedFrom outside levels 0 (Pipeline.serviceStarts (callsAmid outside levels) p h.box)
          past) ∧
      ∀ dispatcher target,
        (∀ start ∈ Pipeline.dispatchStarts p dispatcher target h.box,
          Counted outside levels 1 start) ∧
        ∀ e past, Added e past h.box
            (Pipeline.dispatch (callsAmid outside levels) p dispatcher target h.box).2 →
          e.CountedFrom outside levels 1 (Pipeline.dispatchStarts p dispatcher target h.box) past := by
  refine ⟨fun outside levels p s t a ran => ?_, fun outside levels p dispatcher target s t a ran => ?_,
    fun h unbroken outside levels p => ?_⟩
  · exact Prod.mk.inj ((serviceWith_restores (callsAmid_depth outside levels) p).same ran)
  · exact Prod.mk.inj
      ((dispatch_restores (callsAmid_depth outside levels) p dispatcher target).same ran)
  · have depth := unbroken.depth
    have serviced : ∀ start ∈ Pipeline.serviceStarts (callsAmid outside levels) p h.box,
        Counted outside levels 0 start := fun start member => counted_of_depth
      ((serviceStarts_depth (callsAmid_depth outside levels) member).trans depth) (Nat.zero_le _)
    refine ⟨serviced, fun e past added =>
      ((serviceWith_called outside levels p h.box).fits added).counted serviced,
      fun dispatcher target => ?_⟩
    have dispatched : ∀ start ∈ Pipeline.dispatchStarts p dispatcher target h.box,
        Counted outside levels 1 start := by
      intro start member
      obtain ⟨one, -⟩ := dispatchStarts_depth member
      exact counted_of_depth (one.trans (congrArg (· + 1) depth)) (by decide)
    exact ⟨dispatched, fun e past added =>
      ((dispatch_called outside levels p dispatcher target h.box).fits added).counted dispatched⟩

/-- A pipeline with a servlet that passes the request off as an error and forwards it to nowhere, and
a request for that servlet. -/
def strayed : Host :=
  .run [.openPipeline { servlets := [{ name := "desk", className := "desk", urlPatterns := ["/"] }] }
      { servlets := ⟨[("desk", ⟨false, fun _ _ => .ready
        (.perform (.replaceDispatch { dispatcher := .error, path := some "/lost" })
          (.dispatch .forward (.path "/gone") .finish))⟩)]⟩ } none,
    .request {}]

/-- The request fails, and counts as a request for its path as before. -/
theorem service_restores_strayed :
    strayed.Unbroken ∧
      (∃ f t, Pipeline.serviceWith (callsAmid (fun _ => []) 1) 3 strayed.box =
          (.ok (.error (.chain f)), t) ∧
        t.request.dispatch = { dispatcher := .request, path := some "/" } ∧ t.request.depth = 0) ∧
      (∃ f t, Pipeline.dispatch (callsAmid (fun _ => []) 1) 3 .inclusion (.path "/") strayed.box =
          (.ok (.error f), t) ∧
        t.request.dispatch = { dispatcher := .request, path := some "/" } ∧ t.request.depth = 0) ∧
      ∀ start ∈ Pipeline.serviceStarts (callsAmid (fun _ => []) 1) 3 strayed.box,
        Counted (fun _ => []) 1 0 start := by
  obtain ⟨serviced, dispatched, counted⟩ := service_restores
  have unbroken : strayed.Unbroken := .request _ {}
  refine ⟨unbroken, ?_, ?_, (counted strayed unbroken (fun _ => []) 1 3).1⟩
  · have ran : Pipeline.serviceWith (callsAmid (fun _ => []) 1) 3 strayed.box =
      (.ok (.error (.chain _)), _) := rfl
    exact ⟨_, _, ran, serviced _ _ _ _ _ _ ran⟩
  · have ran : Pipeline.dispatch (callsAmid (fun _ => []) 1) 3 .inclusion (.path "/") strayed.box =
      (.ok (.error _), _) := rfl
    exact ⟨_, _, ran, dispatched _ _ _ _ _ _ _ _ ran⟩

end ServletFilters
