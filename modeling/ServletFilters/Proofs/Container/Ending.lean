import ServletFilters.Proofs.Container.Nearing

/-!
Servicing a request comes to an end, `service_terminates`, unless a filter puts its chain back to the
first filter. Each call to go on leaves fewer filters ahead, and each dispatch, which starts with as
many as it likes, is one of the 32 that may be going on at once.
-/

namespace ServletFilters

/-- The filters are advancing, so many dispatches are going on, and at most so many filters are
ahead. -/
structure Container.Within (depth ahead : Nat) (s : Container) : Prop extends s.Advancing where
  depth_eq : s.request.depth = depth
  ahead_le : s.chain.ahead ≤ ahead

theorem Nears.within {s t : Container} (h : Nears s t) {d k : Nat} (before : s.Within d k) :
    t.Within d k :=
  ⟨h.advancing before.toAdvancing, h.depth.trans before.depth_eq, Nat.le_trans h.ahead before.ahead_le⟩

/-- What comes of a computation, by the levels of calls that it is allowed. It always leaves advancing
filters, and where it returns the request is no further from its end. And some number of levels is
enough: with more of them the same comes of it, which is not that they do not suffice. -/
structure Conclusive (depth ahead : Nat) (out : Nat → Except Halt α × Container) : Prop where
  advancing : ∀ n, (out n).2.Advancing
  within : ∀ {n a t}, out n = (.ok a, t) → t.Within depth ahead
  enough : ∃ n, (out n).1 ≠ .error .exhausted ∧ ∀ m ≥ n, out m = out n

namespace Conclusive

variable {d k d' k' : Nat} {s : Container}

theorem const {out : Except Halt α × Container} (h : s.Within d k) (nears : Nears s out.2)
    (ends : out.1 ≠ .error .exhausted) : Conclusive d k fun _ => out := by
  refine ⟨fun _ => nears.advancing h.toAdvancing, ?_, 0, ends, fun _ _ => rfl⟩
  rintro n a t rfl
  exact nears.within h

theorem pure (h : s.Within d k) (a : α) : Conclusive d k fun _ => (Pure.pure a : Run α) s :=
  .const h (.refl s) (by rintro ⟨⟩)

theorem mono {out : Nat → Except Halt α × Container} (h : Conclusive d k out) (le : k ≤ k') :
    Conclusive d k' out :=
  ⟨h.advancing, fun ran => { h.within ran with ahead_le := Nat.le_trans (h.within ran).ahead_le le },
    h.enough⟩

theorem bind {x : Nat → Run α} {next : Nat → α → Run β} (first : Conclusive d k fun n => x n s)
    (rest : ∀ {n a t}, x n s = (.ok a, t) → t.Within d k → Conclusive d' k' fun m => next m a t) :
    Conclusive d' k' fun n => (x n >>= next n) s := by
  refine ⟨fun n => ?_, fun {n b u} ran => ?_, ?_⟩
  · have left := first.advancing n
    rcases done : x n s with ⟨halt | a, t⟩
    · rw [Run.bind_of_error done]
      rw [done] at left
      exact left
    · rw [Run.bind_of_ok done]
      exact (rest done (first.within done)).advancing n
  · rcases done : x n s with ⟨halt | a, t⟩
    · rw [Run.bind_of_error done] at ran
      cases ran
    · rw [Run.bind_of_ok done] at ran
      exact (rest done (first.within done)).within ran
  · obtain ⟨n, ends, same⟩ := first.enough
    rcases done : x n s with ⟨halt | a, t⟩ <;> simp only [done] at ends same
    · refine ⟨n, ?_, fun m le => ?_⟩
      · rw [Run.bind_of_error done]
        rintro ⟨⟩
        exact ends rfl
      · rw [Run.bind_of_error done, Run.bind_of_error (same m le)]
    · obtain ⟨n', ends', same'⟩ := (rest done (first.within done)).enough
      -- From the larger number of levels on, both parts are as they stay.
      have stays : ∀ m ≥ max n n', (x m >>= next m) s = next n' a t := by
        intro m le
        obtain ⟨le, le'⟩ := Nat.max_le.1 le
        rw [Run.bind_of_ok (same m le), same' m le']
      refine ⟨max n n', ?_, fun m le => ?_⟩
      · rw [stays _ (Nat.le_refl _)]
        exact ends'
      · rw [stays m le, stays _ (Nat.le_refl _)]

/-- What is done to an outcome in the end. -/
theorem map {out : Nat → Except Halt α × Container} (h : Conclusive d k out)
    (f : Container → α → β) {g : Container → Container}
    (advancing : ∀ {t : Container}, t.Advancing → (g t).Advancing)
    (within : ∀ {t : Container}, t.Within d k → (g t).Within d' k') :
    Conclusive d' k' fun n => ((out n).1.map (f (out n).2), g (out n).2) := by
  refine ⟨fun n => advancing (h.advancing n), fun {n b u} ran => ?_, ?_⟩
  · rcases done : out n with ⟨halt | a, t⟩ <;> rw [done] at ran <;> cases ran
    exact within (h.within done)
  · obtain ⟨n, ends, same⟩ := h.enough
    refine ⟨n, ?_, fun m le => by rw [same m le]⟩
    rcases done : out n with ⟨halt | a, t⟩ <;> rw [done] at ends <;> rintro ⟨⟩
    exact ends rfl

theorem nears {out : Nat → Except Halt α × Container} (h : Conclusive d k out)
    {g : Container → Container} (nears : ∀ t, Nears t (g t)) :
    Conclusive d k fun n => ((out n).1, g (out n).2) := by
  have mapped := h.map (fun _ a => a) (fun before => (nears _).advancing before)
    fun before => (nears _).within before
  have same : ∀ r : Except Halt α, r.map (fun a => a) = r := by
    intro r
    cases r <;> rfl
  simpa only [same] using mapped

/-- One level more. -/
theorem deeper {out : Nat → Except Halt α × Container} (h : s.Within d k)
    (zero : out 0 = (.error .exhausted, s)) (later : Conclusive d k fun n => out (n + 1)) :
    Conclusive d k out := by
  refine ⟨fun n => ?_, fun {n a t} ran => ?_, ?_⟩
  · cases n with
    | zero =>
      rw [zero]
      exact h.toAdvancing
    | succ n => exact later.advancing n
  · cases n with
    | zero =>
      rw [zero] at ran
      cases ran
    | succ n => exact later.within ran
  · obtain ⟨n, ends, same⟩ := later.enough
    refine ⟨n + 1, ends, fun m le => ?_⟩
    obtain ⟨j, rfl⟩ : ∃ j, m = j + 1 := ⟨m - 1, by omega⟩
    exact same j (Nat.le_of_succ_le_succ le)

end Conclusive

/-- From every state with so many dispatches going on and so many filters ahead at most, the
computation comes to an end if it is allowed enough levels of calls. -/
def Terminates (depth ahead : Nat) (x : Nat → Run α) : Prop :=
  ∀ s : Container, s.Within depth ahead → Conclusive depth ahead fun n => x n s

namespace Terminates

variable {d k : Nat}

theorem const {x : Run α} (callless : x.Callless) (nears : ∀ s, Nears s (x s).2) :
    Terminates d k fun _ => x := fun s h => .const h (nears s) (callless s)

theorem pure (a : α) : Terminates d k fun _ => (Pure.pure a : Run α) := fun _ h => .pure h a

theorem panic (message : String) :
    Terminates d k fun _ => (Run.halt (.panic message) : Run α) :=
  .const (fun _ => by rintro ⟨⟩) fun s => .refl s

theorem change {f : Container → Container} (nears : ∀ s, Nears s (f s)) :
    Terminates d k fun _ => (modify f : Run PUnit) := .const (fun _ => by rintro ⟨⟩) nears

theorem bind {x : Nat → Run α} {next : Nat → α → Run β} (first : Terminates d k x)
    (rest : ∀ a, Terminates d k fun n => next n a) : Terminates d k fun n => x n >>= next n :=
  fun s h => .bind (first s h) fun {_ a t} _ within => rest a t within

theorem note (e : Event) : Terminates d k fun _ => record e := .change fun s => .note s e

end Terminates

/-! ### Executors and components -/

section Traversing

variable {d k : Nat}

theorem Plan.carryOut_terminates {operation : Operation} {principal : Option String}
    {step : Nat → Run Result} (h : Terminates d k step) (plan : Plan) :
    Terminates d k fun n => plan.carryOut operation principal (step n) := by
  induction plan with
  | finish result => exact .pure result
  | panic message => exact .panic message
  | report next ih => exact .bind (.note _) fun _ => ih
  | run next ih => exact .bind h ih

theorem privileged_terminates (operation : Operation) {step : Nat → Run Result}
    (h : Terminates d k step) : Terminates d k fun n => Traversal.privileged operation (step n) := by
  intro s within
  unfold Traversal.privileged
  simp only [Run.get_bind_apply]
  cases s.chain.executor with
  | none => exact h s within
  | some executor => exact Plan.carryOut_terminates h _ s within

theorem perform_callless (who : Component) (action : Action) : (action.perform who).Callless := by
  intro s
  cases action with
  | startAsync =>
    change (if s.request.asyncSupported then _ else _ : _ × Container).1 ≠ _
    split <;> rintro ⟨⟩
  | _ => rintro ⟨⟩

theorem onResponse_terminates (response : Response) {body : Nat → Run Result}
    (h : Terminates d k body) : Terminates d k fun n => onResponse response (body n) := by
  intro s within
  have opened : Nears s (s.newResponse response) := .same rfl rfl rfl rfl
  have closed (t : Container) : Nears t { t with response := s.response } := .same rfl rfl rfl rfl
  exact (h _ (opened.within within)).map (fun t result => (result, { t.response with serial := 0 }))
    (fun left => (closed _).advancing left) fun left => (closed _).within left

/-- A program comes to an end if the calls do that it makes. -/
theorem Program.run_terminates {calls : Nat → Calls} {hasChain : Bool}
    (answered : ∀ call, (call = .proceed → hasChain = true) → Terminates d k fun n => calls n call)
    (who : Component) (program : Program) (advancing : hasChain = true → program.Advancing) :
    Terminates d k fun n => program.run (calls n) who hasChain := by
  induction program with
  | finish result => exact .pure result
  | panic message => exact .panic message
  | act action next ih =>
    exact .bind (.const (perform_callless who action) (perform_nears who action)) fun answer =>
      ih answer fun has => (advancing has).2 answer
  | chain action next ih =>
    cases hasChain with
    | false => exact .pure _
    | true =>
      obtain ⟨onward, later⟩ := advancing rfl
      cases action with
      | proceed =>
        exact .bind (answered .proceed fun _ => rfl) fun result => ih result fun _ => later result
      | reuse => exact absurd rfl onward
      | release =>
        exact .bind (.const (fun _ => by rintro ⟨⟩) fun s => (Nears.note s _).trans (.release _))
          fun _ => ih () fun _ => later ()
      | observe | gauge =>
        exact .bind (.const (fun _ => by rintro ⟨⟩) fun s => .note s _) fun answer =>
          ih answer fun _ => later answer
  | dispatch dispatcher target next ih =>
    intro s within
    unfold Program.run
    simp only [Run.get_bind_apply]
    cases s.attachedPipeline? with
    | none => exact ih _ (fun has => advancing has _) s within
    | some p =>
      exact Terminates.bind (answered (.dispatch p dispatcher target) (by rintro ⟨⟩))
        (fun result => ih result fun has => advancing has result) s within
  | withResponse response body next inside ih =>
    exact .bind (onResponse_terminates response (inside fun has => (advancing has).1)) fun answer =>
      ih answer.1 answer.2 fun has => (advancing has).2 answer.1 answer.2
  | reload config next ih =>
    intro s within
    unfold Program.run
    simp only [Run.get_bind_apply]
    cases s.attachedPipeline? with
    | none => exact ih _ (fun has => advancing has _) s within
    | some p =>
      exact Terminates.bind (answered (.reload p config) (by rintro ⟨⟩))
        (fun result => ih result fun has => advancing has result) s within

theorem call_terminates {calls : Nat → Calls} {i : Invocation}
    (answered : ∀ call, (call = .proceed → i.stage.hasChain = true) →
      Terminates d k fun n => calls n call)
    (advancing : i.stage.hasChain = true → i.component.program.Advancing) :
    Terminates d k fun n => Traversal.call (calls n) (.ok i) := by
  have run : Terminates d k fun n => i.run (calls n) :=
    .bind (.const (fun _ => by rintro ⟨⟩) fun s => .note s _) fun _ =>
      Program.run_terminates answered _ _ advancing
  intro s within
  simp only [call_apply]
  exact (privileged_terminates _ run s within).map (fun _ => _)
    (fun h => (i.close_nears _).advancing h) fun h => (i.close_nears _).within h

theorem prepareFilter_nears {f : FilterConfig} (advancing : f.Advancing) (s : Container) :
    Nears s (Traversal.prepareFilter f s).2 := by
  have nears := f.obtain_nears advancing s
  unfold Traversal.prepareFilter
  rcases given : f.obtain s with ⟨halt | failure | c, t⟩ <;> rw [given] at nears
  · rw [Run.bind_of_error given]
    exact nears
  · rw [Run.bind_of_ok given]
    exact nears
  · rw [Run.bind_of_ok given]
    exact nears.trans ((downgrade_nears f.declinesAsync t).trans (.note _ _))

theorem prepareFilter_callless (f : FilterConfig) : (Traversal.prepareFilter f).Callless := by
  refine f.obtain_callless.bind fun given => ?_
  cases given <;> exact fun _ => by rintro ⟨⟩

theorem prepareFilter_advancing {f : FilterConfig} (advancing : f.Advancing) {s t : Container}
    (h : s.Advancing) {i : Invocation} (ran : Traversal.prepareFilter f s = (.ok (.ok i), t)) :
    i.component.program.Advancing := by
  rcases given : f.obtain s with ⟨halt | failure | c, u⟩
  · rw [Traversal.prepareFilter, Run.bind_of_error given] at ran
    cases ran
  · rw [Traversal.prepareFilter, Run.bind_of_ok given] at ran
    cases ran
  · obtain ⟨_, -, ready⟩ := prepareFilter_ok given
    obtain rfl := value_eq (ready.symm.trans ran)
    exact f.obtain_advancing advancing h given

theorem prepareServlet_nears (s : Container) : Nears s (Traversal.prepareServlet s).2 := by
  unfold Traversal.prepareServlet
  rw [Run.get_bind_apply]
  cases s.chain.servlet with
  | none => exact .refl s
  | some c =>
    have ready := fun t => (downgrade_nears (!s.chain.servletAsync) t).trans
      (.note _ (.measured .servletInvoked))
    cases s.chain.tracking with
    | false => exact ready s
    | true =>
      have recorded : Nears s { s with lastServiced := some (s.request.serial, s.response.serial) } :=
        .same rfl rfl rfl rfl
      exact recorded.trans (ready _)

theorem prepareServlet_callless : Traversal.prepareServlet.Callless := by
  intro s
  rcases prepareServlet_cases s with ⟨-, ran⟩ | ⟨_, _, -, -, ran⟩ <;> rw [ran] <;> rintro ⟨⟩

theorem prepareServlet_stage {s t : Container} {i : Invocation}
    (ran : Traversal.prepareServlet s = (.ok (.ok i), t)) : i.stage = .servlet := by
  rcases prepareServlet_cases s with ⟨-, ready⟩ | ⟨_, _, -, -, ready⟩
  · cases ready.symm.trans ran
  · obtain rfl := value_eq (ready.symm.trans ran)
    rfl

/-- A step comes to an end if the calls of a filter do, with fewer filters ahead, and those of a
servlet, which has no chain. -/
theorem step_terminates {calls : Nat → Calls}
    (filter : ∀ j < k, ∀ call, Terminates d j fun n => calls n call)
    (servlet : ∀ call ≠ .proceed, Terminates d k fun n => calls n call) :
    Terminates d k fun n => Traversal.step (calls n) := by
  intro s within
  simp only [step_eq]
  cases next : s.chain.filters[s.chain.position]? with
  | some f =>
    have place := (List.getElem?_eq_some_iff.1 next).1
    have ahead := within.ahead_le
    unfold Chain.ahead at ahead
    have advancing := within.chain f (List.mem_of_getElem? next)
    have advanced : s.advance.Within d (k - 1) :=
      { within with ahead_le := show s.chain.filters.length - (s.chain.position + 1) ≤ _ by omega }
    have prepared : Conclusive d (k - 1) fun _ => Traversal.prepare s := by
      rw [prepare_filter next]
      exact .const advanced (prepareFilter_nears advancing _) (prepareFilter_callless f _)
    refine Conclusive.bind (x := fun _ => Traversal.prepare) prepared fun {_ out t} ran here => ?_
    refine Conclusive.mono (k := k - 1) ?_ (Nat.sub_le k 1)
    cases out with
    | error failure => exact .pure here _
    | ok i =>
      rw [prepare_filter next] at ran
      have own := prepareFilter_advancing advancing advanced.toAdvancing ran
      exact call_terminates (fun call _ => filter (k - 1) (by omega) call) (fun _ => own) t here
  | none =>
    have noted := (Nears.note s (.advanced s.nesting none)).within within
    have prepared : Conclusive d k fun _ => Traversal.prepare s := by
      rw [prepare_servlet next]
      exact .const noted (prepareServlet_nears _) (prepareServlet_callless _)
    refine Conclusive.bind (x := fun _ => Traversal.prepare) prepared fun {_ out t} ran here => ?_
    cases out with
    | error failure => exact .pure here _
    | ok i =>
      rw [prepare_servlet next] at ran
      have chainless : i.stage.hasChain = false := by rw [prepareServlet_stage ran, Stage.hasChain]
      refine call_terminates (fun call only => servlet call ?_) (fun has => ?_) t here
      · rintro rfl
        cases chainless.symm.trans (only rfl)
      · cases chainless.symm.trans has

theorem doFilter_terminates {calls : Nat → Calls}
    (filter : ∀ j < k, ∀ call, Terminates d j fun n => calls n call)
    (servlet : ∀ call ≠ .proceed, Terminates d k fun n => calls n call) :
    Terminates d k fun n => Traversal.doFilter (calls n) := by
  have step := step_terminates filter servlet
  intro s within
  unfold Traversal.doFilter
  simp only [Run.get_bind_apply]
  cases s.chain.executor with
  | none => exact step s within
  | some executor =>
    exact Terminates.bind (privileged_terminates .doFilter step) (fun result => .pure _) s within

end Traversing

/-! ### Visits -/

section Visiting

variable {d : Nat} {calls : Nat → Calls}
  (goesOn : ∀ k, Terminates d k fun n => Traversal.doFilter (calls n)) {k : Nat}

/-- A visit starts with some number of filters ahead. -/
theorem enter_within {s : Container} (within : s.Within d k) {r : Registry}
    (advancing : r.Advancing) (p : Nat) (w : Wrapper) (base : Chain) :
    ∃ t j, Pipeline.enter p r w { s with chain := base, nesting := s.nesting + 1 } = (.ok (), t) ∧
      t.Within d j := by
  obtain ⟨_, _, entered⟩ := enter_frame p r w { s with chain := base, nesting := s.nesting + 1 }
  refine ⟨_, (base.populated r w s.request.dispatch).ahead, entered,
    ⟨within.pipelines, within.instances, fun f member => ?_⟩, within.depth_eq,
    Nat.le_refl _⟩
  exact advancing f ((populated_members r w s.request.dispatch base).1 f member)

theorem leave_within {s t : Container} {j : Nat} (outer : s.Within d k) (inner : t.Within d j) :
    (s.leave t).Within d k :=
  ⟨⟨inner.pipelines, inner.instances, outer.chain⟩, inner.depth_eq, outer.ahead_le⟩

include goesOn

theorem runChain_terminates {r : Registry} (advancing : r.Advancing) (p : Nat) (w : Wrapper)
    (pooled : Bool) : Terminates d k fun n => Pipeline.runChain (calls n) p r w pooled := by
  intro s within
  cases found : s.pipelines.find? p with
  | none =>
    simp only [runChain_none _ r w pooled found]
    exact .pure within _
  | some x =>
    simp only [runChain_some _ r w pooled found]
    have taken : Terminates d k fun _ => Pipeline.take p x w.name pooled :=
      .const (take_callless p x w.name pooled) (take_nears p x w.name pooled)
    refine Conclusive.bind (taken s within) fun {_ base t} _ within => ?_
    refine Conclusive.bind (d := d) (k := k) ?_ fun {_ out u} _ within => ?_
    · obtain ⟨u, j, entered, inside⟩ := enter_within within advancing p w base
      simp only [inChain_apply, Run.bind_of_ok entered]
      exact (goesOn j u inside).map (fun v result => (result, v.chain))
        (fun h => ⟨h.pipelines, h.instances, within.chain⟩) (leave_within within)
    · generalize (pooled && x.executor.isNone) = idle
      cases idle with
      | false => exact .pure within _
      | true =>
        have givenBack : Terminates d k fun _ => Pipeline.giveBack p w.name out.2 :=
          .change fun s => .updatePipeline s p fun _ h => ⟨h.components, h.registry⟩
        exact Terminates.bind givenBack (fun _ => .pure _) u within

theorem dispatchTo_terminates {r : Registry} (advancing : r.Advancing) (p : Nat) (w : Wrapper)
    (state : DispatchState) (pooled : Bool) :
    Terminates d k fun n => Pipeline.dispatchTo (calls n) p r w state pooled := by
  have set : ∀ state : DispatchState,
      Terminates d k fun _ =>
        (modify (·.updateRequest fun r => { r with dispatch := state }) : Run PUnit) :=
    fun state => .change fun s => .same rfl rfl rfl rfl
  intro s within
  unfold Pipeline.dispatchTo
  simp only [Run.get_bind_apply]
  exact Terminates.bind (set state) (fun _ => .bind (runChain_terminates goesOn advancing p w pooled)
    fun result => .bind (set _) fun _ => .pure _) s within

theorem divert_terminates {r : Registry} (advancing : r.Advancing) (p : Nat) (dispatcher : Dispatcher)
    (target : Target) : Terminates d k fun n => Pipeline.divert (calls n) p r dispatcher target := by
  unfold Pipeline.divert
  split
  · exact .pure _
  · exact dispatchTo_terminates goesOn advancing p _ _ false

theorem dispatchNested_terminates (p : Nat) (dispatcher : Dispatcher) (target : Target) :
    Terminates d k fun n => Pipeline.dispatchNested (calls n) p dispatcher target := by
  intro s within
  cases found : s.pipelines.find? p with
  | none =>
    simp only [dispatchNested_none _ dispatcher target found]
    exact .pure within _
  | some x =>
    simp only [dispatchNested_some _ dispatcher target found]
    have held := (x.registry.hold_nears s).within within
    exact (divert_terminates goesOn (within.pipelines found).registry p dispatcher target _ held).nears
      x.registry.letGo_nears

omit goesOn in
theorem resume_terminates {again : Nat → Run Result} (h : Terminates d k again) (times : Nat) :
    Terminates d k fun n => Pipeline.resume (again n) times := by
  have taken : Terminates d k fun _ => Pipeline.takeAsync :=
    .const (fun _ => by rintro ⟨⟩) fun s => .same rfl rfl rfl rfl
  induction times with
  | zero =>
    refine .bind taken fun suspended => ?_
    cases suspended <;> exact .pure _
  | succ times ih =>
    refine .bind taken fun suspended => ?_
    cases suspended with
    | false => exact .pure _
    | true =>
      refine .bind h fun result => ?_
      cases result with
      | error failure => exact .pure _
      | ok done => exact ih

theorem serviceOn_terminates {r : Registry} (advancing : r.Advancing) (p : Nat) (path : String) :
    Terminates d k fun n => Pipeline.serviceOn (calls n) p r path := by
  unfold Pipeline.serviceOn
  cases r.mapServlet path with
  | none => exact .pure _
  | some w =>
    have visit := fun state => dispatchTo_terminates goesOn (k := k) advancing p w state true
    have traverse : Terminates d k fun n => Pipeline.traverse (calls n) p r w path := by
      refine .bind (visit _) fun result => ?_
      cases result with
      | error failure => exact .pure _
      | ok done => exact resume_terminates (visit _) _
    refine .bind traverse fun result => ?_
    cases result with
    | ok done => exact .pure _
    | error failure =>
      exact .const (fun _ => by rintro ⟨⟩) fun s => (Nears.note s _).trans (.note _ _)

theorem serviceWith_terminates (p : Nat) :
    Terminates d k fun n => Pipeline.serviceWith (calls n) p := by
  intro s within
  have attaching : Nears s (s.attach p) := .same rfl rfl rfl rfl
  have attached := attaching.within within
  cases found : s.pipelines.find? p with
  | none =>
    simp only [serviceWith_none _ found]
    exact .pure attached _
  | some x =>
    simp only [serviceWith_some _ found]
    have held := (x.registry.hold_nears _).within attached
    exact (serviceOn_terminates goesOn (within.pipelines found).registry p s.request.path _ held).nears
      x.registry.letGo_nears

end Visiting

/-! ### Calls -/

/-- A dispatch comes to an end if those do that it has inside, which are fewer. -/
theorem dispatch_terminates {d k : Nat} {calls : Nat → Calls}
    (nested : d < maxDispatchDepth → ∀ j, Terminates (d + 1) j fun n => Traversal.doFilter (calls n))
    (p : Nat) (dispatcher : Dispatcher) (target : Target) :
    Terminates d k fun n => Pipeline.dispatch (calls n) p dispatcher target := by
  intro s within
  have deepened : s.deepen.Within (d + 1) k :=
    ⟨⟨within.pipelines, within.instances, within.chain⟩,
      congrArg (· + 1) within.depth_eq, within.ahead_le⟩
  unfold Pipeline.dispatch
  simp only [Run.modify_bind_apply, Run.get_bind_apply]
  rw [show s.updateRequest (fun r => { r with depth := r.depth + 1 }) = s.deepen from rfl,
    deepened.depth_eq]
  split
  · exact .const within (.same rfl rfl rfl rfl) (by rintro ⟨⟩)
  · have inside := dispatchNested_terminates (nested (by omega)) p dispatcher target _ deepened
    refine .bind inside fun {_ result t} _ after => ?_
    have back : (t.updateRequest fun r => { r with depth := r.depth - 1 }).Within d k :=
      ⟨⟨after.pipelines, after.instances, after.chain⟩,
        congrArg (· - 1) after.depth_eq, after.ahead_le⟩
    exact .pure back result

theorem callsAmid_terminates {d k : Nat} (outside : Outside) {call : Call}
    (answered : Terminates d k fun n => Call.answer (callsAmid outside n) call) :
    Terminates d k fun n => callsAmid outside n call := by
  have others : Terminates d k fun _ => meanwhile outside :=
    .const (fun _ => by rintro ⟨⟩) (meanwhile_nears outside)
  intro s within
  exact .deeper within rfl (Terminates.bind others (fun _ => .bind answered fun result =>
    .bind others fun _ => .pure result) s within)

theorem reload_terminates {d k : Nat} {calls : Nat → Calls} (p : Nat) (config : Config) :
    Terminates d k fun n => Call.answer (calls n) (.reload p config) :=
  .bind (.const (Pipeline.reload_callless p config) (reload_nears p config)) fun _ => .pure _

/-- A call to go on comes to an end: by the dispatches that may still be nested in it, and for as many
of them by the filters that are ahead. -/
theorem goesOn_terminates (outside : Outside) (d k : Nat) :
    Terminates d k fun n => Traversal.doFilter (callsAmid outside n) := by
  have others : ∀ j, ∀ call ≠ .proceed, Terminates d j fun n => callsAmid outside n call := by
    intro j call other
    refine callsAmid_terminates outside ?_
    cases call with
    | proceed => exact absurd rfl other
    | dispatch p dispatcher target =>
      -- Inside there is one dispatch more, with any number of filters ahead.
      exact dispatch_terminates (fun shallow i => goesOn_terminates outside (d + 1) i) p dispatcher
        target
    | reload p config => exact reload_terminates p config
  refine doFilter_terminates (fun j less call => ?_) (others k)
  by_cases onward : call = .proceed
  · -- Inside there are as many dispatches, and a filter less ahead.
    subst onward
    exact callsAmid_terminates outside (goesOn_terminates outside d j)
  · exact others j call onward
termination_by (maxDispatchDepth - d, k)

theorem Container.Advancing.within {s : Container} (h : s.Advancing) :
    s.Within s.request.depth s.chain.ahead := ⟨h, rfl, Nat.le_refl _⟩

theorem service_conclusive (outside : Outside) (p : Nat) {s : Container} (h : s.Advancing) :
    Conclusive s.request.depth s.chain.ahead
      fun n => Pipeline.serviceWith (callsAmid outside n) p s :=
  serviceWith_terminates (goesOn_terminates outside s.request.depth) p s h.within

/-! ### Hosts -/

theorem create_advancing {r : Registry} (registry : r.Advancing) {components : ComponentFactory}
    (h : components.Advancing) (options : PipelineOptions) {s : Container} (before : s.Advancing) :
    (Pipeline.create r components options s).2.Advancing := by
  refine ⟨fun {p x} found => ?_, before.instances, before.chain⟩
  change (s.pipelines.insert s.nextSerial _).find? p = some x at found
  rw [Dict.find?_insert] at found
  split at found
  · obtain rfl := Option.some.inj found
    exact ⟨h, registry⟩
  · exact before.pipelines found

theorem close_advancing (p : Nat) {s : Container} (before : s.Advancing) :
    (Pipeline.close p s).2.Advancing := by
  unfold Pipeline.close
  rw [Run.modify_apply]
  cases s.pipelines.find? p with
  | none => exact before
  | some x =>
    refine (x.registry.letGo_nears _).advancing ⟨fun {k y} found => ?_, before.instances, before.chain⟩
    change (s.pipelines.erase p).find? k = some y at found
    rw [Dict.find?_erase] at found
    split at found
    · cases found
    · exact before.pipelines found

theorem openWith_advancing (config : Config) {components : ComponentFactory}
    (h : components.Advancing) (executor : Option Executor) {s : Container} (before : s.Advancing) :
    (Host.openWith config components executor s).2.Advancing := by
  obtain ⟨n, counts, new, ended | ⟨r, t, options, -, built, created⟩⟩ :=
    openWith_cases config components executor s
  · rw [ended]
    exact (s.grown_nears n counts new).advancing before
  · rw [created]
    exact create_advancing ((Registry.build_contents built).advancing h) h options
      ((s.grown_nears n counts new).advancing before)

/-- A host whose filters are advancing, also those that it keeps. -/
structure Host.Advancing (h : Host) : Prop where
  box : h.box.Advancing
  kept : ∀ r ∈ h.kept, r.Advancing

/-- What is opened has components of advancing classes. -/
def Host.Act.Advancing : Host.Act → Prop
  | .openPipeline _ components _ => components.Advancing
  | _ => True

theorem Host.Advancing.act {h : Host} (before : h.Advancing) {a : Host.Act} (allowed : a.Advancing) :
    (h.act a).Advancing := by
  cases a with
  | openPipeline config components executor =>
    exact ⟨openWith_advancing config allowed executor before.box, before.kept⟩
  | close p => exact ⟨close_advancing p before.box, before.kept⟩
  | request spec =>
    exact ⟨⟨before.box.pipelines, before.box.instances, before.box.chain⟩,
      before.kept⟩
  | response =>
    exact ⟨⟨before.box.pipelines, before.box.instances, before.box.chain⟩,
      before.kept⟩
  | service levels outside p =>
    exact ⟨(service_conclusive outside p before.box).advancing levels, before.kept⟩
  | dispatch levels outside p dispatcher target =>
    have ends := dispatch_terminates (fun _ j => goesOn_terminates outside _ j) p dispatcher target
      h.box before.box.within
    exact ⟨ends.advancing levels, before.kept⟩
  | reload p config => exact ⟨(reload_nears p config h.box).advancing before.box, before.kept⟩
  | keep p =>
    unfold Host.act
    dsimp only
    cases found : h.box.pipelines.find? p with
    | none => exact before
    | some x =>
      refine ⟨(x.registry.hold_nears h.box).advancing before.box, fun r member => ?_⟩
      rcases List.mem_cons.1 member with rfl | member
      · exact (before.box.pipelines found).registry
      · exact before.kept r member
  | letGo place =>
    unfold Host.act
    dsimp only
    cases found : h.kept[place]? with
    | none => exact before
    | some r =>
      exact ⟨(r.letGo_nears h.box).advancing before.box, fun r member =>
        before.kept r (List.mem_of_mem_eraseIdx member)⟩
  | obtain place filter =>
    unfold Host.act
    dsimp only
    cases found : h.kept[place]?.bind fun r => r.filters.find? filter with
    | none => exact before
    | some f =>
      obtain ⟨r, kept, declared⟩ := Option.bind_eq_some_iff.1 found
      have advancing := before.kept r (List.mem_of_getElem? kept) f (Dict.mem_values_of_find? declared)
      exact ⟨(f.obtain_nears advancing h.box).advancing before.box, before.kept⟩

theorem Host.run_advancing {acts : List Host.Act} (allowed : ∀ a ∈ acts, a.Advancing) :
    (Host.run acts).Advancing := by
  have from_ : ∀ (acts : List Host.Act) {h : Host}, h.Advancing → (∀ a ∈ acts, a.Advancing) →
      (acts.foldl Host.act h).Advancing := by
    intro acts
    induction acts with
    | nil => exact fun before _ => before
    | cons a rest ih =>
      exact fun before allowed => ih (before.act (allowed a (List.mem_cons_self ..)))
        fun b member => allowed b (List.mem_cons_of_mem _ member)
  have empty : ({} : Host).Advancing :=
    ⟨⟨by rintro p x ⟨⟩, by rintro k c ⟨⟩, by rintro f ⟨⟩⟩, by rintro r ⟨⟩⟩
  exact from_ acts empty allowed

/-- However requests are forwarded, included or suspended, and whoever reloads the pipelines in the
meantime: with advancing filters, servicing a request returns or breaks off after calls that are nested
only so deeply, so that allowing more levels of calls changes nothing. Advancing filters are all that a
host has that opens its pipelines with classes of such, as the built-in ones are and the scripted ones
whose scripts nowhere put the chain back. -/
theorem service_terminates :
    (∀ (outside : Outside) (p : Nat) (s : Container), s.Advancing →
      ∃ n out, ((∃ result, out.1 = .ok result) ∨ ∃ message, out.1 = .error (.panic message)) ∧
        ∀ levels ≥ n, Pipeline.serviceWith (callsAmid outside levels) p s = out) ∧
    (∀ acts : List Host.Act, (∀ a ∈ acts, a.Advancing) → (Host.run acts).box.Advancing) ∧
    ∀ (scripts : Script.Library) (classes : List String), scripts.Advancing →
      (ComponentFactory.builtin.withScripts scripts classes).Advancing := by
  refine ⟨fun outside p s advancing => ?_, fun acts allowed => (Host.run_advancing allowed).box,
    fun scripts classes advancing => withScripts_advancing advancing classes⟩
  obtain ⟨n, ends, same⟩ := (service_conclusive outside p advancing).enough
  refine ⟨n, _, ?_, same⟩
  generalize (Pipeline.serviceWith (callsAmid outside n) p s).1 = out at ends
  rcases out with (message | -) | result
  · exact .inr ⟨message, rfl⟩
  · exact absurd rfl ends
  · exact .inl ⟨result, rfl⟩

/-- A filter goes on twice, or suspends the request if it cannot, includes the path once more and then
empties its chain. -/
def tangledScripts : Script.Library :=
  ⟨[("again",
    [.attempt [.proceed, .proceed] [.startAsync], .dispatch .inclusion (.path "/"), .release])]⟩

/-- That filter for all requests, in front of a servlet that forwards every request to itself. -/
def tangledConfig : Config where
  filters :=
    [{ name := "again", className := "scripted", asyncSupported := some true
       initParams := ⟨[("script", "again")]⟩ }]
  filterMappings :=
    [{ filterName := "again", urlPatterns := ["*"]
       dispatchers := ["request", "forward", "include", "async"] }]
  servlets :=
    [{ name := "loop", className := "forwarding", urlPatterns := ["/"], asyncSupported := true
       initParams := ⟨[("target", "/")]⟩ }]

/-- Servicing a request ends there too, also while others reload the pipeline all the time. -/
theorem service_terminates_tangled :
    let acts : List Host.Act :=
      [.openPipeline tangledConfig
          (ComponentFactory.builtin.withScripts tangledScripts ["scripted"]) none,
        .request {}]
    tangledScripts.Advancing ∧ (∀ a ∈ acts, a.Advancing) ∧ (Host.run acts).box.Advancing ∧
      ((Host.run acts).box.pipelines.find? 4).isSome ∧
      ∃ n out, ((∃ result, out.1 = .ok result) ∨ ∃ message, out.1 = .error (.panic message)) ∧
        ∀ levels ≥ n, Pipeline.serviceWith (callsAmid (fun _ => [(4, tangledConfig)]) levels) 4
          (Host.run acts).box = out := by
  obtain ⟨ends, opened, scripted⟩ := service_terminates
  have scripts : tangledScripts.Advancing := by
    intro name steps found
    obtain ⟨-, rfl⟩ := Prod.mk.inj (List.mem_singleton.1 (Dict.mem_entries_of_find? found))
    rfl
  intro acts
  have allowed : ∀ a ∈ acts, a.Advancing := by
    intro a member
    rcases List.mem_cons.1 member with rfl | member
    · exact scripted tangledScripts ["scripted"] scripts
    · obtain rfl := List.mem_singleton.1 member
      trivial
  exact ⟨scripts, allowed, opened acts allowed, by rfl, ends _ 4 _ (opened acts allowed)⟩

end ServletFilters
