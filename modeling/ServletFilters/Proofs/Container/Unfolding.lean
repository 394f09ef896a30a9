import ServletFilters.Proofs.Container.Chronicle
import ServletFilters.Proofs.Container.Counting
import ServletFilters.Proofs.Container.Tending

/-!
Every run unfolds along its chronicle: what the incidents do to the exchange is all that happens to
it, `callsAmid_unfolds` and `serviceWith_unfolds`.
-/

namespace ServletFilters

/-- What the chronicle accounts for of a request. -/
structure Watched where
  asyncSupported : Bool
  asyncStarted : Bool
  nonAsyncComponents : List String

def Container.watched (s : Container) : Watched where
  asyncSupported := s.request.asyncSupported
  asyncStarted := s.request.asyncStarted
  nonAsyncComponents := s.request.nonAsyncComponents

/-- What is left of a chain that was moved on, put back or emptied. -/
structure Chain.Left (c d : Chain) : Prop where
  filters : ∀ f ∈ d.filters, f ∈ c.filters
  servlet : ∀ x, d.servlet = some x → c.servlet = some x ∧ d.servletAsync = c.servletAsync

theorem Chain.Left.refl (c : Chain) : c.Left c := ⟨fun _ => id, fun _ h => ⟨h, rfl⟩⟩

theorem Chain.Left.trans {c d e : Chain} (h₁ : c.Left d) (h₂ : d.Left e) : c.Left e := by
  refine ⟨fun f h => h₁.filters f (h₂.filters f h), fun x h => ?_⟩
  obtain ⟨servlet, async⟩ := h₂.servlet x h
  obtain ⟨servlet', async'⟩ := h₁.servlet x servlet
  exact ⟨servlet', async.trans async'⟩

/-- A change of nothing that the chronicle accounts for, in the same traversal. -/
structure Unmoved (s t : Container) : Prop where
  watched : t.watched = s.watched
  lastServiced : t.lastServiced = s.lastServiced
  counted : t.counted = s.counted
  nesting : t.nesting = s.nesting
  chain : s.chain.Left t.chain

namespace Unmoved

variable {s t u : Container}

theorem refl (s : Container) : Unmoved s s := ⟨rfl, rfl, rfl, rfl, .refl _⟩

theorem trans (h₁ : Unmoved s t) (h₂ : Unmoved t u) : Unmoved s u :=
  ⟨h₂.watched.trans h₁.watched, h₂.lastServiced.trans h₁.lastServiced, h₂.counted.trans h₁.counted,
    h₂.nesting.trans h₁.nesting, h₁.chain.trans h₂.chain⟩

/-- Most changes leave the whole request and the chain as they are. -/
theorem of_frame (request : t.request = s.request) (lastServiced : t.lastServiced = s.lastServiced)
    (nesting : t.nesting = s.nesting) (chain : t.chain = s.chain) (counted : t.counted = s.counted) :
    Unmoved s t := by
  refine ⟨?_, lastServiced, counted, nesting, chain ▸ .refl _⟩
  simp only [Container.watched, request]

theorem note (s : Container) {e : Event} (h : e.counted? = none) : Unmoved s (s.note e) :=
  of_frame rfl rfl rfl rfl (s.counted_note h)

theorem advance (s : Container) : Unmoved s s.advance :=
  ⟨rfl, rfl, rfl, rfl, ⟨fun _ => id, fun _ h => ⟨h, rfl⟩⟩⟩

theorem edit (h : ChainAction.Edit s t) : Unmoved s t := by
  cases h with
  | rewind => exact ⟨rfl, rfl, rfl, rfl, ⟨fun _ => id, fun _ h => ⟨h, rfl⟩⟩⟩
  | empty => exact ⟨rfl, rfl, rfl, rfl, ⟨by rintro f ⟨⟩, by rintro x ⟨⟩⟩⟩

theorem updatePipeline (s : Container) (p : Nat) (f : Pipeline → Pipeline) :
    Unmoved s (s.updatePipeline p f) := by
  have counted := Container.counted_of_marks (s.updatePipeline_marks p f)
  obtain ⟨pipelines, frame⟩ := updatePipeline_frame s p f
  rw [frame] at counted ⊢
  exact of_frame rfl rfl rfl rfl counted

end Unmoved

theorem FilterConfig.obtain_unmoved (f : FilterConfig) (s : Container) : Unmoved s (f.obtain s).2 := by
  have counted := f.obtain_unmarked.uncounted s
  obtain ⟨_, _, _, _, frame⟩ := f.obtain_frame s
  rw [frame] at counted ⊢
  exact .of_frame rfl rfl rfl rfl counted

theorem Registry.letGo_unmoved (r : Registry) (s : Container) : Unmoved s (r.letGo s) := by
  have counted := Container.counted_of_marks (r.letGo_marks s)
  obtain ⟨_, _, _, frame⟩ := letGo_frame r s
  rw [frame] at counted ⊢
  exact .of_frame rfl rfl rfl rfl counted

theorem take_unmoved (p : Nat) (x : Pipeline) (servlet : String) (pooled : Bool) (s : Container) :
    Unmoved s (Pipeline.take p x servlet pooled s).2 := by
  obtain ⟨chain, ran | ⟨pool, hit, ran⟩⟩ := take_apply p x servlet pooled s <;> rw [ran]
  · exact .refl s
  · exact (Unmoved.updatePipeline s p _).trans (.note _ rfl)

/-- A reload changes pipelines and what is alive, and no exchange. -/
theorem reload_unmoved (p : Nat) (config : Config) (s : Container) :
    Unmoved s (Pipeline.reload p config s).2 := by
  have counted := (Pipeline.reload_unmarked p config).uncounted s
  cases found : s.pipelines.find? p with
  | none =>
    rw [reload_of_none found]
    exact .refl s
  | some x =>
    obtain ⟨n, counts, new, -, grown⟩ := build_grown config x.components s
    rcases ran : Registry.build config x.components s with ⟨halt | e | r, u⟩ <;>
      rw [ran] at grown <;> obtain rfl : u = s.grown n counts new := grown
    · rw [reload_of_halt found ran] at counted ⊢
      exact .of_frame rfl rfl rfl rfl counted
    · rw [reload_of_error found ran] at counted ⊢
      exact .of_frame rfl rfl rfl rfl counted
    · obtain ⟨new', warned⟩ := warn_grown s n counts new
        (config.security.privilegedExecution != x.executor.isSome)
      obtain ⟨_, _, _, _, frame, -⟩ := install_frame (s := s.grown n counts new') found r config
      rw [reload_of_ok found ran, warned, frame] at counted ⊢
      exact .of_frame rfl rfl rfl rfl counted

theorem meanwhile_unmoved (outside : Outside) (s : Container) :
    Unmoved s (meanwhile outside s).2 :=
  meanwhile_across .refl .trans reload_unmoved outside s

/-! ### Unfolding -/

/-- The component is one of the chain. -/
def Reached.In (c : Chain) : Reached → Prop
  | .filter f => f ∈ c.filters
  | .servlet x async => c.servlet = some x ∧ c.servletAsync = async

/-- The classes that are written down for a traversal of a chain that ends at a servlet. -/
def Wrapper.nonAsyncComponents (w : Wrapper) (c : Chain) : List String :=
  c.nonAsyncClasses [] ++ if w.asyncSupported then [] else [w.className]

/-- A traversal begins in the second state, one level deeper and with a chain for the servlet. -/
structure Begins (w : Wrapper) (s u : Container) : Prop where
  nesting : u.nesting = s.nesting + 1
  watched : u.watched = { s.watched with nonAsyncComponents := w.nonAsyncComponents u.chain }
  lastServiced : u.lastServiced = s.lastServiced
  counted : u.counted = s.counted
  servlet : u.chain.servlet = some w.servlet
  async : u.chain.servletAsync = w.asyncSupported

theorem Begins.after {w : Wrapper} {s t u : Container} (h : Begins w t u) (before : Unmoved s t) :
    Begins w s u :=
  ⟨h.nesting.trans (congrArg (· + 1) before.nesting), before.watched ▸ h.watched,
    h.lastServiced.trans before.lastServiced, h.counted.trans before.counted, h.servlet, h.async⟩

/-- The first state comes to the last one by these incidents, and by nothing else that counts. -/
inductive Unfolds : Container → Chronicle → Container → Prop where
  | still {s t} : Unmoved s t → Unfolds s [] t
  | acts (s : Container) (who : Component) (action : Action) :
      Unfolds s [(.acts action, s)] (action.perform who s).2
  | reaches {s : Container} {r : Reached} : r.In s.chain → Unfolds s [(.reaches r, s)] (s.meet r)
  | resumes {s : Container} : s.request.asyncStarted = true →
      Unfolds s [(.resumes, s)] (Pipeline.takeAsync s).2
  | visits {w s u t told} : Begins w s u → Unfolds u told t →
      Unfolds s ((.visits w u.chain, s) :: told) (s.leave t)
  | responds {s t told} (response : Response) : Unfolds (s.newResponse response) told t →
      Unfolds s told { t with response := s.response }
  | serves {s t told} (tracked : Bool) : Unfolds (s.openRecord tracked) told t →
      Unfolds s ((.opens tracked, s) :: told ++ [(.closes tracked, t)]) (t.closeRecord tracked)
  | append {s t u told later} : Unfolds s told t → Unfolds t later u → Unfolds s (told ++ later) u

namespace Unfolds

variable {s t u : Container} {told : Chronicle}

theorem refl (s : Container) : Unfolds s [] s := .still (.refl s)

theorem after (h : Unfolds t told u) (before : Unmoved s t) : Unfolds s told u :=
  .append (.still before) h

theorem before (h : Unfolds s told t) (after : Unmoved t u) : Unfolds s told u :=
  List.append_nil told ▸ .append h (.still after)

theorem cons {e : Incident × Container} (first : Unfolds s [e] t) (rest : Unfolds t told u) :
    Unfolds s (e :: told) u := .append first rest

theorem bind {x : Run α} {f : α → Run β} {next : α → Container → Chronicle}
    (first : Unfolds s told (x s).2) (rest : ∀ a t, Unfolds t (next a t) (f a t).2) :
    Unfolds s (told ++ x.thence next s) ((x >>= f) s).2 := by
  rcases ran : x s with ⟨halt | a, t⟩ <;> rw [ran] at first
  · rw [Run.bind_of_error ran, Run.thence_of_error ran, List.append_nil]
    exact first
  · rw [Run.bind_of_ok ran, Run.thence_of_ok ran]
    exact .append first (rest a t)

end Unfolds

/-- What holds of the state in which an incident happens. -/
def Incident.Sound (s : Container) : Incident → Prop
  | .reaches r => r.In s.chain
  | .visits w c => c.servlet = some w.servlet ∧ c.servletAsync = w.asyncSupported
  | .resumes => s.request.asyncStarted = true
  | _ => True

theorem Unfolds.sound {s t : Container} {told : Chronicle} (h : Unfolds s told t) :
    ∀ e ∈ told, e.1.Sound e.2 := by
  induction h with
  | still unmoved => exact List.forall_mem_nil _
  | acts s who action => exact List.forall_mem_singleton.2 trivial
  | reaches here => exact List.forall_mem_singleton.2 here
  | resumes suspended => exact List.forall_mem_singleton.2 suspended
  | visits begins inside ih => exact List.forall_mem_cons.2 ⟨⟨begins.servlet, begins.async⟩, ih⟩
  | responds response inside ih => exact ih
  | serves tracked inside ih =>
    exact List.forall_mem_cons.2 ⟨trivial, List.forall_mem_append.2
      ⟨ih, List.forall_mem_singleton.2 trivial⟩⟩
  | append first rest ih₁ ih₂ => exact List.forall_mem_append.2 ⟨ih₁, ih₂⟩

/-! ### Steps -/

theorem Run.flatMap_thence (x : Run α) (next : α → Container → List β) (f : β → List γ)
    (s : Container) :
    (x.thence next s).flatMap f = x.thence (fun a t => (next a t).flatMap f) s := by
  unfold Run.thence
  rcases x s with ⟨_ | _, _⟩ <;> rfl

theorem carryOut_unfolds {operation : Operation} {principal : Option String} {step : Run Result}
    {told : Container → Chronicle} (each : ∀ s, Unfolds s (told s) (step s).2) (plan : Plan) : ∀ s,
    Unfolds s ((plan.runs operation principal step s).flatMap told)
      (plan.carryOut operation principal step s).2 := by
  induction plan with
  | finish result => exact .refl
  | panic message => exact .refl
  | report next ih => exact fun s => (ih _).after (.note s rfl)
  | run next ih =>
    intro s
    unfold Plan.carryOut Plan.runs
    rw [List.flatMap_cons, Run.flatMap_thence]
    exact (each s).bind ih

theorem privileged_unfolds {operation : Operation} {step : Run Result} {told : Container → Chronicle}
    (each : ∀ s, Unfolds s (told s) (step s).2) (s : Container) :
    Unfolds s ((Traversal.actions operation step s).flatMap told)
      (Traversal.privileged operation step s).2 := by
  unfold Traversal.privileged Traversal.actions
  rw [Run.get_bind_apply]
  cases s.chain.executor with
  | none => simpa using each s
  | some executor => exact carryOut_unfolds each _ s

section Calling

variable {calls : Calls} {told : Call → Container → Chronicle}
  (faithful : ∀ call s, Unfolds s (told call s) (calls call s).2)
include faithful

theorem program_unfolds (who : Component) (hasChain : Bool) (program : Program) : ∀ s,
    Unfolds s (program.chronicle calls told who hasChain s) (program.run calls who hasChain s).2 := by
  induction program with
  | finish result => exact .refl
  | panic message => exact .refl
  | act action next ih => exact fun s => (Unfolds.acts s who action).bind ih
  | chain action next ih =>
    intro s
    cases hasChain with
    | false => exact .refl s
    | true =>
      cases action with
      | proceed => exact (faithful .proceed s).bind ih
      | reuse => exact Unfolds.bind (.still (.edit (.rewind s))) ih
      | release => exact Unfolds.bind (.still (.edit (.empty s))) ih
      | observe | gauge => exact Unfolds.bind (.still (.note s rfl)) ih
  | dispatch dispatcher target next ih =>
    intro s
    unfold Program.run Program.chronicle
    rw [Run.get_bind_apply]
    cases s.attachedPipeline? with
    | none => exact ih _ s
    | some p => exact (faithful _ s).bind ih
  | withResponse response body next inside ih =>
    exact fun s => (Unfolds.responds response (inside (s.newResponse response))).bind
      fun answer => ih answer.1 answer.2
  | reload config next ih =>
    intro s
    unfold Program.run Program.chronicle
    rw [Run.get_bind_apply]
    cases s.attachedPipeline? with
    | none => exact ih _ s
    | some p => exact (faithful _ s).bind ih

theorem invocation_unfolds (i : Invocation) (s : Container) :
    Unfolds s (i.chronicle calls told s)
      (Traversal.privileged i.stage.operation (i.run calls) s).2 := by
  refine privileged_unfolds (fun t => ?_) s
  exact (program_unfolds faithful i.component i.stage.hasChain i.component.program _).after
    (.note t rfl)

theorem filter_unfolds {f : FilterConfig} {s : Container} (member : f ∈ s.chain.filters) :
    Unfolds s (f.obtain.thence (Traversal.filterChronicle calls told f) s)
      ((Traversal.prepareFilter f >>= Traversal.call calls) s).2 := by
  have obtained := f.obtain_unmoved s
  have chain := f.obtain_chain s
  rcases given : f.obtain s with ⟨halt | failure | c, t⟩ <;> rw [given] at obtained chain
  · have refused : Traversal.prepareFilter f s = (.error halt, t) := Run.bind_of_error given
    rw [Run.thence_of_error given, Run.bind_of_error refused]
    exact .still obtained
  · have refused : Traversal.prepareFilter f s = (.ok (.error (failure.classify .filter)), t) :=
      Run.bind_of_ok given
    rw [Run.thence_of_ok given, Run.bind_of_ok refused]
    exact .still obtained
  · let i : Invocation := { stage := .filter, component := c }
    have ready : Traversal.prepareFilter f s = (.ok (.ok i), t.meet (.filter f)) :=
      Run.bind_of_ok given
    rw [Run.thence_of_ok given, Run.bind_of_ok ready, call_apply]
    have reached : Reached.In t.chain (.filter f) := chain ▸ member
    exact ((Unfolds.reaches reached).cons (invocation_unfolds faithful i _)).after obtained

theorem servlet_unfolds (s : Container) :
    Unfolds s (Traversal.servletChronicle calls told s)
      ((Traversal.prepareServlet >>= Traversal.call calls) s).2 := by
  unfold Traversal.servletChronicle
  cases found : s.chain.servlet with
  | none =>
    have refused : Traversal.prepareServlet s =
        (.ok (.error (.runtime "filter chain has no servlet configured")), s) := by
      unfold Traversal.prepareServlet
      rw [Run.get_bind_apply, found]
      rfl
    rw [Run.bind_of_ok refused]
    exact .refl s
  | some c =>
    let i : Invocation := { stage := .servlet, component := c, recorded := s.chain.tracking }
    let r : Reached := .servlet c s.chain.servletAsync
    have ready : Traversal.prepareServlet s =
        (.ok (.ok i), (s.openRecord s.chain.tracking).meet r) := by
      unfold Traversal.prepareServlet Container.openRecord
      rw [Run.get_bind_apply, found]
      dsimp only [i]
      cases s.chain.tracking <;> rfl
    have reached : r.In (s.openRecord s.chain.tracking).chain := by
      unfold Container.openRecord
      split <;> exact ⟨found, rfl⟩
    rw [Run.bind_of_ok ready, call_apply]
    exact .serves _ ((Unfolds.reaches reached).cons (invocation_unfolds faithful i _))

theorem step_unfolds (s : Container) :
    Unfolds s (Traversal.stepChronicle calls told s) (Traversal.step calls s).2 := by
  rw [step_eq, Run.bind_apply]
  unfold Traversal.stepChronicle
  cases next : s.chain.filters[s.chain.position]? with
  | some f =>
    rw [prepare_filter next, ← Run.bind_apply]
    have member : f ∈ s.advance.chain.filters := List.mem_of_getElem? next
    exact (filter_unfolds faithful member).after (.advance s)
  | none =>
    rw [prepare_servlet next, ← Run.bind_apply]
    exact (servlet_unfolds faithful _).after (.note s rfl)

theorem doFilter_unfolds (s : Container) :
    Unfolds s (Traversal.chronicle calls told s) (Traversal.doFilter calls s).2 := by
  have privileged := @privileged_unfolds .doFilter _ _ (step_unfolds faithful) s
  unfold Traversal.doFilter
  rw [Run.get_bind_apply]
  cases executor : s.chain.executor with
  | none => rwa [privileged_direct executor] at privileged
  | some executor =>
    dsimp only
    rwa [Run.bind_pure_snd]

/-! ### Visits -/

omit faithful in
theorem populated_async (r : Registry) (w : Wrapper) (d : DispatchState) (c : Chain) :
    (c.populated r w d).servletAsync = w.asyncSupported := by
  obtain ⟨_, _, frame⟩ := foldl_addFilter_frame _ (c.release.setServlet w.servlet w.asyncSupported)
  exact (congrArg Chain.servletAsync frame :)

omit faithful in
theorem enter_begins (p : Nat) (r : Registry) (w : Wrapper) (chain : Chain) (s : Container) :
    ∃ u, Pipeline.enter p r w { s with chain, nesting := s.nesting + 1 } = (.ok (), u) ∧
      Begins w s u := by
  have entered : Pipeline.enter p r w { s with chain, nesting := s.nesting + 1 } = (.ok (), _) :=
    Run.bind_of_ok (populate_eq r w _)
  have counted := enter_uncounted p r w { s with chain, nesting := s.nesting + 1 }
  rw [entered] at counted
  exact ⟨_, entered, rfl, rfl, rfl, counted, (populated_members r w _ _).2, populated_async r w _ _⟩

theorem dispatchTo_unfolds (p : Nat) (r : Registry) (w : Wrapper) (state : DispatchState)
    (pooled : Bool) (s : Container) :
    Unfolds s (Pipeline.visitChronicle calls told p r w state pooled s)
      (Pipeline.dispatchTo calls p r w state pooled s).2 := by
  let opened := s.updateRequest fun r => { r with dispatch := state }
  unfold Pipeline.dispatchTo Pipeline.visitChronicle Pipeline.starts
  rw [Run.get_bind_apply, Run.modify_bind_apply, show s.updateRequest _ = opened from rfl]
  cases found : s.pipelines.find? p with
  | none =>
    rw [Run.bind_of_ok (runChain_none (s := opened) calls r w pooled found)]
    exact .still ⟨rfl, rfl, rfl, rfl, .refl _⟩
  | some x =>
    have found' : opened.pipelines.find? p = some x := found
    obtain ⟨chain, t, taken, quiet, -, -⟩ := take_cases found' w.name pooled
    obtain ⟨u, entered, begins⟩ := enter_begins p r w chain t
    have unmoved : Unmoved s t := by
      have ready := take_unmoved p x w.name pooled opened
      rw [taken] at ready
      exact Unmoved.trans (t := opened) ⟨rfl, rfl, rfl, rfl, .refl _⟩ ready
    have inside := doFilter_unfolds faithful u
    have visit := Unfolds.visits (begins.after unmoved) inside
    -- taking a chain out of the pool does not change what the traversal comes back to
    have back : ∀ v, s.leave v = t.leave v := by
      intro v
      simp only [Container.leave, quiet.chain, quiet.nesting]
      rfl
    rw [back] at visit
    dsimp only
    rw [Run.thence_of_ok taken, entered, List.flatMap_singleton, Run.bind_apply,
      runChain_some calls r w pooled found', Run.bind_of_ok taken, Run.bind_apply, inChain_apply,
      Run.bind_of_ok entered]
    rcases ran : Traversal.doFilter calls u with ⟨halt | result, v⟩ <;> rw [ran] at visit
    · exact visit
    -- a traversal that returns gives its chain back, unless the chain was made for it
    · refine visit.before ?_
      dsimp only [Except.map]
      generalize (pooled && x.executor.isNone) = idle
      cases idle with
      | false => exact ⟨rfl, rfl, rfl, rfl, .refl _⟩
      | true => exact (Unmoved.updatePipeline (t.leave v) p _).trans ⟨rfl, rfl, rfl, rfl, .refl _⟩

theorem dispatchNested_unfolds (p : Nat) (dispatcher : Dispatcher) (target : Target) (s : Container) :
    Unfolds s (Pipeline.nestedChronicle calls told p dispatcher target s)
      (Pipeline.dispatchNested calls p dispatcher target s).2 := by
  unfold Pipeline.nestedChronicle
  cases found : s.pipelines.find? p with
  | none =>
    rw [dispatchNested_none calls dispatcher target found]
    exact .refl s
  | some x =>
    have held : Unmoved s (x.registry.hold s) := .of_frame rfl rfl rfl rfl rfl
    rw [dispatchNested_some calls dispatcher target found]
    refine Unfolds.before (Unfolds.after ?_ held) (x.registry.letGo_unmoved _)
    unfold Pipeline.divert
    dsimp only
    rcases Pipeline.locate x.registry target with ⟨none | w, path⟩
    · exact .refl _
    · exact dispatchTo_unfolds faithful p x.registry w _ false _

theorem dispatch_unfolds (p : Nat) (dispatcher : Dispatcher) (target : Target) (s : Container) :
    Unfolds s (Pipeline.dispatchChronicle calls told p dispatcher target s)
      (Pipeline.dispatch calls p dispatcher target s).2 := by
  have deeper : Unmoved s s.deepen := ⟨rfl, rfl, rfl, rfl, .refl _⟩
  unfold Pipeline.dispatchChronicle Pipeline.dispatch
  rw [Run.modify_bind_apply, Run.get_bind_apply, show s.updateRequest _ = s.deepen from rfl]
  dsimp only
  split
  · exact .still ⟨rfl, rfl, rfl, rfl, .refl _⟩
  · refine Unfolds.after ?_ deeper
    have nested := dispatchNested_unfolds faithful p dispatcher target s.deepen
    rw [Run.bind_apply]
    rcases ran : Pipeline.dispatchNested calls p dispatcher target s.deepen with ⟨halt | result, t⟩ <;>
      rw [ran] at nested
    · exact nested
    · exact nested.before ⟨rfl, rfl, rfl, rfl, .refl _⟩

theorem answer_unfolds (call : Call) (s : Container) :
    Unfolds s (call.chronicle calls told s) (call.answer calls s).2 := by
  cases call with
  | proceed => exact doFilter_unfolds faithful s
  | dispatch p dispatcher target => exact dispatch_unfolds faithful p dispatcher target s
  | reload p config =>
    change Unfolds s [] ((Pipeline.reload p config >>= fun r => pure _) s).2
    rw [Run.bind_pure_snd]
    exact .still (reload_unmoved p config s)

/-! ### Servicing requests -/

omit faithful in
theorem resume_unfolds {again : Run Result} {tale : Container → Chronicle}
    (once : ∀ s, Unfolds s (tale s) (again s).2) (n : Nat) : ∀ s,
    Unfolds s (Pipeline.resumeChronicle again tale n s) (Pipeline.resume again n s).2 := by
  have idle : ∀ s : Container, s.request.asyncStarted = false →
      Unmoved s (s.updateRequest fun r => { r with asyncStarted := false }) := by
    intro s off
    refine ⟨?_, rfl, rfl, rfl, .refl _⟩
    simp only [Container.watched, Container.updateRequest, off]
  induction n with
  | zero =>
    intro s
    unfold Pipeline.resume Pipeline.resumeChronicle
    rw [Run.bind_of_ok (takeAsync_apply s)]
    cases suspended : s.request.asyncStarted with
    | false => exact .still (idle s suspended)
    | true => exact .resumes suspended
  | succ n ih =>
    intro s
    unfold Pipeline.resume Pipeline.resumeChronicle
    rw [Run.bind_of_ok (takeAsync_apply s)]
    cases suspended : s.request.asyncStarted with
    | false => exact .still (idle s suspended)
    | true =>
      refine (Unfolds.resumes suspended).cons ((once _).bind fun result t => ?_)
      cases result with
      | error failure => exact .refl t
      | ok done => exact ih t

theorem traverse_unfolds (p : Nat) (r : Registry) (w : Wrapper) (path : String) (s : Container) :
    Unfolds s (Pipeline.traverseChronicle calls told p r w path s)
      (Pipeline.traverse calls p r w path s).2 := by
  have visit := fun dispatcher => dispatchTo_unfolds faithful p r w
    { dispatcher, path := some path } true
  refine (visit .request s).bind fun result t => ?_
  cases result with
  | error failure => exact .refl t
  | ok done => exact resume_unfolds (visit .async) _ t

theorem serviceOn_unfolds (p : Nat) (r : Registry) (path : String) (s : Container) :
    Unfolds s (Pipeline.serviceOnChronicle calls told p r path s)
      (Pipeline.serviceOn calls p r path s).2 := by
  unfold Pipeline.serviceOnChronicle Pipeline.serviceOn
  cases r.mapServlet path with
  | none => exact .refl s
  | some w =>
    have traversed := traverse_unfolds faithful p r w path s
    dsimp only
    rw [Run.bind_apply]
    rcases ran : Pipeline.traverse calls p r w path s with ⟨halt | failure | done, t⟩ <;>
      rw [ran] at traversed
    · exact traversed
    · exact traversed.before ((Unmoved.note t rfl).trans (.note _ rfl))
    · exact traversed

theorem serviceWith_unfolds (p : Nat) (s : Container) :
    Unfolds s (Pipeline.serviceChronicle calls told p s) (Pipeline.serviceWith calls p s).2 := by
  unfold Pipeline.serviceChronicle
  cases found : s.pipelines.find? p with
  | none =>
    rw [serviceWith_none calls found]
    exact .still ⟨rfl, rfl, rfl, rfl, .refl _⟩
  | some x =>
    have held : Unmoved s (x.registry.hold (s.attach p)) := ⟨rfl, rfl, rfl, rfl, .refl _⟩
    rw [serviceWith_some calls found]
    exact ((serviceOn_unfolds faithful p x.registry _ _).after held).before
      (x.registry.letGo_unmoved _)

end Calling

/-- The calls of components unfold along their chronicles, by induction on the levels. -/
theorem callsAmid_unfolds (outside : Outside) (levels : Nat) : ∀ call s,
    Unfolds s (chronicleAmid outside levels call s) (callsAmid outside levels call s).2 := by
  induction levels with
  | zero => exact fun _ => .refl
  | succ n ih =>
    intro call s
    have answered := (answer_unfolds ih call _).after (meanwhile_unmoved outside s)
    obtain ⟨t, rfl | rfl, ran⟩ := callsAmid_answer outside n call s <;> rw [ran]
    · exact answered
    · exact answered.before (meanwhile_unmoved outside _)

theorem Errand.unfolds (errand : Errand) (outside : Outside) (levels : Nat) (s : Container) :
    Unfolds s (errand.chronicle outside levels s) (errand.leaves outside levels s) := by
  cases errand with
  | call c => exact answer_unfolds (callsAmid_unfolds outside levels) c s
  | service p => exact serviceWith_unfolds (callsAmid_unfolds outside levels) p s

/-! ### Replaying -/

/-- What an incident makes of what is watched. -/
def Watched.after (x : Watched) : Incident → Watched
  | .acts .startAsync => { x with asyncStarted := x.asyncSupported || x.asyncStarted }
  | .acts .takeAsync => { x with asyncStarted := false }
  | .acts (.setAsyncSupported yes) => { x with asyncSupported := yes }
  | .acts (.setNonAsyncComponents names) => { x with nonAsyncComponents := names }
  | .acts _ => x
  | .reaches r => { x with asyncSupported := x.asyncSupported && !r.declines }
  | .visits w c => { x with nonAsyncComponents := w.nonAsyncComponents c }
  | .opens _ | .closes _ => x
  | .resumes => { x with asyncStarted := false }

theorem perform_watched (who : Component) (action : Action) (s : Container) :
    (action.perform who s).2.watched = s.watched.after (.acts action) := by
  cases action with
  | startAsync =>
    change Container.watched (if s.request.asyncSupported then _ else _ : _ × Container).2 = _
    cases supported : s.request.asyncSupported <;>
      simp [Container.watched, Container.updateRequest, Watched.after, supported]
  | _ => rfl

theorem meet_watched (r : Reached) (s : Container) :
    (s.meet r).watched = s.watched.after (.reaches r) := by
  unfold Container.meet Traversal.downgrade
  rw [Run.modify_apply]
  cases declines : r.declines <;> cases supported : s.request.asyncSupported <;>
    simp [Container.watched, Container.updateRequest, Container.note,
      Watched.after, declines, supported]

namespace Chronicle

/-- What a chronicle makes of what is watched. -/
def replay (x : Watched) (told : Chronicle) : Watched := told.foldl (fun x e => x.after e.1) x

theorem replay_append (x : Watched) (told later : Chronicle) :
    replay x (told ++ later) = replay (replay x told) later := List.foldl_append

/-- The account that a chronicle gives of what is watched. -/
def Tallies (x : Watched) (told : Chronicle) : Prop :=
  Along (fun x e => x.after e.1) (fun x s => s.watched = x) x told

end Chronicle

theorem Unfolds.replays {s t : Container} {told : Chronicle} (h : Unfolds s told t) :
    Chronicle.Tallies s.watched told ∧ t.watched = Chronicle.replay s.watched told := by
  induction h with
  | still unmoved => exact ⟨trivial, unmoved.watched⟩
  | acts s who action => exact ⟨⟨rfl, trivial⟩, perform_watched who action s⟩
  | @reaches s r here => exact ⟨⟨rfl, trivial⟩, meet_watched r s⟩
  | resumes suspended => exact ⟨⟨rfl, trivial⟩, rfl⟩
  | @visits w s u t told begins inside ih =>
    rw [begins.watched] at ih
    exact ⟨⟨rfl, ih.1⟩, ih.2⟩
  | responds response inside ih => exact ih
  | @serves s t told tracked inside ih =>
    have opened : (s.openRecord tracked).watched = s.watched.after (.opens tracked) := by
      cases tracked <;> rfl
    have closed : (t.closeRecord tracked).watched = t.watched.after (.closes tracked) := by
      cases tracked <;> rfl
    rw [opened] at ih
    refine ⟨⟨rfl, (Chronicle.along_append told _ _).2 ⟨ih.1, ih.2, trivial⟩⟩, ?_⟩
    rw [closed, ih.2]
    exact (Chronicle.replay_append _ told [(.closes tracked, t)]).symm
  | append first rest ih₁ ih₂ =>
    rw [ih₁.2] at ih₂
    exact ⟨(Chronicle.along_append _ _ _).2 ⟨ih₁.1, ih₂.1⟩,
      ih₂.2.trans (Chronicle.replay_append _ _ _).symm⟩

/-- What is watched at any point of an errand. -/
theorem Errand.watched_at {errand : Errand} {outside : Outside} {levels : Nat} {s u : Container}
    {before : Chronicle} {m : Incident}
    (here : before ++ [(m, u)] <+: errand.chronicle outside levels s) :
    u.watched = Chronicle.replay s.watched before :=
  (errand.unfolds outside levels s).replays.1.point here

/-! ### Counting -/

theorem perform_unmarked (who : Component) (action : Action) : (action.perform who).Unmarked := by
  intro s
  cases action with
  | startAsync =>
    change Container.marks (if s.request.asyncSupported then _ else _ : _ × Container).2 = _
    split <;> rfl
  | _ => rfl

theorem meet_counted (s : Container) (r : Reached) : (s.meet r).counted = r.measurement :: s.counted := by
  have before : (Traversal.downgrade r.declines s).2.counted = s.counted := by
    unfold Traversal.downgrade
    rw [Run.modify_apply]
    split <;> rfl
  rw [← before]
  cases r <;> rfl

/-- What is counted in a run is what the chronicle has as reached, in the same order. -/
theorem Unfolds.counts {s t : Container} {told : Chronicle} (h : Unfolds s told t) :
    t.counted = (told.reached.map Reached.measurement).reverse ++ s.counted := by
  induction h with
  | still unmoved => exact unmoved.counted
  | acts s who action => exact (perform_unmarked who action).uncounted s
  | @reaches s r here => exact meet_counted s r
  | resumes suspended => rfl
  | visits begins inside ih => exact ih.trans (congrArg (_ ++ ·) begins.counted)
  | responds response inside ih => exact ih
  | @serves s t told tracked inside ih =>
    have opened : (s.openRecord tracked).counted = s.counted := by cases tracked <;> rfl
    have closed : (t.closeRecord tracked).counted = t.counted := by cases tracked <;> rfl
    have reached : Chronicle.reached ((.opens tracked, s) :: told ++ [(.closes tracked, t)]) =
        told.reached := (Chronicle.reached_append told _).trans (List.append_nil _)
    rw [closed, ih, opened, reached]
  | append first rest ih₁ ih₂ =>
    rw [ih₂, ih₁, Chronicle.reached_append, List.map_append, List.reverse_append, List.append_assoc]

end ServletFilters
