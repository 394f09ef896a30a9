import ServletFilters.Proofs.Container.Occasions
import ServletFilters.Proofs.Container.Snapshots
import ServletFilters.Proofs.Container.Tending

/-!
What components can do to a container: changes that are aloof of all pipelines, visits and reloads.
A relation between states that each of these carries on holds across every call,
`Carried.callsAmid`.
-/

namespace ServletFilters

/-- A change that leaves the pipelines as they are, and neither begins a traversal nor is inside
another one. -/
structure Aloof (s t : Container) : Prop where
  nesting : t.nesting = s.nesting
  pipelines : t.pipelines = s.pipelines
  journal : Appends (·.isUncharted = true) s t

namespace Aloof

theorem refl (s : Container) : Aloof s s := ⟨rfl, rfl, .refl s⟩

theorem trans {s t u : Container} (h₁ : Aloof s t) (h₂ : Aloof t u) : Aloof s u :=
  ⟨h₂.nesting.trans h₁.nesting, h₂.pipelines.trans h₁.pipelines, h₁.journal.trans h₂.journal⟩

theorem note (s : Container) {e : Event} (h : e.isUncharted = true) : Aloof s (s.note e) :=
  ⟨rfl, rfl, .note s h⟩

theorem updateRequest (s : Container) (f : Request → Request) : Aloof s (s.updateRequest f) :=
  ⟨rfl, rfl, .refl s⟩

theorem of_calm {s t : Container} (h : Calm s t) (pipelines : t.pipelines = s.pipelines) :
    Aloof s t :=
  ⟨h.nesting, pipelines, h.journal.imp fun _ => Event.isUncharted_of_isCalm⟩

end Aloof

theorem perform_aloof (who : Component) (action : Action) (s : Container) :
    Aloof s (action.perform who s).2 := by
  cases action with
  | startAsync =>
    change Aloof s (if s.request.asyncSupported then _ else _ : _ × Container).2
    split
    · exact ⟨rfl, rfl, .refl s⟩
    · exact .refl s
  | observe value => exact .note s rfl
  | log entry => exact .note s rfl
  | _ => exact ⟨rfl, rfl, .refl s⟩

theorem downgrade_aloof (declined : Bool) (s : Container) :
    Aloof s (Traversal.downgrade declined s).2 := by
  unfold Traversal.downgrade
  rw [Run.modify_apply]
  split
  · exact ⟨rfl, rfl, .refl s⟩
  · exact .refl s

theorem FilterConfig.obtain_aloof (f : FilterConfig) (s : Container) : Aloof s (f.obtain s).2 := by
  have pipelines : (f.obtain s).2.pipelines = s.pipelines := by
    obtain ⟨_, _, _, _, frame⟩ := f.obtain_frame s
    rw [frame]
  rcases f.obtain_calm s with ⟨c, t, calm, given⟩ | ⟨r, t, given, calm, -⟩ <;>
    rw [given] at pipelines ⊢
  · exact (Aloof.of_calm calm pipelines).trans (.note t rfl)
  · exact .of_calm calm pipelines

theorem Registry.hold_aloof (r : Registry) (s : Container) : Aloof s (r.hold s) :=
  ⟨rfl, rfl, .note _ rfl⟩

theorem Registry.letGo_aloof (r : Registry) (s : Container) : Aloof s (r.letGo s) := by
  obtain ⟨_, _, _, frame⟩ := letGo_frame r s
  exact .of_calm (r.letGo_calm s) (by rw [frame])

theorem Registry.build_aloof (config : Config) (components : ComponentFactory) (s : Container) :
    Aloof s (Registry.build config components s).2 := by
  have pipelines : (Registry.build config components s).2.pipelines = s.pipelines := by
    obtain ⟨_, _, _, -, grown⟩ := build_grown config components s
    rw [grown]
    rfl
  rcases Registry.build_cases config components s with
    ⟨quiet, -⟩ | ⟨r, t, middle, quiet, -, -, built⟩
  · exact .of_calm quiet.calm pipelines
  · rw [built] at pipelines ⊢
    exact .of_calm (quiet.calm.trans (.note t rfl)) pipelines

/-! ### Visits -/

theorem enter_aside (p : Nat) (r : Registry) (w : Wrapper) (chain : Chain) (s : Container) :
    ∃ t, Pipeline.enter p r w { s with chain, nesting := s.nesting + 1 } = (.ok (), t) ∧
      Entered p r w chain s t ∧ t.pipelines = s.pipelines := by
  obtain ⟨t, ran, entered⟩ := enter_apply p r w chain s
  obtain ⟨names, journal, frame⟩ := enter_frame p r w { s with chain, nesting := s.nesting + 1 }
  refine ⟨t, ran, entered, ?_⟩
  rw [ran] at frame
  obtain rfl := congrArg Prod.snd frame
  rfl

/-- The parts of a visit: a chain is taken, entered, gone on with and left, and it is given back where
it may have come from the pool and nothing was cut short. -/
theorem dispatchTo_parts (calls : Calls) (p : Nat) (r : Registry) (w : Wrapper)
    (state : DispatchState) (pooled : Bool) (s : Container) :
    (s.pipelines.find? p = none ∧ Aloof s (Pipeline.dispatchTo calls p r w state pooled s).2) ∨
      ∃ x chain t u, s.pipelines.find? p = some x ∧
        Pipeline.take p x w.name pooled (s.updateRequest fun q => { q with dispatch := state }) =
          (.ok chain, t) ∧
        Quiet s t ∧ t.request = { s.request with dispatch := state } ∧
        Entered p r w chain t u ∧ u.pipelines = t.pipelines ∧
        (Aloof (t.leave (Traversal.doFilter calls u).2)
            (Pipeline.dispatchTo calls p r w state pooled s).2 ∨
          (pooled = true ∧ x.executor = none ∧ ∃ left,
            Aloof (Pipeline.giveBack p w.name left (t.leave (Traversal.doFilter calls u).2)).2
              (Pipeline.dispatchTo calls p r w state pooled s).2)) := by
  let opened := s.updateRequest fun q => { q with dispatch := state }
  unfold Pipeline.dispatchTo
  rw [Run.get_bind_apply, Run.modify_bind_apply, show s.updateRequest _ = opened from rfl]
  cases found : s.pipelines.find? p with
  | none =>
    rw [Run.bind_of_ok (runChain_none (s := opened) calls r w pooled found)]
    exact .inl ⟨rfl, rfl, rfl, .refl s⟩
  | some x =>
    have found' : opened.pipelines.find? p = some x := found
    have quiet : Quiet s opened := .exchange s rfl rfl
    obtain ⟨chain, t, taken, step, request, -⟩ := take_cases found' w.name pooled
    obtain ⟨u, enter, entered, same⟩ := enter_aside p r w chain t
    refine .inr ⟨x, chain, t, u, rfl, taken, quiet.trans step, request, entered, same, ?_⟩
    rw [Run.bind_apply, runChain_some calls r w pooled found', Run.bind_of_ok taken, Run.bind_apply,
      inChain_apply, Run.bind_of_ok enter]
    rcases ran : Traversal.doFilter calls u with ⟨halt | result, v⟩
    · exact .inl (.refl _)
    · dsimp only [Except.map]
      cases idle : pooled && x.executor.isNone with
      | false => exact .inl ⟨rfl, rfl, .refl _⟩
      | true =>
        obtain ⟨pooling, unset⟩ := Bool.and_eq_true_iff.1 idle
        exact .inr ⟨pooling, by simpa using unset, v.chain, rfl, rfl, .refl _⟩

/-! ### Relations along a computation -/

def Run.Within (rel : Container → Container → Prop) (x : Run α) : Prop := ∀ s, rel s (x s).2

/-- A relation that adds up along a computation and holds across all that components can do. -/
structure Carried (rel : Container → Container → Prop) : Prop where
  aloof : ∀ {s t}, Aloof s t → rel s t
  trans : ∀ {s t u}, rel s t → rel t u → rel s u
  /-- It holds across a visit in which it holds. -/
  visit : ∀ {p r w base s u v}, Entered p r w base s u → u.pipelines = s.pipelines → rel u v →
    rel s (s.leave v)
  reload : ∀ p config, (Pipeline.reload p config).Within rel

namespace Carried

variable {rel : Container → Container → Prop} (carried : Carried rel)
include carried

theorem refl (s : Container) : rel s s := carried.aloof (.refl s)

theorem within_pure (a : α) : (pure a : Run α).Within rel := carried.refl

theorem within_halt (halt : Halt) : (Run.halt halt : Run α).Within rel := carried.refl

theorem within_aloof {x : Run α} (h : ∀ s, Aloof s (x s).2) : x.Within rel :=
  fun s => carried.aloof (h s)

theorem within_record {e : Event} (h : e.isUncharted = true) : (record e).Within rel :=
  carried.within_aloof fun s => .note s h

theorem bind {x : Run α} {next : α → Run β} {s : Container} (first : rel s (x s).2)
    (rest : ∀ a t, x s = (.ok a, t) → rel t (next a t).2) : rel s ((x >>= next) s).2 := by
  rcases ran : x s with ⟨halt | a, t⟩ <;> rw [ran] at first
  · rw [Run.bind_of_error ran]
    exact first
  · rw [Run.bind_of_ok ran]
    exact carried.trans first (rest a t ran)

theorem within_bind {x : Run α} {next : α → Run β} (first : x.Within rel)
    (rest : ∀ a, (next a).Within rel) : (x >>= next).Within rel :=
  fun s => carried.bind (first s) fun a t _ => rest a t

theorem within_cleanedBy {x : Run α} (h : x.Within rel) {cleanUp : Container → Container}
    (cleaned : ∀ s, Aloof s (cleanUp s)) : (x.cleanedBy cleanUp).Within rel :=
  fun s => carried.trans (h s) (carried.aloof (cleaned _))

theorem within_onResponse {x : Run Result} (response : Response) (h : x.Within rel) :
    (onResponse response x).Within rel := by
  intro s
  have opened : Aloof s (s.newResponse response) := ⟨rfl, rfl, .refl s⟩
  exact carried.trans (carried.aloof opened)
    (carried.trans (h (s.newResponse response)) (carried.aloof ⟨rfl, rfl, .refl _⟩))

theorem whileHeld {x : Run α} (h : x.Within rel) (r : Registry) : (r.whileHeld x).Within rel :=
  carried.within_bind (carried.within_aloof r.hold_aloof) fun _ =>
    carried.within_cleanedBy h r.letGo_aloof

section Calling

variable {calls : Calls} (called : ∀ call, (calls call).Within rel)
include called

theorem perform (who : Component) (action : ChainAction) :
    (action.perform calls who).Within rel := by
  cases action with
  | proceed => exact called .proceed
  | reuse => exact carried.within_aloof fun s => .trans (.note s rfl) ⟨rfl, rfl, .refl _⟩
  | release => exact carried.within_aloof fun s => .trans (.note s rfl) ⟨rfl, rfl, .refl _⟩
  | observe | gauge => exact carried.within_aloof fun s => .note s rfl

/-- By induction on the program: its actions are aloof, and the rest are calls. -/
theorem program (who : Component) (hasChain : Bool) (program : Program) :
    (program.run calls who hasChain).Within rel := by
  induction program with
  | finish result => exact carried.within_pure result
  | panic message => exact carried.within_halt _
  | act action next ih => exact carried.within_bind (carried.within_aloof (perform_aloof who action)) ih
  | chain action next ih =>
    cases hasChain with
    | false => exact carried.within_pure _
    | true => exact carried.within_bind (carried.perform called who action) ih
  | dispatch dispatcher target next ih =>
    intro s
    unfold Program.run
    rw [Run.get_bind_apply]
    cases s.attachedPipeline? with
    | none => exact carried.within_bind (carried.within_pure _) ih s
    | some p => exact carried.within_bind (called _) ih s
  | withResponse response body next inside ih =>
    refine carried.within_bind (carried.within_onResponse response inside) fun answer => ?_
    exact ih answer.1 answer.2
  | reload config next ih =>
    intro s
    unfold Program.run
    rw [Run.get_bind_apply]
    cases s.attachedPipeline? with
    | none => exact carried.within_bind (carried.within_pure _) ih s
    | some p => exact carried.within_bind (called _) ih s

omit called in
theorem privileged (operation : Operation) {step : Run Result} (h : step.Within rel) :
    (Traversal.privileged operation step).Within rel := by
  have plans : ∀ (principal : Option String) (plan : Plan),
      (plan.carryOut operation principal step).Within rel := by
    intro principal plan
    induction plan with
    | finish result => exact carried.within_pure result
    | panic message => exact carried.within_halt _
    | report next ih => exact carried.within_bind (carried.within_record rfl) fun _ => ih
    | run next ih => exact carried.within_bind h ih
  intro s
  unfold Traversal.privileged
  rw [Run.get_bind_apply]
  cases s.chain.executor with
  | none => exact h s
  | some executor => exact plans _ _ s

theorem invokeFilter (f : FilterConfig) : (Traversal.invokeFilter calls f).Within rel := by
  refine carried.within_bind (carried.within_aloof f.obtain_aloof) fun given => ?_
  cases given with
  | error failure => exact carried.within_pure _
  | ok filter =>
    refine carried.within_bind (carried.within_aloof (downgrade_aloof _)) fun _ => ?_
    refine carried.within_bind (carried.within_record rfl) fun _ => carried.privileged _ ?_
    exact carried.within_bind (carried.within_aloof fun s => .note s rfl) fun _ =>
      carried.program called _ _ _

theorem invokeServlet : (Traversal.invokeServlet calls).Within rel := by
  intro s
  unfold Traversal.invokeServlet
  rw [Run.get_bind_apply]
  cases s.chain.servlet with
  | none => exact carried.refl s
  | some servlet =>
    have body : Run.Within rel (do
        Traversal.downgrade !s.chain.servletAsync
        measure .servletInvoked
        Traversal.privileged .service do
          Traversal.recordInvocation .servlet servlet
          servlet.program.run calls servlet false) := by
      refine carried.within_bind (carried.within_aloof (downgrade_aloof _)) fun _ => ?_
      refine carried.within_bind (carried.within_record rfl) fun _ => carried.privileged _ ?_
      exact carried.within_bind (carried.within_aloof fun s => .note s rfl) fun _ =>
        carried.program called _ _ _
    dsimp only
    split
    · refine carried.within_bind (carried.within_aloof fun s => ⟨rfl, rfl, .refl s⟩) (fun _ => ?_) s
      exact carried.within_cleanedBy body fun s => ⟨rfl, rfl, .refl s⟩
    · exact body s

theorem step : (Traversal.step calls).Within rel := by
  intro s
  unfold Traversal.step
  rw [Run.get_bind_apply]
  cases s.chain.filters[s.chain.position]? with
  | some f =>
    refine carried.within_bind (carried.within_record rfl) (fun _ => ?_) s
    refine carried.within_bind (carried.within_aloof fun s => ⟨rfl, rfl, .refl s⟩) fun _ => ?_
    exact carried.within_bind (carried.invokeFilter called f) fun _ => carried.within_pure _
  | none =>
    refine carried.within_bind (carried.within_record rfl) (fun _ => ?_) s
    exact carried.within_bind (carried.invokeServlet called) fun _ => carried.within_pure _

theorem doFilter : (Traversal.doFilter calls).Within rel := by
  intro s
  unfold Traversal.doFilter
  rw [Run.get_bind_apply]
  cases s.chain.executor with
  | none => exact carried.step called s
  | some executor =>
    exact carried.within_bind (carried.privileged .doFilter (carried.step called))
      (fun _ => carried.within_pure _) s

end Calling

theorem meanwhile (outside : Outside) : (meanwhile outside).Within rel :=
  meanwhile_across carried.refl carried.trans carried.reload outside

/-- What holds across the calls of components holds across a visit that takes no chain from the pool. -/
theorem dispatchTo {calls : Calls} (called : ∀ call, (calls call).Within rel) (p : Nat) (r : Registry)
    (w : Wrapper) (state : DispatchState) :
    (Pipeline.dispatchTo calls p r w state false).Within rel := by
  intro s
  rcases dispatchTo_parts calls p r w state false s with
    ⟨-, aloof⟩ | ⟨x, chain, t, u, -, taken, -, -, entered, same, left | ⟨⟨⟩, -⟩⟩
  · exact carried.aloof aloof
  · have opened : Aloof s t := by
      obtain rfl := congrArg Prod.snd taken
      exact ⟨rfl, rfl, .refl s⟩
    have inside := carried.visit entered same (carried.doFilter called u)
    exact carried.trans (carried.trans (carried.aloof opened) inside) (carried.aloof left)

theorem dispatch {calls : Calls} (called : ∀ call, (calls call).Within rel) (p : Nat)
    (dispatcher : Dispatcher) (target : Target) :
    (Pipeline.dispatch calls p dispatcher target).Within rel := by
  have nested : (Pipeline.dispatchNested calls p dispatcher target).Within rel := by
    intro s
    unfold Pipeline.dispatchNested
    rw [Run.get_bind_apply]
    cases s.pipelines.find? p with
    | none => exact carried.refl s
    | some x =>
      refine carried.whileHeld (fun t => ?_) x.registry s
      unfold Pipeline.divert
      rcases Pipeline.locate x.registry target with ⟨none | w, path⟩
      · exact carried.refl t
      · exact carried.dispatchTo called p x.registry w _ t
  have closed : ∀ result : Result, Run.Within rel (do
      modify (·.updateRequest fun r => { r with depth := r.depth - 1 })
      return result) :=
    fun result => carried.within_aloof fun s => ⟨rfl, rfl, .refl s⟩
  intro s
  unfold Pipeline.dispatch
  rw [Run.modify_bind_apply, Run.get_bind_apply, show s.updateRequest _ = s.deepen from rfl]
  refine carried.trans (t := s.deepen) (carried.aloof (.updateRequest s _)) ?_
  dsimp only
  split
  · exact carried.within_bind (carried.within_record rfl) (fun _ => closed _) _
  · exact carried.within_bind nested closed _

/-- By induction on the levels that are left: a call is answered by going on, by a visit or by a
reload, and what others do meanwhile are reloads. -/
theorem callsAmid (outside : Outside) (levels : Nat) :
    ∀ call, (callsAmid outside levels call).Within rel := by
  induction levels with
  | zero => exact fun _ => carried.within_halt _
  | succ n ih =>
    intro call
    have answer : (Call.answer (ServletFilters.callsAmid outside n) call).Within rel := by
      cases call with
      | proceed => exact carried.doFilter ih
      | dispatch p dispatcher target => exact carried.dispatch ih p dispatcher target
      | reload p config => exact carried.within_bind (carried.reload p config) fun _ => carried.within_pure _
    refine carried.within_bind (carried.meanwhile outside) fun _ => ?_
    refine carried.within_bind answer fun result => ?_
    exact carried.within_bind (carried.meanwhile outside) fun _ => carried.within_pure result

section Servicing

variable {calls : Calls} {p : Nat}
  (visited : ∀ r w state, (Pipeline.dispatchTo calls p r w state true).Within rel)

/-- By induction on the suspensions that are left. -/
theorem resume {again : Run Result} (h : again.Within rel) (n : Nat) :
    (Pipeline.resume again n).Within rel := by
  have taken : Pipeline.takeAsync.Within rel := carried.within_aloof fun s => ⟨rfl, rfl, .refl s⟩
  induction n with
  | zero =>
    refine carried.within_bind taken fun suspended => ?_
    cases suspended <;> exact carried.within_pure _
  | succ n ih =>
    refine carried.within_bind taken fun suspended => ?_
    cases suspended with
    | false => exact carried.within_pure _
    | true =>
      refine carried.within_bind h fun result => ?_
      cases result with
      | error failure => exact carried.within_pure _
      | ok done => exact ih

include visited

theorem serviceOn (r : Registry) (path : String) :
    (Pipeline.serviceOn calls p r path).Within rel := by
  unfold Pipeline.serviceOn
  cases r.mapServlet path with
  | none => exact carried.within_pure _
  | some w =>
    have traverse : (Pipeline.traverse calls p r w path).Within rel := by
      refine carried.within_bind (visited r w _) fun result => ?_
      cases result with
      | error failure => exact carried.within_pure _
      | ok done => exact carried.resume (visited r w _) _
    refine carried.within_bind traverse fun result => ?_
    cases result with
    | ok done => exact carried.within_pure _
    | error failure =>
      refine carried.within_bind (carried.within_record rfl) fun _ s => ?_
      exact carried.within_bind (carried.within_record rfl) (fun _ => carried.within_pure _) s

/-- What holds across the visits of a pipeline that may take chains from its pool holds across its
servicing of requests. -/
theorem serviceWith : (Pipeline.serviceWith calls p).Within rel := by
  intro s
  unfold Pipeline.serviceWith
  rw [Run.modify_bind_apply, Run.get_bind_apply, show s.updateRequest _ = s.attach p from rfl]
  refine carried.trans (t := s.attach p) (carried.aloof (.updateRequest s _)) ?_
  cases (s.attach p).pipelines.find? p with
  | none => exact carried.refl _
  | some x => exact carried.whileHeld (carried.serviceOn visited x.registry _) x.registry _

end Servicing

end Carried

end ServletFilters
