import ServletFilters.Proofs.Container.Course
import ServletFilters.Proofs.Container.Starts
import ServletFilters.Proofs.Registry.Building

/-!
Traversals inside traversals. A visit runs a chain of its own one level deeper and leaves the
chain around it as it was; what visits keep is kept by dispatches, by servicing a request and by
the calls of components.
-/

namespace ServletFilters

/-- The state in which a visit to a servlet of a registry starts its chain. -/
def Enters (s : Container) (pipeline : Nat) (registry : Registry) (wrapper : Wrapper)
    (v : Container) : Prop :=
  ∃ chain state, (∀ f ∈ chain.filters, f ∈ registry.filters.values) ∧
    chain.servlet = some wrapper.servlet ∧
    Quiet ({ s with chain, nesting := s.nesting + 1 }.note
      (.traversed (s.nesting + 1) pipeline registry.serial wrapper.name state)) v

theorem Entered.enters {p : Nat} {r : Registry} {w : Wrapper} {base : Chain} {s t : Container}
    (h : Entered p r w base s t) : Enters s p r w t := by
  obtain ⟨filters, servlet⟩ := populated_members r w s.request.dispatch base
  exact ⟨_, s.request.dispatch, filters, servlet, h.quiet⟩

theorem dispatchNested_cases (calls : Calls) (p : Nat) (dispatcher : Dispatcher) (target : Target)
    (s : Container) :
    (Pipeline.dispatchNested calls p dispatcher target s).2 = s ∨
      ∃ r, s.current p = some r ∧ (Pipeline.dispatchNested calls p dispatcher target s).2 =
        r.letGo (Pipeline.divert calls p r dispatcher target (r.hold s)).2 := by
  unfold Pipeline.dispatchNested
  rw [Run.get_bind_apply]
  cases found : s.pipelines.find? p with
  | none => exact .inl rfl
  | some q => exact .inr ⟨q.registry, current_eq found, rfl⟩

theorem serviceWith_cases (calls : Calls) (p : Nat) (s : Container) :
    (s.current p = none ∧ Quiet s (Pipeline.serviceWith calls p s).2) ∨
      ∃ r t path, s.current p = some r ∧ Quiet s t ∧ (Pipeline.serviceWith calls p s).2 =
        r.letGo (Pipeline.serviceOn calls p r path (r.hold t)).2 := by
  let t := s.updateRequest fun q => { q with pipeline := q.pipeline.or (some p) }
  have attached : Quiet s t := .exchange s rfl rfl
  unfold Pipeline.serviceWith
  rw [Run.modify_bind_apply, Run.get_bind_apply, show s.updateRequest _ = t from rfl]
  cases found : t.pipelines.find? p with
  | none => exact .inl ⟨by rw [Container.current, show s.pipelines = t.pipelines from rfl, found,
      Option.map_none], attached⟩
  | some q => exact .inr ⟨q.registry, t, t.request.path, current_eq found, attached, rfl⟩

namespace Steady

variable {inv : Container → Prop} {rel : Container → Container → Prop} (steady : Steady inv rel)
  {calls : Calls} {pipeline : Nat} {registry : Registry}
include steady

theorem dispatchTo {wrapper : Wrapper} {s : Container} (h : inv s)
    (pass : ∀ {u v}, inv u → Quiet s u → Enters u pipeline registry wrapper v →
      inv (u.leave (Traversal.doFilter calls v).2) ∧ rel u (u.leave (Traversal.doFilter calls v).2))
    (state : DispatchState) (pooled : Bool) :
    inv (Pipeline.dispatchTo calls pipeline registry wrapper state pooled s).2 ∧
      rel s (Pipeline.dispatchTo calls pipeline registry wrapper state pooled s).2 := by
  rcases dispatchTo_cases calls pipeline registry wrapper state pooled s with
    ⟨-, -, t, quiet, ran⟩ | ⟨x, base, t, u, -, -, -, quiet, -, entered, -, left⟩
  · rw [ran]
    exact steady.quiet h quiet
  · refine steady.andThen (steady.quiet h quiet) fun h => ?_
    exact steady.andThen (pass h quiet entered.enters) fun h => steady.quiet h left

theorem divert {s : Container} (h : inv s)
    (visit : ∀ {wrapper state pooled}, registry.Serves wrapper →
      inv (Pipeline.dispatchTo calls pipeline registry wrapper state pooled s).2 ∧
        rel s (Pipeline.dispatchTo calls pipeline registry wrapper state pooled s).2)
    (dispatcher : Dispatcher) (target : Target) :
    inv (Pipeline.divert calls pipeline registry dispatcher target s).2 ∧
      rel s (Pipeline.divert calls pipeline registry dispatcher target s).2 := by
  unfold Pipeline.divert Pipeline.locate
  cases target with
  | path text =>
    dsimp only
    cases found : registry.mapServlet (Request.splitUri text).1 with
    | none => exact steady.same h
    | some wrapper => exact visit (.inl ⟨_, found⟩)
  | named name =>
    dsimp only
    cases found : registry.findWrapper name with
    | none => exact steady.same h
    | some wrapper => exact visit (.inr ⟨_, found⟩)

theorem resume {again : Run Result} (kept : again.Keeps inv rel) (times : Nat) :
    (Pipeline.resume again times).Keeps inv rel := by
  induction times with
  | zero =>
    refine steady.keeps_bind (steady.keeps_quiet takeAsync_quiet) fun suspended => ?_
    cases suspended <;> exact steady.keeps_pure _
  | succ n ih =>
    refine steady.keeps_bind (steady.keeps_quiet takeAsync_quiet) fun suspended => ?_
    cases suspended with
    | false => exact steady.keeps_pure _
    | true =>
      refine steady.keeps_bind kept fun result => ?_
      cases result with
      | error failure => exact steady.keeps_pure _
      | ok done => exact ih

theorem serviceOn
    (visit : ∀ {wrapper state pooled}, registry.Serves wrapper →
      (Pipeline.dispatchTo calls pipeline registry wrapper state pooled).Keeps inv rel)
    (path : String) :
    (Pipeline.serviceOn calls pipeline registry path).Keeps inv rel := by
  unfold Pipeline.serviceOn
  cases found : registry.mapServlet path with
  | none => exact steady.keeps_pure _
  | some wrapper =>
    have traverse : (Pipeline.traverse calls pipeline registry wrapper path).Keeps inv rel := by
      refine steady.keeps_bind (visit (.inl ⟨path, found⟩)) fun result => ?_
      cases result with
      | error failure => exact steady.keeps_pure _
      | ok done => exact steady.resume (visit (.inl ⟨path, found⟩)) _
    refine steady.keeps_bind traverse fun result => ?_
    cases result with
    | ok done => exact steady.keeps_pure _
    | error failure =>
      refine steady.keeps_bind (steady.keeps_record rfl) fun _ s => ?_
      exact steady.keeps_bind (steady.keeps_record rfl) (fun _ => steady.keeps_pure _) s

theorem dispatch
    (nested : ∀ dispatcher target,
      (Pipeline.dispatchNested calls pipeline dispatcher target).Keeps inv rel)
    (dispatcher : Dispatcher) (target : Target) :
    (Pipeline.dispatch calls pipeline dispatcher target).Keeps inv rel := by
  intro s h
  have deeper := steady.quiet h (t := s.updateRequest fun r => { r with depth := r.depth + 1 }) (.exchange s rfl rfl)
  refine steady.andThen deeper fun h => ?_
  unfold Pipeline.dispatch
  rw [Run.modify_bind_apply, Run.get_bind_apply]
  dsimp only
  split
  · refine steady.bind (steady.keeps_record rfl _ h) fun _ t _ h _ => ?_
    exact steady.quiet h (.exchange t rfl rfl)
  · refine steady.bind (nested dispatcher target _ h) fun _ t _ h _ => ?_
    exact steady.quiet h (.exchange t rfl rfl)

end Steady

/-- What traversals keep as far as the calls inside them do, and what dispatches and reloads keep,
is kept by calls of every depth. The index tells apart what holds around a visit and inside it. -/
theorem callsAmid_keeps {ι : Type} {inv : ι → Container → Prop} {rel : ι → Container → Container → Prop}
    {ready : ι → Component → Container → Prop} (course : ∀ i, Course (inv i) (rel i) (ready i))
    (dispatch : ∀ {calls : Calls}, (∀ i call, (calls call).Keeps (inv i) (rel i)) →
      ∀ i pipeline dispatcher target,
        (Pipeline.dispatch calls pipeline dispatcher target).Keeps (inv i) (rel i))
    (reload : ∀ i pipeline config, (Pipeline.reload pipeline config).Keeps (inv i) (rel i))
    (outside : Outside) (levels : Nat) :
    ∀ i call, (callsAmid outside levels call).Keeps (inv i) (rel i) := by
  have others : ∀ i, (meanwhile outside).Keeps (inv i) (rel i) := fun i =>
    @meanwhile_across (fun s t => inv i s → inv i t ∧ rel i s t) (fun _ => (course i).same)
      (fun first second h => (course i).andThen (first h) second) (reload i) outside
  induction levels with
  | zero => exact fun i _ => (course i).keeps_halt _
  | succ n ih =>
    intro i call
    have answer : (Call.answer (callsAmid outside n) call).Keeps (inv i) (rel i) := by
      cases call with
      | proceed => exact (course i).doFilter (ih i)
      | dispatch pipeline dispatcher target => exact dispatch ih i pipeline dispatcher target
      | reload pipeline config =>
        exact (course i).keeps_bind (reload i pipeline config) fun _ => (course i).keeps_pure _
    refine (course i).keeps_bind (others i) fun _ => (course i).keeps_bind answer fun result => ?_
    exact (course i).keeps_bind (others i) fun _ => (course i).keeps_pure result

end ServletFilters
