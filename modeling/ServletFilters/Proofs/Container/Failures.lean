import ServletFilters.Proofs.Container.Starts
import ServletFilters.Proofs.Parallel.Tandem

/-!
The failures that come out of traversals. They are never of the kinds that only executors and
components use, and one that is merely handed on comes out as the stage where it was raised has
presented it, `failures_classified`.
-/

namespace ServletFilters

/-- What was presented at one stage is presented in the same way at every other. -/
theorem Failure.classify_classify (f : Failure) (stage other : Stage) :
    (f.classify stage).classify other = f.classify stage :=
  classify_of_passesThrough other (f.passesThrough_classify stage)

theorem Failure.classify_cases (f : Failure) (stage : Stage) :
    f.classify stage = f ∨ (f.classify stage).isFatal = true ∨
      (f.classify stage).message = stage.message := by
  cases f with
  | invocation inner =>
    have presented : (invocation inner).classify stage =
        if inner.isFatal then inner else .servletCaused stage.message (.failure inner) := rfl
    by_cases fatal : inner.isFatal = true
    · rw [presented, if_pos fatal]
      exact .inr (.inl fatal)
    · rw [presented, if_neg fatal]
      exact .inr (.inr rfl)
  | other cause => exact .inr (.inr rfl)
  | _ => exact .inl rfl

theorem Failure.kind_of_passesThrough {f : Failure} (h : f.passesThrough = true) :
    f.kind ≠ .invocation ∧ f.kind ≠ .other := by
  unfold passesThrough at h
  constructor <;> intro kind <;> rw [kind] at h <;> cases h

theorem doFilter_passesThrough {calls : Calls} {s : Container} {f : Failure}
    (h : (Traversal.doFilter calls s).1 = .ok (.error f)) : f.passesThrough = true := by
  rw [doFilter_privileged] at h
  obtain ⟨e, rfl⟩ := mapError_error h
  exact e.passesThrough_classifyPrivileged

theorem dispatch_passesThrough {calls : Calls} {p : Nat} {dispatcher : Dispatcher}
    {target : Target} {s : Container} {f : Failure}
    (h : (Pipeline.dispatch calls p dispatcher target s).1 = .ok (.error f)) :
    f.passesThrough = true := by
  rcases dispatch_cases calls p dispatcher target s with
    ⟨-, -, g, plain, failed⟩ | ⟨x, w, path, base, t, u, -, -, -, -, -, -, -, -, same, -⟩
  · rw [failed] at h
    cases h
    exact plain
  · exact doFilter_passesThrough (same.symm.trans h)

theorem dispatchTo_passesThrough {calls : Calls} {p : Nat} {r : Registry} {w : Wrapper}
    {state : DispatchState} {pooled : Bool} {s : Container} {f : Failure}
    (h : (Pipeline.dispatchTo calls p r w state pooled s).1 = .ok (.error f)) :
    f.passesThrough = true := by
  rcases dispatchTo_cases calls p r w state pooled s with
    ⟨-, -, t, -, ran⟩ | ⟨x, base, t, u, -, -, -, -, -, -, same, -⟩
  · rw [ran] at h
    cases h
    rfl
  · exact doFilter_passesThrough (same.symm.trans h)

theorem resume_passesThrough {again : Run Result}
    (plain : ∀ {s f}, (again s).1 = .ok (.error f) → f.passesThrough = true) (n : Nat) :
    ∀ {s f}, (Pipeline.resume again n s).1 = .ok (.error f) → f.passesThrough = true := by
  induction n with
  | zero =>
    intro s f h
    unfold Pipeline.resume at h
    rw [Run.bind_of_ok (takeAsync_apply s)] at h
    cases suspended : s.request.asyncStarted <;> rw [suspended] at h <;> cases h
    rfl
  | succ n ih =>
    intro s f h
    unfold Pipeline.resume at h
    rw [Run.bind_of_ok (takeAsync_apply s)] at h
    generalize s.updateRequest _ = t at h
    cases suspended : s.request.asyncStarted with
    | false =>
      rw [suspended] at h
      cases h
    | true =>
      rw [suspended, if_pos rfl] at h
      rcases ran : again t with ⟨halt | failure | done, u⟩
      · rw [Run.bind_of_error ran] at h
        cases h
      · rw [Run.bind_of_ok ran] at h
        cases h
        exact plain (congrArg Prod.fst ran)
      · rw [Run.bind_of_ok ran] at h
        exact ih h

theorem traverse_passesThrough {calls : Calls} {p : Nat} {r : Registry} {w : Wrapper} {path : String}
    {s : Container} {f : Failure}
    (h : (Pipeline.traverse calls p r w path s).1 = .ok (.error f)) : f.passesThrough = true := by
  unfold Pipeline.traverse at h
  rcases ran : Pipeline.dispatchTo calls p r w { dispatcher := .request, path := some path } true s with
    ⟨halt | failure | done, u⟩
  · rw [Run.bind_of_error ran] at h
    cases h
  · rw [Run.bind_of_ok ran] at h
    cases h
    exact dispatchTo_passesThrough (congrArg Prod.fst ran)
  · rw [Run.bind_of_ok ran] at h
    exact resume_passesThrough dispatchTo_passesThrough maxAsyncDispatches h

theorem serviceWith_passesThrough {calls : Calls} {p : Nat} {s : Container} {f : Failure}
    (h : (Pipeline.serviceWith calls p s).1 = .ok (.error (.chain f))) : f.passesThrough = true := by
  rcases serviceWith_traverses calls p s with ⟨-, -, e, failed, plain⟩ | ⟨x, w, -, -, -, same, -⟩
  · rw [failed] at h
    cases h
    exact plain f rfl
  · rw [same] at h
    generalize ran : (Pipeline.traverse calls p x.registry w s.request.path
      (x.registry.hold (s.attach p))).1 = out at h
    rcases out with halt | failure | done <;> cases h
    exact traverse_passesThrough ran

/-- A component fails at a stage, or cannot be made; and around it are only components that end as
their call has ended, in chains without executors. -/
inductive Surfaces (outside : Outside) (stage : Stage) (e : Failure) : Nat → Container → Prop where
  | raised {levels s i t} : s.chain.executor = none →
      Traversal.prepare s = (.ok (.ok i), t) → i.stage = stage →
      (i.run (callsAmid outside levels) t).1 = .ok (.error e) → Surfaces outside stage e levels s
  | unmade {levels s f} : s.chain.executor = none → stage = .filter →
      s.chain.filters[s.chain.position]? = some f → (f.obtain s.advance).1 = .ok (.error e) →
      Surfaces outside stage e levels s
  | handedOn {levels s i t call u v} : s.chain.executor = none →
      Traversal.prepare s = (.ok (.ok i), t) →
      (call, u) ∈ i.made (callsAmid outside (levels + 1)) t →
      v ∈ call.starts (meanwhile outside u).2 → Surfaces outside stage e levels v →
      (i.run (callsAmid outside (levels + 1)) t).1 = (callsAmid outside (levels + 1) call u).1 →
      Surfaces outside stage e (levels + 1) s

theorem callsAmid_starts {outside : Outside} {levels : Nat} {call : Call} {s u : Container}
    (start : u ∈ call.starts (meanwhile outside s).2) :
    (callsAmid outside (levels + 1) call s).1 =
      (Traversal.doFilter (callsAmid outside levels) u).1 := by
  rw [callsAmid_fst]
  cases call with
  | proceed =>
    obtain rfl := List.mem_singleton.1 start
    rfl
  | dispatch p dispatcher target =>
    exact dispatch_fst start
  | reload p config => cases start

theorem doFilter_prepared {calls : Calls} {s t : Container} {i : Invocation}
    (direct : s.chain.executor = none) (ready : Traversal.prepare s = (.ok (.ok i), t)) :
    (Traversal.doFilter calls s).1 = (i.run calls t).1.map (·.mapError (Failure.classify i.stage)) := by
  have still : t.chain.executor = none := by
    have kept := prepare_executor s
    rw [ready] at kept
    exact kept.trans direct
  rw [doFilter_direct direct, step_eq, Run.bind_of_ok ready]
  rw [call_apply, privileged_direct still]

theorem Surfaces.doFilter {outside : Outside} {stage : Stage} {e : Failure} {levels : Nat}
    {s : Container} (h : Surfaces outside stage e levels s) :
    (Traversal.doFilter (callsAmid outside levels) s).1 = .ok (.error (e.classify stage)) := by
  induction h with
  | raised direct ready here failed =>
    rw [doFilter_prepared direct ready, failed, here]
    rfl
  | @unmade levels s f direct here next failed =>
    rcases made : f.obtain s.advance with ⟨out, t⟩
    rw [made] at failed
    obtain rfl : out = .ok (.error e) := failed
    rw [doFilter_direct direct, step_eq, Run.bind_apply, prepare_filter next, Traversal.prepareFilter,
      Run.bind_of_ok made, here]
    rfl
  | handedOn direct ready _ start _ same ih =>
    -- What the inner stage has presented is not presented again.
    rw [doFilter_prepared direct ready, same, callsAmid_starts start, ih]
    exact congrArg (fun f => Except.ok (Except.error f)) (e.classify_classify stage _)

/-- Traversals, dispatches and the servicing of requests fail only in the four plain ways. A failure
that components merely hand on comes out of all of them as the stage has presented it at which it
was raised, however many chains and dispatches are around: presented once, under the message of that
stage. -/
theorem failures_classified :
    (∀ (calls : Calls) (p : Nat) (dispatcher : Dispatcher) (target : Target) (s : Container)
      (f : Failure),
      (Traversal.doFilter calls s).1 = .ok (.error f) ∨
        (Pipeline.dispatch calls p dispatcher target s).1 = .ok (.error f) ∨
        (Pipeline.serviceWith calls p s).1 = .ok (.error (.chain f)) →
      f.kind ≠ .invocation ∧ f.kind ≠ .other) ∧
    (∀ (outside : Outside) (stage : Stage) (e : Failure) (levels : Nat) (s : Container),
      Surfaces outside stage e levels s →
      (Traversal.doFilter (callsAmid outside levels) s).1 = .ok (.error (e.classify stage)) ∧
      (∀ p dispatcher target outer, s ∈ Pipeline.dispatchStarts p dispatcher target outer →
        (Pipeline.dispatch (callsAmid outside levels) p dispatcher target outer).1 =
          .ok (.error (e.classify stage))) ∧
      ∀ p outer, s ∈ Pipeline.serviceStarts (callsAmid outside levels) p outer →
        (Pipeline.serviceWith (callsAmid outside levels) p outer).1 =
          .ok (.error (.chain (e.classify stage)))) ∧
    ∀ (e : Failure) (stage other : Stage),
      (e.classify stage).classify other = e.classify stage ∧
        (e.classify stage = e ∨ (e.classify stage).isFatal = true ∨
          (e.classify stage).message = stage.message) := by
  refine ⟨?_, ?_, fun e stage other => ⟨e.classify_classify stage other, e.classify_cases stage⟩⟩
  · rintro calls p dispatcher target s f (failed | failed | failed)
    · exact Failure.kind_of_passesThrough (doFilter_passesThrough failed)
    · exact Failure.kind_of_passesThrough (dispatch_passesThrough failed)
    · exact Failure.kind_of_passesThrough (serviceWith_passesThrough failed)
  · intro outside stage e levels s h
    refine ⟨h.doFilter, ?_, ?_⟩
    · intro p dispatcher target outer start
      exact (dispatch_fst start).trans h.doFilter
    · intro p outer start
      rcases serviceWith_traverses (callsAmid outside levels) p outer with
        ⟨none, -⟩ | ⟨x, w, -, -, starts, same, -⟩
      · rw [none] at start
        cases start
      · rw [starts] at start
        rw [same, traverse_fails start h.doFilter]
        rfl

/-- A state with a chain of two filters: the first only goes on, and the second fails. -/
def brokenChain : Container where
  nextSerial := 4
  chain := {
    filters := [passing 1 "outer",
      { serial := 2
        definition := { name := "inner", className := "inner" }
        source := .made ⟨false, fun _ _ => .ready (.fail (.other (.text "boom")))⟩ }] }

theorem failures_classified_broken :
    (Traversal.doFilter (callsAmid (fun _ => []) 2) brokenChain).1 =
        .ok (.error (.servletCaused Stage.filter.message (.text "boom"))) ∧
      Failure.kind (.servletCaused Stage.filter.message (.text "boom")) ≠ .invocation := by
  have inner : Surfaces (fun _ => []) .filter (.other (.text "boom")) 1 _ :=
    .raised (s := (Traversal.prepare brokenChain).2.invoke .filter
      { serial := 4, name := "outer", program := .proceed .finish }) rfl rfl rfl rfl
  have outer : Surfaces (fun _ => []) .filter (.other (.text "boom")) 2 brokenChain :=
    .handedOn rfl rfl (List.mem_singleton_self _) (List.mem_singleton_self _) inner rfl
  have failed := (failures_classified.2.1 (fun _ => []) .filter (.other (.text "boom")) 2 brokenChain
    outer).1
  exact ⟨failed, (failures_classified.1 _ 0 .forward (.named "") brokenChain _ (.inl failed)).1⟩

end ServletFilters
