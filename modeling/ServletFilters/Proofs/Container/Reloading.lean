import ServletFilters.Proofs.Container.Pooling

/-!
What a reload leaves behind: the pipeline runs the new configuration, `reload_runs`, or all is as it
was but for what building had made, `reload_failed`.
-/

namespace ServletFilters

/-- Building takes numbers, counts and writes its journal, and leaves the rest as it is. -/
theorem build_grown (config : Config) (components : ComponentFactory) (s : Container) :
    ∃ n counts new, s.nextSerial ≤ n ∧
      (Registry.build config components s).2 = s.grown n counts new := by
  have fits : Pairing.Fits (.pooling True none fun _ => True) (fun _ _ _ => False) s s :=
    ⟨fun _ => rfl, fun _ => rfl, fun _ => False.elim, False.elim, False.elim, False.elim⟩
  obtain ⟨_, grows, -⟩ := build_building config (Margin.even_pooling (.inl trivial)) fits
  obtain ⟨new, -, grown, -⟩ := grows.journal
  exact ⟨_, _, new, grows.le, grown⟩

/-- The pipeline runs a configuration: it has a registry built for it, and its settings. -/
def Pipeline.Runs (x : Pipeline) (config : Config) : Prop :=
  (∃ s t, Registry.build config x.components s = (.ok (.ok x.registry), t)) ∧
    x.trackLastServiced = config.isolation.trackLastServiced

/-- After a reload that succeeds the pipeline runs the new configuration, with the executor, the
components and the pool limit that it has had. -/
theorem reload_runs {p : Nat} {x : Pipeline} {config : Config} {s t : Container}
    (found : s.pipelines.find? p = some x) (h : Pipeline.reload p config s = (.ok (.ok ()), t)) :
    ∃ y, t.pipelines.find? p = some y ∧ y.Runs config ∧ y.executor = x.executor ∧
      y.components = x.components ∧ y.pool.maxIdle = x.pool.maxIdle := by
  obtain ⟨n, counts, new, -, grown⟩ := build_grown config x.components s
  rcases ran : Registry.build config x.components s with ⟨halt | e | r, u⟩ <;>
    rw [ran] at grown <;> obtain rfl : u = s.grown n counts new := grown
  · rw [reload_of_halt found ran] at h
    cases h
  · rw [reload_of_error found ran] at h
    cases h
  · have done := reload_of_ok found ran
    obtain ⟨new', warned⟩ := warn_grown s n counts new
      (config.security.privilegedExecution != x.executor.isSome)
    obtain ⟨_, _, _, _, frame, pipelines⟩ := install_frame
      (s := s.grown n counts new') found r config
    rw [warned, h, frame] at done
    obtain rfl := congrArg Prod.snd done
    exact ⟨_, (pipelines p).trans (if_pos rfl), ⟨⟨s, _, ran⟩, rfl⟩, rfl, rfl, rfl⟩

theorem Pipeline.Runs.later {x y : Pipeline} {p : Nat} {events : List Event} {config : Config}
    (runs : x.Runs config) (h : x.Succeeds p events y)
    (same : y.registry = x.registry ∧ y.trackLastServiced = x.trackLastServiced) :
    y.Runs config := by
  obtain ⟨⟨s, t, built⟩, tracking⟩ := runs
  refine ⟨⟨s, t, ?_⟩, same.2.trans tracking⟩
  rw [h.components, same.1]
  exact built

theorem Pipeline.LeftBy.runs {x : Pipeline} {p : Nat} {config : Config} {s : Container}
    (h : x.LeftBy p config s) : x.Runs config := by
  obtain ⟨done, pool, after⟩ := h
  cases found : s.pipelines.find? p with
  | none =>
    rw [reload_of_none found, found] at after
    cases after
  | some z =>
    obtain ⟨y, after', runs, -⟩ := reload_runs found (Prod.ext done rfl)
    obtain rfl := Option.some.inj (after.symm.trans after')
    exact runs

theorem reload_failed {p : Nat} {config : Config} {s : Container}
    (h : (Pipeline.reload p config s).1 ≠ .ok (.ok ())) :
    ∃ n counts new, s.nextSerial ≤ n ∧ (Pipeline.reload p config s).2 = s.grown n counts new := by
  cases found : s.pipelines.find? p with
  | none =>
    rw [reload_of_none found] at h
    exact absurd rfl h
  | some x =>
    have grown := build_grown config x.components s
    rcases ran : Registry.build config x.components s with ⟨halt | e | r, u⟩ <;> rw [ran] at grown
    · rw [reload_of_halt found ran]
      exact grown
    · rw [reload_of_error found ran]
      exact grown
    · rw [reload_of_ok found ran] at h
      exact absurd rfl h

end ServletFilters
