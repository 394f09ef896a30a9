import ServletFilters.Container.Host
import ServletFilters.Proofs.Registry.Building

/-!
Opening, reloading and closing pipelines. Each binds a pipeline to another registry or to none,
and does so between building that registry and letting go of the one before, so that no two
pipelines have the same registry, `Apart`.
-/

namespace ServletFilters

/-- A change that binds a pipeline to a registry, or to none, and leaves the rest as it is. -/
structure Rebinds (p : Nat) (r : Option Registry) (s t : Container) : Prop where
  nextSerial : s.nextSerial ≤ t.nextSerial
  request : t.request = s.request
  chain : t.chain = s.chain
  nesting : t.nesting = s.nesting
  instances : t.instances = s.instances
  holders : t.holders = s.holders
  current : ∀ k, t.current k = if k = p then r else s.current k
  journal : t.journal = s.journal

theorem current_insert (s : Container) (p : Nat) (q : Pipeline) (k : Nat) :
    Container.current { s with pipelines := s.pipelines.insert p q } k =
      if k = p then some q.registry else s.current k := by
  unfold Container.current
  rw [Dict.find?_insert]
  split <;> rfl

theorem current_cases {s t : Container} {p : Nat} {new : Option Registry}
    (current : ∀ k, t.current k = if k = p then new else s.current k) {k : Nat} {r : Registry}
    (bound : t.current k = some r) : (k = p ∧ new = some r) ∨ (k ≠ p ∧ s.current k = some r) := by
  rw [current] at bound
  split at bound
  · rename_i same
    exact .inl ⟨same, bound⟩
  · rename_i other
    exact .inr ⟨other, bound⟩

theorem Pipeline.create_cases (r : Registry) (components : ComponentFactory)
    (options : PipelineOptions) (s : Container) :
    ∃ t, Rebinds s.nextSerial (some r) s t ∧ s.nextSerial < t.nextSerial ∧
      Pipeline.create r components options s =
        (.ok s.nextSerial, (r.hold t).note (.installed s.nextSerial r.serial)) := by
  let q : Pipeline :=
    { registry := r
      components
      pool := { maxIdle := options.maxIdlePerServlet }
      executor := options.executor
      trackLastServiced := options.trackLastServiced }
  let t : Container :=
    { s with nextSerial := s.nextSerial + 1, pipelines := s.pipelines.insert s.nextSerial q }
  refine ⟨t, ?_, Nat.lt_succ_self _, rfl⟩
  exact ⟨Nat.le_succ _, rfl, rfl, rfl, rfl, rfl, current_insert s _ q, rfl⟩

/-- Opening a pipeline fails and is quiet, or builds a registry and binds a new number to it. -/
def Opens (s t : Container) : Prop :=
  Quiet s t ∨ ∃ r w u v middle, Quiet s w ∧ r.Sound ∧ r.Numbered s.nextSerial middle w.nextSerial ∧
    Quiet (w.note r.birth) u ∧ Rebinds u.nextSerial (some r) u v ∧ u.nextSerial < v.nextSerial ∧
    t = (r.hold v).note (.installed u.nextSerial r.serial)

theorem opens_of_build (config : Config) (components : ComponentFactory) {s : Container}
    {x : Run (Except RegistryError Nat)}
    (halted : ∀ halt t, Registry.build config components s = (.error halt, t) → (x s).2 = t)
    (failed : ∀ e t, Registry.build config components s = (.ok (.error e), t) → (x s).2 = t)
    (created : ∀ r t, Registry.build config components s = (.ok (.ok r), t) → ∃ options w,
      Quiet t w ∧ (x s).2 = (Pipeline.create r components options w).2) : Opens s (x s).2 := by
  rcases Registry.build_cases config components s with
    ⟨quiet, unbuilt⟩ | ⟨r, t, middle, quiet, sound, numbered, built⟩
  · rcases ran : Registry.build config components s with ⟨halt | error | r, t⟩ <;>
      rw [ran] at quiet unbuilt
    · rw [halted halt t ran]
      exact .inl quiet
    · rw [failed error t ran]
      exact .inl quiet
    · exact absurd rfl (unbuilt r)
  · obtain ⟨options, u, more, same⟩ := created r (t.note r.birth) built
    obtain ⟨v, rebinds, used, opened⟩ := Pipeline.create_cases r components options u
    refine .inr ⟨r, t, u, v, middle, quiet, sound, numbered, more, rebinds, used, ?_⟩
    rw [same, opened]

theorem Host.openWith_opens (config : Config) (components : ComponentFactory)
    (executor : Option Executor) (s : Container) :
    Opens s (Host.openWith config components executor s).2 := by
  cases executor with
  | none =>
    refine opens_of_build config components ?_ ?_ ?_
    · exact fun halt t ran => congrArg Prod.snd (Run.bind_of_error ran)
    · exact fun e t ran => congrArg Prod.snd (Run.bind_of_ok ran)
    · intro r t ran
      refine ⟨.ofConfig config, _, ?_, (congrArg Prod.snd (Run.bind_of_ok ran)).trans
        (Run.bind_pure_snd (Pipeline.create r components (.ofConfig config)) Except.ok _)⟩
      exact .note t rfl
  | some executor =>
    refine opens_of_build config components ?_ ?_ ?_
    · exact fun halt t ran => congrArg Prod.snd (Run.bind_of_error ran)
    · exact fun e t ran => congrArg Prod.snd (Run.bind_of_ok ran)
    · intro r t ran
      exact ⟨{ PipelineOptions.ofConfig config with executor := some executor }, t, .refl t,
        (congrArg Prod.snd (Run.bind_of_ok ran)).trans (Run.bind_pure_snd _ Except.ok t)⟩

theorem Pipeline.close_cases (p : Nat) (s : Container) :
    (s.current p = none ∧ (Pipeline.close p s).2 = s) ∨
      ∃ old t, s.current p = some old ∧ Rebinds p none s t ∧
        (Pipeline.close p s).2 = old.letGo t := by
  unfold Pipeline.close
  rw [Run.modify_apply]
  dsimp only
  cases found : s.pipelines.find? p with
  | none => exact .inl ⟨by rw [Container.current, found, Option.map_none], rfl⟩
  | some q =>
    refine .inr ⟨q.registry, _, current_eq found, ?_, rfl⟩
    refine ⟨Nat.le_refl _, rfl, rfl, rfl, rfl, rfl, ?_, rfl⟩
    intro k
    unfold Container.current
    rw [Dict.find?_erase]
    split <;> rfl

theorem Pipeline.swapRegistry_cases {p : Nat} {old : Registry} (r : Registry) {s : Container}
    (h : s.current p = some old) :
    ∃ t, Rebinds p (some r) s t ∧ t.nextSerial = s.nextSerial ∧
      Pipeline.swapRegistry p r s = old.letGo ((r.hold t).note (.installed p r.serial)) := by
  obtain ⟨q, found, rfl⟩ := Option.map_eq_some_iff.1 h
  refine ⟨s.updatePipeline p fun q => { q with registry := r }, ?_, ?_, ?_⟩
  · unfold Container.updatePipeline
    rw [found]
    exact ⟨Nat.le_refl _, rfl, rfl, rfl, rfl, rfl, current_insert _ _ _, rfl⟩
  · unfold Container.updatePipeline
    rw [found]
  · unfold Pipeline.swapRegistry
    rw [found]

/-- A reload fails and is quiet, or builds a registry, binds the pipeline to it, lets go of the
one before and is quiet afterwards. -/
theorem Pipeline.reload_cases (p : Nat) (config : Config) (s : Container) :
    (Quiet s (Pipeline.reload p config s).2) ∨
      ∃ old r t u v middle, s.current p = some old ∧ Quiet s t ∧ r.Sound ∧
        r.Numbered s.nextSerial middle t.nextSerial ∧ Quiet (t.note r.birth) u ∧
        Rebinds p (some r) u v ∧
        Quiet (old.letGo ((r.hold v).note (.installed p r.serial)))
          (Pipeline.reload p config s).2 := by
  unfold Pipeline.reload
  rw [Run.get_bind_apply]
  cases found : s.pipelines.find? p with
  | none => exact .inl (.refl s)
  | some q =>
    dsimp only
    rcases Registry.build_cases config q.components s with
      ⟨quiet, failed⟩ | ⟨r, t, middle, quiet, sound, numbered, built⟩
    · rcases ran : Registry.build config q.components s with ⟨halt | error | r, t⟩ <;>
        rw [ran] at quiet failed
      · rw [Run.bind_of_error ran]
        exact .inl quiet
      · rw [Run.bind_of_ok ran]
        exact .inl quiet
      · exact absurd rfl (failed r)
    · rw [Run.bind_of_ok built]
      have finish : ∀ u, Quiet (t.note r.birth) u → ∃ v, Rebinds p (some r) u v ∧
          Quiet (q.registry.letGo ((r.hold v).note (.installed p r.serial)))
            ((do
              modify (Pipeline.swapRegistry p r)
              modify (·.updatePipeline p fun p =>
                { p with
                  trackLastServiced := config.isolation.trackLastServiced
                  pool := p.pool.clear })
              log .info "Pipeline registry reloaded" []
              return .ok () : Run (Except RegistryError Unit)) u).2 := by
        intro u more
        have still : u.current p = some q.registry := by
          rw [more.current]
          change t.current p = _
          rw [quiet.current, current_eq found]
        obtain ⟨v, rebinds, -, swapped⟩ := Pipeline.swapRegistry_cases r still
        refine ⟨v, rebinds, ?_⟩
        rw [Run.modify_bind_apply, swapped]
        exact (Quiet.updatePipeline _ p (f := fun p =>
          { p with
            trackLastServiced := config.isolation.trackLastServiced
            pool := p.pool.clear }) fun _ => ⟨rfl, rfl⟩).trans (.note _ rfl)
      refine .inr ⟨q.registry, r, t, ?_⟩
      dsimp only
      split
      · let warning : Event := .logged
          ⟨.warn, "Privileged execution setting changed; restart required for it to apply", []⟩
        have more : Quiet (t.note r.birth) ((t.note r.birth).note warning) := .note _ rfl
        obtain ⟨v, rebinds, after⟩ := finish _ more
        exact ⟨_, v, middle, current_eq found, quiet, sound, numbered, more, rebinds, after⟩
      · have more := Quiet.refl (t.note r.birth)
        obtain ⟨v, rebinds, after⟩ := finish _ more
        exact ⟨_, v, middle, current_eq found, quiet, sound, numbered, more, rebinds, after⟩

/-! ### Registries apart -/

/-- The number of the registry that a pipeline is bound to. -/
def Container.bound (s : Container) (p : Nat) : Option Nat := (s.current p).map (·.serial)

/-- Pipelines and their registries have numbers in use, and no two have the same registry. -/
structure Apart (s : Container) : Prop where
  pipeline_lt : ∀ {p r}, s.current p = some r → p < s.nextSerial
  registry_lt : ∀ {p r}, s.current p = some r → r.serial < s.nextSerial
  injective : ∀ {p q a b}, s.current p = some a → s.current q = some b → a.serial = b.serial → p = q

theorem Apart.same {s t : Container} (h : Apart s) (current : ∀ p, t.current p = s.current p)
    (grown : s.nextSerial ≤ t.nextSerial) : Apart t := by
  constructor
  · intro p r bound
    exact Nat.lt_of_lt_of_le (h.pipeline_lt (current p ▸ bound)) grown
  · intro p r bound
    exact Nat.lt_of_lt_of_le (h.registry_lt (current p ▸ bound)) grown
  · intro p q a b ha hb
    exact h.injective (current p ▸ ha) (current q ▸ hb)

theorem Apart.bind {s t : Container} {p : Nat} {r : Registry} (h : Apart s)
    (current : ∀ k, t.current k = if k = p then some r else s.current k)
    (grown : s.nextSerial ≤ t.nextSerial) (used : p < t.nextSerial)
    (fresh : s.nextSerial ≤ r.serial) (numbered : r.serial < t.nextSerial) : Apart t := by
  constructor
  · intro k a bound
    rcases current_cases current bound with ⟨rfl, -⟩ | ⟨-, old⟩
    · exact used
    · exact Nat.lt_of_lt_of_le (h.pipeline_lt old) grown
  · intro k a bound
    rcases current_cases current bound with ⟨-, ⟨⟩⟩ | ⟨-, old⟩
    · exact numbered
    · exact Nat.lt_of_lt_of_le (h.registry_lt old) grown
  · intro k l a b ha hb same
    rcases current_cases current ha with ⟨rfl, ⟨⟩⟩ | ⟨-, oldA⟩ <;>
      rcases current_cases current hb with ⟨rfl, ⟨⟩⟩ | ⟨-, oldB⟩
    · rfl
    · have := h.registry_lt oldB
      omega
    · have := h.registry_lt oldA
      omega
    · exact h.injective oldA oldB same

theorem Apart.unbind {s t : Container} {p : Nat} (h : Apart s)
    (current : ∀ k, t.current k = if k = p then none else s.current k)
    (grown : s.nextSerial ≤ t.nextSerial) : Apart t := by
  have old : ∀ {k a}, t.current k = some a → s.current k = some a :=
    fun bound => ((current_cases current bound).resolve_left (by rintro ⟨-, ⟨⟩⟩)).2
  constructor
  · exact fun bound => Nat.lt_of_lt_of_le (h.pipeline_lt (old bound)) grown
  · exact fun bound => Nat.lt_of_lt_of_le (h.registry_lt (old bound)) grown
  · exact fun ha hb => h.injective (old ha) (old hb)

end ServletFilters
