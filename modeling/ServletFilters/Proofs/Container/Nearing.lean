import ServletFilters.Proofs.Component.Advancing
import ServletFilters.Proofs.Container.Restoring

/-!
What a traversal does besides calling components leads it nowhere back, `Nears`: the filters stay
advancing ones, none that lies behind comes to lie ahead, and the depth of the request is the same.
-/

namespace ServletFilters

/-- The number of filters that a request has not come to. -/
def Chain.ahead (c : Chain) : Nat := c.filters.length - c.position

structure Pipeline.Advancing (x : Pipeline) : Prop where
  components : x.components.Advancing
  registry : x.registry.Advancing

/-- The filters of a container, and those that its pipelines may still make, are advancing. -/
structure Container.Advancing (s : Container) : Prop where
  pipelines : ∀ {p x}, s.pipelines.find? p = some x → x.Advancing
  instances : ∀ {k c}, s.instances.find? k = some c → c.program.Advancing
  chain : ∀ f ∈ s.chain.filters, f.Advancing

/-- A change after which no more filters are ahead. -/
structure Nears (s t : Container) : Prop where
  advancing : s.Advancing → t.Advancing
  depth : t.request.depth = s.request.depth
  ahead : t.chain.ahead ≤ s.chain.ahead

namespace Nears

variable {s t u : Container}

theorem refl (s : Container) : Nears s s := ⟨id, rfl, Nat.le_refl _⟩

theorem trans (h₁ : Nears s t) (h₂ : Nears t u) : Nears s u :=
  ⟨h₂.advancing ∘ h₁.advancing, h₂.depth.trans h₁.depth, Nat.le_trans h₂.ahead h₁.ahead⟩

/-- A change of instances only, none of which is new. -/
theorem ebb (pipelines : t.pipelines = s.pipelines)
    (instances : ∀ {k c}, t.instances.find? k = some c → s.instances.find? k = some c)
    (chain : t.chain = s.chain) (depth : t.request.depth = s.request.depth) : Nears s t where
  advancing h := ⟨fun found => h.pipelines (pipelines ▸ found),
    fun found => h.instances (instances found), chain ▸ h.chain⟩
  depth
  ahead := Nat.le_of_eq (congrArg Chain.ahead chain)

theorem same (pipelines : t.pipelines = s.pipelines) (instances : t.instances = s.instances)
    (chain : t.chain = s.chain) (depth : t.request.depth = s.request.depth) : Nears s t :=
  ebb pipelines (fun found => instances ▸ found) chain depth

theorem note (s : Container) (e : Event) : Nears s (s.note e) := same rfl rfl rfl rfl

theorem release (s : Container) : Nears s (s.updateChain Chain.release) where
  advancing h := ⟨h.pipelines, h.instances, by rintro f ⟨⟩⟩
  depth := rfl
  ahead := by simp [Container.updateChain, Chain.release, Chain.ahead]

theorem updatePipeline (s : Container) (p : Nat) {f : Pipeline → Pipeline}
    (kept : ∀ q, q.Advancing → (f q).Advancing) : Nears s (s.updatePipeline p f) := by
  unfold Container.updatePipeline
  cases found : s.pipelines.find? p with
  | none => exact refl s
  | some q =>
    refine ⟨fun h => ⟨fun {k x} bound => ?_, h.instances, h.chain⟩, rfl, Nat.le_refl _⟩
    rw [Dict.find?_insert] at bound
    split at bound
    · exact Option.some.inj bound ▸ kept q (h.pipelines found)
    · exact h.pipelines bound

end Nears

theorem perform_nears (who : Component) (action : Action) (s : Container) :
    Nears s (action.perform who s).2 := by
  cases action with
  | startAsync =>
    change Nears s (if s.request.asyncSupported then _ else _ : _ × Container).2
    split <;> exact .same rfl rfl rfl rfl
  | _ => exact .same rfl rfl rfl rfl

theorem downgrade_nears (declined : Bool) (s : Container) :
    Nears s (Traversal.downgrade declined s).2 := by
  unfold Traversal.downgrade
  rw [Run.modify_apply]
  split <;> exact .same rfl rfl rfl rfl

theorem Invocation.close_nears (i : Invocation) (s : Container) : Nears s (i.close s) := by
  unfold Invocation.close
  split <;> exact .same rfl rfl rfl rfl

theorem take_nears (p : Nat) (x : Pipeline) (servlet : String) (pooled : Bool) (s : Container) :
    Nears s (Pipeline.take p x servlet pooled s).2 := by
  obtain ⟨chain, ran | ⟨pool, hit, ran⟩⟩ := take_apply p x servlet pooled s <;> rw [ran]
  · exact .refl s
  · exact (Nears.updatePipeline s p (f := fun q => { q with pool })
      fun _ h => ⟨h.components, h.registry⟩).trans (.note _ _)

theorem Registry.hold_nears (r : Registry) (s : Container) : Nears s (r.hold s) :=
  .same rfl rfl rfl rfl

theorem Registry.letGo_nears (r : Registry) (s : Container) : Nears s (r.letGo s) := by
  obtain ⟨_, _, _, frame⟩ := letGo_frame r s
  refine .ebb ?_ (r.letGo_ebbs s).instances ?_ ?_ <;> rw [frame]

/-! ### Obtaining filters -/

section Obtaining

variable {f : FilterConfig} (advancing : f.Advancing) {s t : Container}
include advancing

theorem FilterConfig.obtain_advancing (h : s.Advancing) {c : Component}
    (given : f.obtain s = (.ok (.ok c), t)) : c.program.Advancing := by
  rcases f.obtain_cases s with ⟨d, found, ran⟩ | ⟨d, u, -, made, ran⟩ | ⟨r, u, ran, -, none⟩ <;>
    rw [ran] at given
  · obtain rfl := value_eq given
    exact h.instances found
  · obtain rfl := value_eq given
    exact FilterConfig.Advancing.made advancing made
  · exact absurd (congrArg Prod.fst given) (none c)

theorem FilterConfig.obtain_nears (s : Container) : Nears s (f.obtain s).2 where
  advancing h := by
    obtain ⟨_, _, _, _, frame⟩ := f.obtain_frame s
    have pipelines : (f.obtain s).2.pipelines = s.pipelines := by rw [frame]
    refine ⟨fun found => h.pipelines (pipelines ▸ found), ?_, f.obtain_chain s ▸ h.chain⟩
    intro k c found
    rcases f.obtain_cases s with ⟨d, -, ran⟩ | ⟨d, u, -, made, ran⟩ | ⟨r, u, ran, quiet, -⟩ <;>
      rw [ran] at found
    · exact h.instances found
    · change (u.instances.insert f.serial d).find? k = some c at found
      rw [Dict.find?_insert] at found
      split at found
      · exact Option.some.inj found ▸ FilterConfig.Advancing.made advancing made
      · have quiet := f.make_quiet s
        rw [made] at quiet
        exact h.instances (quiet.instances ▸ found)
    · exact h.instances (quiet.instances ▸ found)
  depth := congrArg Request.depth (f.obtain_request s)
  ahead := Nat.le_of_eq (congrArg Chain.ahead (f.obtain_chain s))

end Obtaining

/-! ### Reloads -/

theorem Container.grown_nears (s : Container) (n : Nat) (counts : Dict String Nat)
    (new : List Event) : Nears s (s.grown n counts new) := .same rfl rfl rfl rfl

/-- In a reload no instance comes up. -/
theorem reload_instances {p : Nat} {config : Config} {s : Container} {k : Nat} {c : Component}
    (found : (Pipeline.reload p config s).2.instances.find? k = some c) :
    s.instances.find? k = some c := by
  rcases Pipeline.reload_cases p config s with
    quiet | ⟨old, r, t, u, v, middle, -, quiet, -, -, more, rebinds, after⟩
  · exact quiet.instances ▸ found
  · have left := (old.letGo_ebbs _).instances (after.instances ▸ found)
    have bound : v.instances.find? k = some c := left
    rw [rebinds.instances, more.instances] at bound
    exact quiet.instances ▸ bound

theorem reload_nears (p : Nat) (config : Config) (s : Container) :
    Nears s (Pipeline.reload p config s).2 where
  advancing h := by
    cases found : s.pipelines.find? p with
    | none =>
      rw [reload_of_none found]
      exact h
    | some x =>
      obtain ⟨n, counts, new, -, grown⟩ := build_grown config x.components s
      rcases ran : Registry.build config x.components s with ⟨halt | e | r, u⟩ <;>
        rw [ran] at grown <;> obtain rfl : u = s.grown n counts new := grown
      · rw [reload_of_halt found ran]
        exact (s.grown_nears n counts new).advancing h
      · rw [reload_of_error found ran]
        exact (s.grown_nears n counts new).advancing h
      · obtain ⟨new', warned⟩ := warn_grown s n counts new
          (config.security.privilegedExecution != x.executor.isSome)
        obtain ⟨_, _, _, _, frame, pipelines⟩ := install_frame
          (s := s.grown n counts new') found r config
        have instances := @reload_instances p config s
        rw [reload_of_ok found ran, warned, frame] at instances ⊢
        -- The pipeline has the new registry, and every other one what it had.
        have components := (h.pipelines found).components
        refine ⟨fun {k y} bound => ?_, fun there => h.instances (instances there), h.chain⟩
        rw [pipelines k] at bound
        split at bound
        · obtain rfl := Option.some.inj bound
          exact ⟨components, (Registry.build_contents ran).advancing components⟩
        · exact h.pipelines bound
  depth := congrArg Request.depth (reload_request p config s)
  ahead := Nat.le_of_eq (congrArg Chain.ahead (reload_offstage p config s).chain)

theorem meanwhile_nears (outside : Outside) (s : Container) : Nears s (meanwhile outside s).2 :=
  meanwhile_across .refl .trans reload_nears outside s

/-! ### Computations without calls -/

/-- The computation calls no component, so that no number of levels is too small for it. -/
def Run.Callless (x : Run α) : Prop := ∀ s, (x s).1 ≠ .error .exhausted

theorem Run.Callless.pure (a : α) : (Pure.pure a : Run α).Callless := fun _ => by rintro ⟨⟩

theorem Run.Callless.bind {x : Run α} {next : α → Run β} (first : x.Callless)
    (rest : ∀ a, (next a).Callless) : (x >>= next).Callless := by
  intro s
  have left := first s
  rcases done : x s with ⟨halt | a, t⟩
  · rw [done] at left
    rw [Run.bind_of_error done]
    rintro ⟨⟩
    exact left rfl
  · rw [Run.bind_of_ok done]
    exact rest a t

theorem makeComponent_callless (announced : Bool) (name : String) (make : Nat → Making) :
    (makeComponent announced name make).Callless := by
  intro s
  obtain ⟨n, -, ⟨_, -, ended⟩ | ⟨_, -, ended⟩ | ⟨_, -, -, ended⟩⟩ :=
    makeComponent_ends announced name make s <;> rw [ended] <;> rintro ⟨⟩

theorem FilterConfig.obtain_callless (f : FilterConfig) : f.obtain.Callless := by
  have make : f.make.Callless := by
    unfold FilterConfig.make
    split
    · exact .pure _
    · exact makeComponent_callless _ _ _
  intro s
  unfold FilterConfig.obtain
  rw [Run.get_bind_apply]
  cases s.instances.find? f.serial with
  | some c => rintro ⟨⟩
  | none =>
    refine make.bind (fun made => ?_) s
    cases made <;> exact fun _ => by rintro ⟨⟩

theorem take_callless (p : Nat) (x : Pipeline) (servlet : String) (pooled : Bool) :
    (Pipeline.take p x servlet pooled).Callless := by
  intro s
  obtain ⟨chain, ran | ⟨pool, hit, ran⟩⟩ := take_apply p x servlet pooled s <;> rw [ran] <;>
    rintro ⟨⟩

theorem declareFilters_callless (components : ComponentFactory) (entries : List Config.FilterEntry)
    (declared : Dict String FilterConfig) :
    (Registry.declareFilters components entries declared).Callless := by
  induction entries generalizing declared with
  | nil => exact .pure _
  | cons entry rest ih =>
    unfold Registry.declareFilters
    split
    · exact .pure _
    · exact .bind (fun _ => by rintro ⟨⟩) fun _ => ih _

theorem makeWrappers_callless (components : ComponentFactory) (entries : List Config.ServletEntry) :
    (Registry.makeWrappers components entries).Callless := by
  induction entries with
  | nil => exact .pure _
  | cons entry rest ih =>
    unfold Registry.makeWrappers
    split
    · exact .pure _
    · refine (makeComponent_callless _ _ _).bind fun made => ?_
      cases made with
      | error failure => exact .pure _
      | ok servlet => exact ih.bind fun _ => .pure _

theorem Registry.build_callless (config : Config) (components : ComponentFactory) :
    (Registry.build config components).Callless := by
  refine (declareFilters_callless components config.filters {}).bind fun declared => ?_
  split
  · exact .pure _
  · split
    · exact .pure _
    · refine (makeWrappers_callless components config.servlets).bind fun made => ?_
      split
      · exact .pure _
      · split
        · exact .pure _
        · exact fun _ => by rintro ⟨⟩

theorem Pipeline.reload_callless (p : Nat) (config : Config) :
    (Pipeline.reload p config).Callless := by
  intro s
  cases found : s.pipelines.find? p with
  | none =>
    rw [reload_of_none found]
    rintro ⟨⟩
  | some x =>
    have built := Registry.build_callless config x.components s
    rcases ran : Registry.build config x.components s with ⟨halt | e | r, u⟩ <;> rw [ran] at built
    · rw [reload_of_halt found ran]
      rintro ⟨⟩
      exact built rfl
    · rw [reload_of_error found ran]
      rintro ⟨⟩
    · rw [reload_of_ok found ran]
      rintro ⟨⟩

end ServletFilters
