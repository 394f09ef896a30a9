import ServletFilters.Proofs.Container.Reloading
import ServletFilters.Proofs.Container.Snapshots

/-!
A pipeline that was opened and then used for a while, `Tenure`. It has the components and the
executor that it was opened with and runs one configuration; its accounts are right, and what it has
kept of earlier traversals is tidy.
-/

namespace ServletFilters

theorem openFor_ok {config : Config} {components : ComponentFactory} {options : PipelineOptions}
    {p : Nat} (opened : (Pipeline.openFor config components options {}).1 = .ok (.ok p)) :
    ∃ r u, Registry.build config components {} = (.ok (.ok r), u) ∧ u.nextSerial = p ∧
      (∃ n counts new, u = ({} : Container).grown n counts new) ∧
      Container.opened config components options = (Pipeline.create r components options u).2 := by
  unfold Container.opened
  unfold Pipeline.openFor at opened ⊢
  obtain ⟨n, counts, new, -, grown⟩ := build_grown config components {}
  rcases ran : Registry.build config components {} with ⟨halt | error | r, u⟩ <;>
    rw [ran] at grown
  · rw [Run.bind_of_error ran] at opened
    cases opened
  · rw [Run.bind_of_ok ran] at opened
    cases opened
  · rw [Run.bind_of_ok ran] at opened ⊢
    exact ⟨r, u, rfl, Except.ok.inj (Except.ok.inj opened), ⟨n, counts, new, grown⟩, rfl⟩

theorem opened_runs {config : Config} {components : ComponentFactory} {options : PipelineOptions}
    {p : Nat} (opened : (Pipeline.openFor config components options {}).1 = .ok (.ok p)) :
    ∃ x, (Container.opened config components options).pipelines.find? p = some x ∧
      x.Runs { config with isolation := { trackLastServiced := options.trackLastServiced } } := by
  obtain ⟨r, u, ran, rfl, -, created⟩ := openFor_ok opened
  rw [created]
  exact ⟨_, Dict.find?_insert_self .., ⟨{}, u, ran⟩, rfl⟩

theorem openFor_opens (config : Config) (components : ComponentFactory) (options : PipelineOptions)
    (s : Container) : Opens s (Pipeline.openFor config components options s).2 := by
  refine opens_of_build config components ?_ ?_ ?_
  · exact fun halt t ran => congrArg Prod.snd (Run.bind_of_error ran)
  · exact fun e t ran => congrArg Prod.snd (Run.bind_of_ok ran)
  · intro r t ran
    exact ⟨options, t, .refl t, (congrArg Prod.snd (Run.bind_of_ok ran)).trans
      (Run.bind_pure_snd (Pipeline.create r components options) Except.ok t)⟩

def Use.act (p : Nat) : Use → Host.Act
  | .request spec => .request spec
  | .response => .response
  | .service levels => .service levels (fun _ => []) p
  | .dispatch levels dispatcher target => .dispatch levels (fun _ => []) p dispatcher target
  | .reload config => .reload p config

theorem Use.act_box (p : Nat) (u : Use) (s : Container) :
    Host.act { box := s } (u.act p) = { box := s.use p u } := by
  cases u with
  | request spec => rfl
  | response => rfl
  | service levels =>
    unfold Use.act Host.act Host.after Container.use Use.run Pipeline.service
    dsimp only
    rw [callsAmid_nothing, Run.bind_pure_snd]
  | dispatch levels dispatcher target =>
    unfold Use.act Host.act Host.after Container.use Use.run
    dsimp only
    rw [callsAmid_nothing, Run.bind_pure_snd]
  | reload config =>
    unfold Use.act Host.act Host.after Container.use Use.run
    dsimp only
    rw [Run.bind_pure_snd]

/-- What is known of a container in which nothing was done but to open a pipeline and to use it. -/
structure Tenure (start : Config) (components : ComponentFactory) (executor : Option Executor)
    (p : Nat) (s : Container) : Prop where
  sound : Host.Sound { box := s }
  self : ∃ i old old', Parallel (.pooling True executor (· = p)) old old' i s s
  unrecorded : s.lastServiced = none
  nesting : s.nesting = 0
  only : ∀ {k x}, s.pipelines.find? k = some x → k = p
  pipeline : ∃ x, s.pipelines.find? p = some x ∧ x.components = components ∧
    x.executor = executor ∧ ∃ c, x.Runs c ∧
      (c = start ∨ ∃ u, x.LeftBy p c u ∧ (Pipeline.reload p c u).2.journal <:+ s.journal)
  installed : s.bound p = lastInstalled p none s.journal

section Found

variable {start : Config} {components : ComponentFactory} {executor : Option Executor} {p : Nat}
  {s : Container} {x : Pipeline} (h : Tenure start components executor p s)
  (found : s.pipelines.find? p = some x)
include h found

theorem Tenure.own : x.components = components := by
  obtain ⟨y, found', own, -⟩ := h.pipeline
  obtain rfl := Option.some.inj (found.symm.trans found')
  exact own

theorem Tenure.like_self :
    ∃ i old old', Parallel (.pooling True executor (· = p)) old old' i s s ∧
      x.Like (.pooling True executor (· = p)) i x := by
  obtain ⟨i, old, old', self⟩ := h.self
  have same := self.pipelines (p := p) (q := p) ⟨rfl, rfl⟩
  rw [found] at same
  cases same with
  | some like => exact ⟨i, old, old', self, like⟩

/-- The registry of the pipeline is held once, and nothing else is held. -/
theorem Tenure.count (k : Nat) : s.holders.count k = if k = x.registry.serial then 1 else 0 := by
  have books := h.sound.accounted.toBooks
  split
  · rename_i here
    rw [here]
    exact books.bound (current_eq found)
  · rename_i other
    refine books.unbound ?_
    intro l r current same
    obtain ⟨y, found', rfl⟩ := Option.map_eq_some_iff.1 current
    obtain rfl := h.only found'
    obtain rfl := Option.some.inj (found.symm.trans found')
    exact other same.symm

end Found

theorem tenure_opened {config : Config} {components : ComponentFactory} {options : PipelineOptions}
    {p : Nat} (opened : (Pipeline.openFor config components options {}).1 = .ok (.ok p)) :
    Tenure { config with isolation := { trackLastServiced := options.trackLastServiced } }
      components options.executor p (.opened config components options) := by
  obtain ⟨r, u, ran, rfl, ⟨_, _, _, grown⟩, created⟩ := openFor_ok opened
  have numbered : ∀ {r' u'}, Registry.build config components {} = (.ok (.ok r'), u') →
      u'.nextSerial = u'.nextSerial ∧ u'.nextSerial = u.nextSerial := by
    intro r' u' ran'
    rw [ran] at ran'
    cases ran'
    exact ⟨rfl, rfl⟩
  obtain ⟨i, parallel, unrecorded, -⟩ := opened_parallel
    (m := .pooling True options.executor (· = u.nextSerial)) config (Margin.even_pooling (.inl trivial))
    options options rfl rfl rfl (fun _ => rfl) numbered
  have sound := (Host.sound_new.opens (openFor_opens config components options {})).sound
  have nesting : u.nesting = 0 := congrArg Container.nesting grown
  have pipelines : u.pipelines = {} := congrArg Container.pipelines grown
  refine ⟨sound, ⟨i, _, _, parallel⟩, unrecorded, ?_, ?_, ?_, ?_⟩ <;> rw [created]
  · exact nesting
  · intro k x found
    change (u.pipelines.insert u.nextSerial _).find? k = some x at found
    rw [Dict.find?_insert, pipelines] at found
    split at found
    · rename_i same
      exact same
    · cases found
  · exact ⟨_, Dict.find?_insert_self .., rfl, rfl,
      { config with isolation := { trackLastServiced := options.trackLastServiced } },
      ⟨⟨{}, u, ran⟩, rfl⟩, .inl rfl⟩
  · change (Option.map _ ((u.pipelines.insert u.nextSerial _).find? u.nextSerial)).map _ =
      lastInstalled u.nextSerial none (.installed u.nextSerial r.serial :: _)
    rw [Dict.find?_insert_self, lastInstalled]
    simp [Event.installed?]

/-- Whatever a client does, the pipeline has the registry that was installed last. -/
theorem use_charted {start : Config} {components : ComponentFactory} {executor : Option Executor}
    {p : Nat} {s : Container} (h : Tenure start components executor p s) (u : Use) :
    ∃ top snapshot, Charted top p snapshot s (s.use p u) := by
  have apart := h.sound.accounted.apart
  obtain ⟨x, found, -⟩ := h.pipeline
  cases u with
  | request spec =>
    exact ⟨0, 0, .of_uncharted rfl (Nat.le_add_right _ 2) (fun _ => rfl) (.refl s)⟩
  | response => exact ⟨0, 0, .of_uncharted rfl (Nat.le_succ _) (fun _ => rfl) (.refl s)⟩
  | service levels =>
    have charted := (serviceWith_charted (fun _ => []) levels p (current_eq found) apart).2
    rw [callsAmid_nothing] at charted
    refine ⟨s.nesting + 1, x.registry.serial, ?_⟩
    unfold Container.use Use.run
    rw [Run.bind_pure_snd]
    exact charted
  | dispatch levels dispatcher target =>
    have charted := (dispatch_charted (callsAmid_charted 0 p 0 (fun _ => []) levels) p dispatcher
      target s ⟨apart, Nat.zero_le _⟩).2
    rw [callsAmid_nothing] at charted
    refine ⟨0, 0, ?_⟩
    unfold Container.use Use.run
    rw [Run.bind_pure_snd]
    exact charted
  | reload config =>
    refine ⟨0, 0, ?_⟩
    unfold Container.use Use.run
    rw [Run.bind_pure_snd]
    exact (reload_charted 0 p 0 p config apart).2

theorem Tenure.use {start : Config} {components : ComponentFactory} {executor : Option Executor}
    {p : Nat} {s : Container} (h : Tenure start components executor p s) (u : Use) :
    Tenure start components executor p (s.use p u) := by
  obtain ⟨i, old, old', self⟩ := h.self
  obtain ⟨-, ⟨j, -, after⟩, settles, -⟩ := use_like (q := p) (show p = p ∧ p = p from ⟨rfl, rfl⟩)
    self ⟨h.unrecorded, h.unrecorded⟩ u
  refine ⟨?_, ⟨j, _, _, after⟩, settles.unrecorded h.unrecorded, settles.nesting.trans h.nesting, ?_,
    ?_, ?_⟩
  · rw [← Use.act_box]
    exact h.sound.act (u.act p)
  · intro k y found
    rcases rel_cases (settles.pipelines k) with ⟨-, none⟩ | ⟨x, _, before, -, -⟩
    · rw [found] at none
      cases none
    · exact h.only before
  · obtain ⟨x, found, own, executed, c, runs, source⟩ := h.pipeline
    obtain ⟨y, found', succeeds⟩ := settles.pipeline found
    refine ⟨y, found', succeeds.components.trans own, succeeds.executor.trans executed, ?_⟩
    rcases succeeds.course with same | ⟨c', u, left, since⟩
    · refine ⟨c, runs.later succeeds same, source.imp id ?_⟩
      rintro ⟨u, left, since⟩
      exact ⟨u, succeeds.leftBy same left, since.trans settles.journal⟩
    · exact ⟨c', left.runs, .inr ⟨u, left, since⟩⟩
  · obtain ⟨_, _, charted⟩ := use_charted h u
    obtain ⟨new, journal, -, bound, -⟩ := charted.journal
    rw [bound, h.installed, journal, lastInstalled_append]

theorem Tenure.uses {start : Config} {components : ComponentFactory} {executor : Option Executor}
    {p : Nat} {s : Container} (h : Tenure start components executor p s) (uses : List Use) :
    Tenure start components executor p (uses.foldl (Container.use p) s) := by
  induction uses generalizing s with
  | nil => exact h
  | cons u rest ih => exact ih (h.use u)

end ServletFilters
