import ServletFilters.Container.Service

/-!
What the small computations do to a container. A change is quiet when it touches neither chains
nor the lives of registries and components, and calm when it leaves alone all but those lives.
Every computation below the level of a traversal is shown to be one or the other, or is taken
apart case by case.
-/

namespace ServletFilters

/-- Events that tell of no change to a registry, a chain or a component that was given out. -/
def Event.isPlain : Event → Bool
  | .constructing _ _ | .constructed _ _ | .gauged _ | .observed _ _ | .executed _ _ | .measured _
  | .logged _ => true
  | _ => false

/-- The level of the changes to a chain. -/
def Event.level? : Event → Option Nat
  | .supplied level _ _ | .invoked level _ _ _ _ | .traversed level _ _ _ _ | .advanced level _
  | .rewound level | .emptied level => some level
  | _ => none

/-- Events that concern neither a chain nor the registry of a pipeline. -/
def Event.isCalm : Event → Bool
  | .installed _ _ => false
  | e => e.level?.isNone

theorem Event.isCalm_of_isPlain {e : Event} (h : e.isPlain = true) : e.isCalm = true := by
  cases e <;> first | rfl | cases h

def Container.current (s : Container) (p : Nat) : Option Registry :=
  (s.pipelines.find? p).map (·.registry)

/-- The executor of a pipeline, where there is that pipeline. -/
def Container.executing (s : Container) (p : Nat) : Option (Option Executor) :=
  (s.pipelines.find? p).map (·.executor)

/-- What of a request stays as it is. -/
def Request.fixed (r : Request) : Request :=
  { r with
    dispatch := {}
    asyncSupported := false
    asyncStarted := false
    depth := 0
    nonAsyncComponents := []
    attributes := {}
    pipeline := none }

theorem current_eq {s : Container} {p : Nat} {q : Pipeline} (h : s.pipelines.find? p = some q) :
    s.current p = some q.registry := by
  rw [Container.current, h, Option.map_some]

theorem executing_eq {s : Container} {p : Nat} {q : Pipeline} (h : s.pipelines.find? p = some q) :
    s.executing p = some q.executor := by
  rw [Container.executing, h, Option.map_some]

theorem attachedPipeline_eq {s : Container} {p : Nat} {r : Registry} (bound : s.current p = some r)
    (attached : s.request.pipeline = some p) : s.attachedPipeline? = some p := by
  obtain ⟨q, found, -⟩ := Option.map_eq_some_iff.1 bound
  rw [Container.attachedPipeline?, attached, Option.filter_some, found, Option.isSome_some, if_pos rfl]

/-- The later state has the journal of the earlier one, and more events of a kind. -/
def Appends (kind : Event → Prop) (s t : Container) : Prop :=
  ∃ new, t.journal = new ++ s.journal ∧ ∀ e ∈ new, kind e

theorem Appends.refl {kind : Event → Prop} (s : Container) : Appends kind s s :=
  ⟨[], rfl, by simp⟩

theorem Appends.trans {kind : Event → Prop} {s t u : Container} (h₁ : Appends kind s t)
    (h₂ : Appends kind t u) : Appends kind s u := by
  obtain ⟨first, hf, kf⟩ := h₁
  obtain ⟨second, hs, ks⟩ := h₂
  refine ⟨second ++ first, by rw [hs, hf, List.append_assoc], ?_⟩
  intro e he
  rcases List.mem_append.1 he with he | he
  · exact ks e he
  · exact kf e he

theorem Appends.imp {kind other : Event → Prop} {s t : Container} (h : Appends kind s t)
    (weaker : ∀ e, kind e → other e) : Appends other s t := by
  obtain ⟨new, journal, all⟩ := h
  exact ⟨new, journal, fun e he => weaker e (all e he)⟩

theorem Appends.note {kind : Event → Prop} (s : Container) {e : Event} (h : kind e) :
    Appends kind s (s.note e) :=
  ⟨[e], rfl, by simpa using h⟩

theorem Appends.suffix {kind : Event → Prop} {s t : Container} (h : Appends kind s t) :
    s.journal <:+ t.journal := by
  obtain ⟨new, journal, -⟩ := h
  exact ⟨new, journal.symm⟩

theorem Run.bind_pure_snd (x : Run α) (f : α → β) (s : Container) :
    ((x >>= fun a => pure (f a)) s).2 = (x s).2 := by
  rcases ran : x s with ⟨halt | a, t⟩
  · rw [Run.bind_of_error ran]
  · rw [Run.bind_of_ok ran]
    rfl

theorem onResponse_ok {response : Response} {body : Run Result} {s t : Container}
    {answer : Result × Response} (ran : onResponse response body s = (.ok answer, t)) :
    ∃ u, body (s.newResponse response) = (.ok answer.1, u) ∧ t = { u with response := s.response } := by
  unfold onResponse at ran
  rcases inside : body (s.newResponse response) with ⟨halt | result, u⟩ <;> rw [inside] at ran
  · cases ran
  · obtain ⟨⟨⟩, rfl⟩ := Prod.mk.inj ran
    exact ⟨u, rfl, rfl⟩

/-- The level is the same as before, and what has happened since is told on top. -/
structure Further (s t : Container) : Prop where
  nesting : t.nesting = s.nesting
  grows : s.journal <:+ t.journal

namespace Further

theorem refl (s : Container) : Further s s := ⟨rfl, List.suffix_rfl⟩

theorem trans {s t u : Container} (h₁ : Further s t) (h₂ : Further t u) : Further s u :=
  ⟨h₂.nesting.trans h₁.nesting, h₁.grows.trans h₂.grows⟩

theorem note (s : Container) (e : Event) : Further s (s.note e) := ⟨rfl, List.suffix_cons _ _⟩

end Further

/-! ### Quiet changes -/

/-- A change of the exchange, of pools and settings, of the numbers in use and of the plain part
of the journal. -/
structure Quiet (s t : Container) : Prop where
  nextSerial : s.nextSerial ≤ t.nextSerial
  request : t.request.fixed = s.request.fixed
  chain : t.chain = s.chain
  nesting : t.nesting = s.nesting
  instances : t.instances = s.instances
  holders : t.holders = s.holders
  current : ∀ p, t.current p = s.current p
  executing : ∀ p, t.executing p = s.executing p
  journal : Appends (·.isPlain) s t

theorem Quiet.refl (s : Container) : Quiet s s :=
  ⟨Nat.le_refl _, rfl, rfl, rfl, rfl, rfl, fun _ => rfl, fun _ => rfl, .refl s⟩

theorem Quiet.trans {s t u : Container} (h₁ : Quiet s t) (h₂ : Quiet t u) : Quiet s u :=
  ⟨Nat.le_trans h₁.nextSerial h₂.nextSerial, h₂.request.trans h₁.request, h₂.chain.trans h₁.chain,
    h₂.nesting.trans h₁.nesting, h₂.instances.trans h₁.instances, h₂.holders.trans h₁.holders,
    fun p => (h₂.current p).trans (h₁.current p), fun p => (h₂.executing p).trans (h₁.executing p),
    h₁.journal.trans h₂.journal⟩

theorem Quiet.note (s : Container) {e : Event} (h : e.isPlain = true) : Quiet s (s.note e) :=
  ⟨Nat.le_refl _, rfl, rfl, rfl, rfl, rfl, fun _ => rfl, fun _ => rfl, .note s h⟩

theorem Quiet.exchange (s : Container) {t : Container}
    (h : t = { s with request := t.request, response := t.response })
    (fixed : t.request.fixed = s.request.fixed) : Quiet s t := by
  rw [h]
  exact ⟨Nat.le_refl _, fixed, rfl, rfl, rfl, rfl, fun _ => rfl, fun _ => rfl, .refl s⟩

theorem Quiet.newResponse (s : Container) (response : Response) :
    Quiet s (s.newResponse response) :=
  ⟨Nat.le_succ _, rfl, rfl, rfl, rfl, rfl, fun _ => rfl, fun _ => rfl, .refl s⟩

theorem Quiet.response (s : Container) (response : Response) : Quiet s { s with response } :=
  .exchange s rfl rfl

theorem Quiet.updateRequest (s : Container) {f : Request → Request}
    (fixed : (f s.request).fixed = s.request.fixed) : Quiet s (s.updateRequest f) :=
  .exchange s rfl fixed

theorem Quiet.lastServiced (s : Container) (record : Option (Nat × Nat)) :
    Quiet s { s with lastServiced := record } :=
  ⟨Nat.le_refl _, rfl, rfl, rfl, rfl, rfl, fun _ => rfl, fun _ => rfl, .refl s⟩

theorem Quiet.constructions (s : Container) (counts : Dict String Nat) :
    Quiet s { s with constructions := counts } :=
  ⟨Nat.le_refl _, rfl, rfl, rfl, rfl, rfl, fun _ => rfl, fun _ => rfl, .refl s⟩

theorem Quiet.updatePipeline (s : Container) (p : Nat) {f : Pipeline → Pipeline}
    (same : ∀ q, (f q).registry = q.registry ∧ (f q).executor = q.executor) :
    Quiet s (s.updatePipeline p f) := by
  unfold Container.updatePipeline
  split
  · rename_i q found
    have kept : ∀ {α : Type} (g : Pipeline → α), g (f q) = g q → ∀ k,
        ((s.pipelines.insert p (f q)).find? k).map g = (s.pipelines.find? k).map g := by
      intro α g same k
      rw [Dict.find?_insert]
      split
      · rename_i here
        rw [here, found, Option.map_some, Option.map_some, same]
      · rfl
    exact ⟨Nat.le_refl _, rfl, rfl, rfl, rfl, rfl, kept _ (same q).1, kept _ (same q).2, .refl s⟩
  · exact .refl s

theorem updatePipeline_frame (s : Container) (p : Nat) (f : Pipeline → Pipeline) :
    ∃ pipelines, s.updatePipeline p f = { s with pipelines } := by
  unfold Container.updatePipeline
  split
  · exact ⟨_, rfl⟩
  · exact ⟨s.pipelines, rfl⟩

theorem updatePipeline_request (s : Container) (p : Nat) (f : Pipeline → Pipeline) :
    (s.updatePipeline p f).request = s.request := by
  obtain ⟨pipelines, frame⟩ := updatePipeline_frame s p f
  rw [frame]

theorem find?_updatePipeline (s : Container) (p k : Nat) (f : Pipeline → Pipeline) :
    (s.updatePipeline p f).pipelines.find? k =
      if k = p then (s.pipelines.find? p).map f else s.pipelines.find? k := by
  unfold Container.updatePipeline
  cases found : s.pipelines.find? p with
  | none =>
    dsimp only
    split
    · rename_i same
      rw [same, found]
      rfl
    · rfl
  | some x => exact Dict.find?_insert ..

theorem perform_quiet (who : Component) (action : Action) (s : Container) :
    Quiet s (action.perform who s).2 := by
  cases action with
  | look => exact .refl s
  | observe value => exact .note s rfl
  | log entry => exact .note s rfl
  | startAsync =>
    change Quiet s (if s.request.asyncSupported then _ else _ : _ × Container).2
    split
    · exact .exchange s rfl rfl
    · exact .refl s
  | remember text =>
    exact ⟨Nat.le_refl _, rfl, rfl, rfl, rfl, rfl, fun _ => rfl, fun _ => rfl, .refl s⟩
  | _ => exact .exchange s rfl rfl

theorem downgrade_quiet (declined : Bool) (s : Container) :
    Quiet s (Traversal.downgrade declined s).2 := by
  unfold Traversal.downgrade
  rw [Run.modify_apply]
  split
  · exact .exchange s rfl rfl
  · exact .refl s

theorem recordNonAsync_quiet (wrapper : Wrapper) (s : Container) :
    Quiet s (Pipeline.recordNonAsync wrapper s).2 := .exchange s rfl rfl

theorem acquire_quiet (p : Nat) (servlet : String) (s : Container) :
    Quiet s (Pipeline.acquire p servlet s).2 := by
  unfold Pipeline.acquire
  rw [Run.get_bind_apply]
  cases s.pipelines.find? p with
  | none => exact .refl s
  | some q =>
    let pool := (q.pool.acquire servlet).2
    exact (Quiet.updatePipeline s p (f := fun q => { q with pool }) fun _ => ⟨rfl, rfl⟩).trans (.note _ rfl)

theorem giveBack_quiet (p : Nat) (servlet : String) (chain : Chain) (s : Container) :
    Quiet s (Pipeline.giveBack p servlet chain s).2 := .updatePipeline s p fun _ => ⟨rfl, rfl⟩

theorem takeAsync_quiet (s : Container) : Quiet s (Pipeline.takeAsync s).2 := .exchange s rfl rfl

theorem freshSerial_quiet (s : Container) : Quiet s (freshSerial s).2 :=
  ⟨Nat.le_succ _, rfl, rfl, rfl, rfl, rfl, fun _ => rfl, fun _ => rfl, .refl s⟩

/-! ### Making components -/

/-- A computation that changes its container quietly, and gives a component, if it gives one,
under a number that was not in use. -/
def Makes (x : Run (Except Failure Component)) (s : Container) : Prop :=
  Quiet s (x s).2 ∧ ∀ c, (x s).1 = .ok (.ok c) → s.nextSerial ≤ c.serial ∧
    c.serial < (x s).2.nextSerial

theorem makeComponent_makes (announced : Bool) (name : String) (make : Nat → Making)
    (s : Container) : Makes (makeComponent announced name make) s := by
  have finish : ∀ (n : Nat) (u : Container), Quiet s u →
      Quiet s (Making.finish announced name (make n) u).2 ∧
        ∀ c, (Making.finish announced name (make n) u).1 = .ok (.ok c) → s.nextSerial ≤ c.serial ∧
          c.serial < (Making.finish announced name (make n) u).2.nextSerial := by
    intro n u quiet
    cases make n with
    | panicked message => exact ⟨quiet, by rintro c ⟨⟩⟩
    | refused failure => exact ⟨quiet, by rintro c ⟨⟩⟩
    | ready program =>
      refine ⟨quiet.trans ((freshSerial_quiet u).trans (.note _ rfl)), ?_⟩
      rintro c ⟨⟩
      exact ⟨quiet.nextSerial, Nat.lt_succ_self _⟩
  unfold Makes makeComponent
  rw [Run.get_bind_apply]
  cases announced with
  | true => exact finish _ _ ((Quiet.constructions s _).trans (.note _ rfl))
  | false => exact finish _ _ (.refl s)

theorem FilterConfig.make_makes {f : FilterConfig} {cls : FilterClass} (source : f.source = .made cls)
    (s : Container) : Makes f.make s := by
  unfold FilterConfig.make
  rw [source]
  exact makeComponent_makes _ _ _ s

theorem FilterConfig.make_quiet (f : FilterConfig) (s : Container) : Quiet s (f.make s).2 := by
  cases source : f.source with
  | given c =>
    unfold FilterConfig.make
    rw [source]
    exact .refl s
  | made cls => exact (f.make_makes source s).1

/-- A declared filter gives the instance that is there, or one that it makes and keeps, or none;
each instance that it gives is written down last. -/
theorem FilterConfig.obtain_cases (f : FilterConfig) (s : Container) :
    (∃ c, s.instances.find? f.serial = some c ∧
        f.obtain s = (.ok (.ok c), s.note (.supplied s.nesting f.serial c.serial))) ∨
      (∃ c t, s.instances.find? f.serial = none ∧ f.make s = (.ok (.ok c), t) ∧ f.obtain s =
        (.ok (.ok c), { t with instances := t.instances.insert f.serial c }.note
          (.supplied t.nesting f.serial c.serial))) ∨
      ∃ r t, f.obtain s = (r, t) ∧ Quiet s t ∧ ∀ c, r ≠ .ok (.ok c) := by
  unfold FilterConfig.obtain
  simp only [Run.get_bind_apply]
  cases found : s.instances.find? f.serial with
  | some c => exact .inl ⟨c, rfl, rfl⟩
  | none =>
    dsimp only
    have quiet := f.make_quiet s
    rcases made : f.make s with ⟨halt | failure | c, t⟩ <;> rw [made] at quiet
    · exact .inr (.inr ⟨_, t, Run.bind_of_error made, quiet, by rintro c ⟨⟩⟩)
    · exact .inr (.inr ⟨_, _, Run.bind_of_ok made, quiet.trans (.note t rfl), by rintro c ⟨⟩⟩)
    · exact .inr (.inl ⟨c, t, rfl, rfl, Run.bind_of_ok made⟩)

/-! ### Calm changes -/

/-- A change that leaves the chain and the registries of pipelines as they are. -/
structure Calm (s t : Container) : Prop where
  nextSerial : s.nextSerial ≤ t.nextSerial
  request : t.request.fixed = s.request.fixed
  chain : t.chain = s.chain
  nesting : t.nesting = s.nesting
  current : ∀ p, t.current p = s.current p
  executing : ∀ p, t.executing p = s.executing p
  journal : Appends (·.isCalm) s t

theorem Quiet.calm {s t : Container} (h : Quiet s t) : Calm s t :=
  ⟨h.nextSerial, h.request, h.chain, h.nesting, h.current, h.executing,
    h.journal.imp fun _ => Event.isCalm_of_isPlain⟩

theorem Calm.refl (s : Container) : Calm s s := (Quiet.refl s).calm

theorem Calm.trans {s t u : Container} (h₁ : Calm s t) (h₂ : Calm t u) : Calm s u :=
  ⟨Nat.le_trans h₁.nextSerial h₂.nextSerial, h₂.request.trans h₁.request, h₂.chain.trans h₁.chain,
    h₂.nesting.trans h₁.nesting, fun p => (h₂.current p).trans (h₁.current p),
    fun p => (h₂.executing p).trans (h₁.executing p), h₁.journal.trans h₂.journal⟩

theorem Calm.note (s : Container) {e : Event} (h : e.isCalm = true) : Calm s (s.note e) :=
  ⟨Nat.le_refl _, rfl, rfl, rfl, fun _ => rfl, fun _ => rfl, .note s h⟩

/-- A calm change in which no instance comes up. -/
structure Ebbs (s t : Container) : Prop extends Calm s t where
  instances : ∀ {k c}, t.instances.find? k = some c → s.instances.find? k = some c

theorem Quiet.ebbs {s t : Container} (h : Quiet s t) : Ebbs s t :=
  ⟨h.calm, fun found => h.instances ▸ found⟩

theorem Ebbs.refl (s : Container) : Ebbs s s := (Quiet.refl s).ebbs

theorem Ebbs.trans {s t u : Container} (h₁ : Ebbs s t) (h₂ : Ebbs t u) : Ebbs s u :=
  ⟨h₁.toCalm.trans h₂.toCalm, fun found => h₁.instances (h₂.instances found)⟩

theorem FilterConfig.release_ebbs (f : FilterConfig) (s : Container) : Ebbs s (f.release s) := by
  unfold FilterConfig.release
  split
  · refine ⟨⟨Nat.le_refl _, rfl, rfl, rfl, fun _ => rfl, fun _ => rfl, .note _ rfl⟩, fun {k c} found => ?_⟩
    change (s.instances.erase f.serial).find? k = some c at found
    rw [Dict.find?_erase] at found
    split at found
    · cases found
    · exact found
  · exact .refl s

theorem Registry.destroy_ebbs (r : Registry) (s : Container) : Ebbs s (r.destroy s) := by
  have filters : ∀ (fs : List FilterConfig) (s : Container),
      Ebbs s (fs.foldl (fun s f => f.release s) s) := by
    intro fs
    induction fs with
    | nil => exact Ebbs.refl
    | cons f rest ih => exact fun s => (f.release_ebbs s).trans (ih _)
  have servlets : ∀ (ws : List Wrapper) (s : Container), Ebbs s (ws.foldl (fun s w =>
      s.note (.destroyed w.servlet.serial w.servlet.name w.servlet.announced)) s) := by
    intro ws
    induction ws with
    | nil => exact Ebbs.refl
    | cons w rest ih => exact fun s => Ebbs.trans ⟨.note s rfl, id⟩ (ih _)
  exact (filters _ s).trans (servlets _ _)

theorem Registry.hold_ebbs (r : Registry) (s : Container) : Ebbs s (r.hold s) :=
  ⟨⟨Nat.le_refl _, rfl, rfl, rfl, fun _ => rfl, fun _ => rfl, .note _ rfl⟩, id⟩

theorem Registry.letGo_ebbs (r : Registry) (s : Container) : Ebbs s (r.letGo s) := by
  have left : Ebbs s ({ s with holders := s.holders.erase r.serial }.note (.released r.serial)) :=
    ⟨⟨Nat.le_refl _, rfl, rfl, rfl, fun _ => rfl, fun _ => rfl, .note _ rfl⟩, id⟩
  unfold Registry.letGo
  dsimp only
  split
  · exact left
  · exact left.trans (r.destroy_ebbs _)

theorem Registry.hold_calm (r : Registry) (s : Container) : Calm s (r.hold s) := (r.hold_ebbs s).toCalm

theorem Registry.letGo_calm (r : Registry) (s : Container) : Calm s (r.letGo s) :=
  (r.letGo_ebbs s).toCalm

/-- Obtaining an instance is calm but for writing the instance down, which it does at the level
of the chain and only when it gives one. -/
theorem FilterConfig.obtain_calm (f : FilterConfig) (s : Container) :
    (∃ c t, Calm s t ∧ f.obtain s = (.ok (.ok c), t.note (.supplied s.nesting f.serial c.serial))) ∨
      ∃ r t, f.obtain s = (r, t) ∧ Calm s t ∧ ∀ c, r ≠ .ok (.ok c) := by
  rcases f.obtain_cases s with ⟨c, -, given⟩ | ⟨c, t, -, made, given⟩ | ⟨r, t, failed, quiet, none⟩
  · exact .inl ⟨c, s, .refl s, given⟩
  · have calm : Calm s t := by
      have quiet := f.make_quiet s
      rw [made] at quiet
      exact quiet.calm
    refine .inl ⟨c, { t with instances := t.instances.insert f.serial c }, ?_, ?_⟩
    · exact ⟨calm.nextSerial, calm.request, calm.chain, calm.nesting, calm.current, calm.executing,
        calm.journal⟩
    · rw [given, calm.nesting]
  · exact .inr ⟨r, t, failed, quiet.calm, none⟩

theorem FilterConfig.obtain_chain (f : FilterConfig) (s : Container) :
    (f.obtain s).2.chain = s.chain := by
  rcases f.obtain_calm s with ⟨c, t, calm, given⟩ | ⟨r, t, given, calm, -⟩ <;> rw [given]
  · exact calm.chain
  · exact calm.chain

end ServletFilters
