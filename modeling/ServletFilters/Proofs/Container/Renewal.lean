import ServletFilters.Proofs.Container.Tenure

/-!
A pipeline that was reloaded is as good as new. From then on it does what a pipeline does that is
opened for the configuration of the reload, but that some filters may be made already, and that
chains may have more room, `reload_renews`.
-/

namespace ServletFilters

/-- What the constructors of a factory give does not depend on how often they were called. -/
structure ComponentFactory.Uncounted (components : ComponentFactory) : Prop where
  filter : ∀ {name cls}, components.filters.find? name = some cls →
    ∀ d a b, cls.make d a = cls.make d b
  servlet : ∀ {name cls}, components.servlets.find? name = some cls →
    ∀ entry a b, cls.make entry a = cls.make entry b

/-- What constructors give does not depend on how often they were called, and what components do does
not depend on their earlier calls or on how much room their chain has. -/
structure ComponentFactory.Renewable (components : ComponentFactory) : Prop where
  uncounted : components.Uncounted
  roomless : components.Roomless
  forgetful : components.Forgetful

def Registry.HasMade (r : Registry) (s : Container) (name : String) : Prop :=
  ∃ f ∈ r.filters.values, f.name = name ∧ f.isInitialised s = true

/-- An event without the numbers of objects, the counts of constructions, the room of chains, and
whether a pool had a chain. -/
def Event.anonymous : Event → Event
  | .constructing name _ => .constructing name 0
  | .constructed _ name => .constructed 0 name
  | .supplied level _ _ => .supplied level 0 0
  | .invoked level stage _ name depth => .invoked level stage 0 name depth
  | .destroyed _ name announced => .destroyed 0 name announced
  | .built _ filters servlets => .built 0 (filters.map fun _ => 0) (servlets.map fun _ => 0)
  | .held _ => .held 0
  | .released _ => .released 0
  | .installed _ _ => .installed 0 0
  | .traversed level _ _ servlet state => .traversed level 0 0 servlet state
  | .observed who (.chain view) => .observed who (.chain { view with capacity := 0 })
  | .measured (.poolAcquired _) => .measured (.poolAcquired false)
  | e => e

/-- The events of a pipeline in which filters of these names are made already, beside those of a new
pipeline, which has yet to make them. -/
inductive Event.Renewed (made : String → Prop) : List Event → List Event → Prop where
  | nil : Renewed made [] []
  | both {e e' events events'} : e'.anonymous = e.anonymous → Renewed made events events' →
      Renewed made (e :: events) (e' :: events')
  | constructing {name n events events'} : made name → Renewed made events events' →
      Renewed made events (.constructing name n :: events')
  | constructed {name n events events'} : made name → Renewed made events events' →
      Renewed made events (.constructed n name :: events')
  | destroyed {name n announced events events'} : made name → Renewed made events events' →
      Renewed made (.destroyed n name announced :: events) events'

structure Report.Renewed (made : String → Prop) (r r' : Report) : Prop where
  answer : r'.answer = r.answer
  events : Event.Renewed made r.events r'.events
  request : { r'.request with serial := 0, pipeline := none } =
    { r.request with serial := 0, pipeline := none }
  attached : r'.request.pipeline.isSome = r.request.pipeline.isSome
  response : { r'.response with serial := 0 } = { r.response with serial := 0 }
  lastServiced : r'.lastServiced = r.lastServiced

namespace Margin

/-- A pipeline that was in use before, and a new one. -/
def renewal (executor : Option Executor) (made : String → Prop) (p q : Nat) : Margin :=
  { pooling False executor fun _ => True with
    exact := False
    pipeline := fun a b => a = p ∧ b = q
    early := made
    first := fun e => ∃ n name announced, made name ∧ e = .destroyed n name announced
    second := fun e => ∃ n name, made name ∧ (e = .constructing name n ∨ e = .constructed n name)
    pooled := .inl rfl
    warned := .inl rfl
    pipeline_iff := by rintro a _ a' _ ⟨rfl, rfl⟩ ⟨rfl, rfl⟩; exact iff_of_true rfl rfl
    early_events := fun early => ⟨id, fun n => ⟨⟨n, _, early, .inl rfl⟩, ⟨n, _, early, .inr rfl⟩,
      fun announced => ⟨n, _, announced, early, rfl⟩⟩⟩ }

variable {executor : Option Executor} {made : String → Prop} {p q : Nat}

theorem even_renewal {components : ComponentFactory} (steady : components.Renewable) :
    (renewal executor made p q).Even components := by
  constructor
  · intro name cls found d a b _
    rw [steady.uncounted.filter found d a b]
    exact making_refl fun program ready => Program.like_self rfl
      (.inr (steady.roomless.filter found d b program ready))
      (.inr (steady.forgetful.filter found d b program ready))
  · intro name cls found entry a b _
    rw [steady.uncounted.servlet found entry a b]
    exact making_refl fun program ready => Program.like_self rfl
      (.inr (steady.roomless.servlet found entry b program ready))
      (.inr (steady.forgetful.servlet found entry b program ready))

theorem Retold.anonymous {e e' : Event} (h : (renewal executor made p q).Retold e e') :
    e'.anonymous = e.anonymous := by
  have blank : ∀ {l l' : List Nat}, l.length = l'.length →
      l'.map (fun _ => 0) = l.map fun _ => 0 := by
    intro l l' same
    rw [List.map_const', List.map_const', same]
  cases h with
  | built filters servlets => exact congrArg₂ (Event.built 0) (blank filters) (blank servlets)
  | viewed who equal =>
    have emptied := congrArg (fun v : ChainView => { v with capacity := 0 }) equal
    exact congrArg (fun v => Event.observed who (.chain v)) emptied
  | caught who same => rw [show _ = _ from same]
  | _ => rfl

theorem Accord.renewed {events events' : List Event}
    (h : (renewal executor made p q).Accord events events') :
    Event.Renewed made events events' := by
  induction h with
  | nil => exact .nil
  | both retold _ ih => exact .both retold.anonymous ih
  | first only _ ih =>
    obtain ⟨n, name, announced, early, rfl⟩ := only
    exact .destroyed early ih
  | second only _ ih =>
    obtain ⟨n, name, early, rfl | rfl⟩ := only
    · exact .constructing early ih
    · exact .constructed early ih

end Margin

/-- What corresponds in two pairings, first to itself and then to something else, as far as it belongs
to a registry. -/
def Registry.pairing (r : Registry) (i j : Pairing) : Pairing := fun a b o =>
  i a a o ∧ j a b o ∧ (a = r.serial ∨ ∃ f ∈ r.filters.values, a = f.serial)

theorem Registry.Like.both {m m' : Margin} {i j : Pairing} {r r' : Registry} (self : r.Like m' i r)
    (like : r.Like m j r') : r.Like m (r.pairing i j) r' := by
  have own : ∀ f ∈ r.filters.values, f.Like m' i f := List.forall₂_same.1 self.filters.values
  have filters : ∀ e ∈ r.filters.entries, e.2 ∈ r.filters.values :=
    fun e member => List.mem_map_of_mem member
  refine { like with
    paired := ⟨self.paired, like.paired, .inl rfl⟩
    filters := List.Forall₂.imp ?_ ((List.forall₂_and_left _ _).2 ⟨filters, like.filters⟩) }
  rintro ⟨name, f⟩ ⟨name', g⟩ ⟨member, same, alike⟩
  obtain ⟨cls, source, source', even, paired⟩ := alike.made
  obtain ⟨cls', again, -, -, paired'⟩ := (own f member).made
  obtain rfl := FilterSource.made.inj (source.symm.trans again)
  exact ⟨same, alike.definition, cls, source, source', even, paired', paired, .inr ⟨f, member, rfl⟩⟩

theorem Registry.pairing_fits {m m' : Margin} {r : Registry} {i j : Pairing}
    {s s' t u v : Container} (inexact : ¬ m.exact) (self : i.Fits m' s s') (fits : j.Fits m u v)
    (le : v.nextSerial ≤ t.nextSerial) : (r.pairing i j).Fits m s t where
  serial exact := absurd exact inexact
  counts exact := absurd exact inexact
  same exact := absurd exact inexact
  apart paired paired' := fits.apart paired.2.1 paired'.2.1
  role paired paired' := fits.role paired.2.1 paired'.2.1
  below paired := ⟨(self.below paired.1).1, Nat.lt_of_lt_of_le (fits.below paired.2.1).2 le⟩

section Start

variable {components : ComponentFactory} {executor : Option Executor} {made : String → Prop}
  {p q : Nat} {s t : Container}

theorem receive_same {m : Margin} (inexact : ¬ m.exact)
    (attached : ∀ k, s.request.pipeline = some k → m.pipeline k q)
    (unrecorded : s.lastServiced = none ∧ t.lastServiced = none) :
    SameExchange m s (t.receive s q) := by
  refine ⟨⟨_, _, rfl, ?_, fun exact => absurd exact inexact⟩,
    ⟨_, rfl, fun exact => absurd exact inexact⟩, ?_⟩
  · cases own : s.request.pipeline with
    | none => exact .none
    | some k => exact .some (attached k own)
  · change Option.Rel _ s.lastServiced t.lastServiced
    rw [unrecorded.1, unrecorded.2]
    exact .none

theorem Margin.Instance.renewed {chosen : Nat → Prop} {d : FilterDefinition} {cls : FilterClass}
    {c : Option Component} (own : (pooling True executor chosen).Instance d cls c c)
    (early : c.isSome = true → made d.name) :
    (renewal executor made p q).Instance d cls c Option.none := by
  cases c with
  | none => exact .none
  | some c =>
    cases own with
    | both _ origin => exact .early (early rfl) origin

theorem build_again {config : Config} (steady : components.Renewable) {u v : Container}
    {r : Registry} (built : Registry.build config components u = (.ok (.ok r), v))
    (executor : Option Executor) (made : String → Prop) (p : Nat) :
    ∃ r' w j, Registry.build config components {} = (.ok (.ok r'), w) ∧
      j.Fits (.renewal executor made p w.nextSerial) v w ∧
      r.Like (.renewal executor made p w.nextSerial) j r' := by
  have building (q : Nat) := build_building (m := .renewal executor made p q) config
    (Margin.even_renewal steady) (s := u) (t := {}) (i := fun _ _ _ => False)
    ⟨False.elim, False.elim, False.elim, False.elim, False.elim, False.elim⟩
  rw [built] at building
  rcases ran : Registry.build config components {} with ⟨halt | error | r', w⟩ <;>
    rw [ran] at building
  · obtain ⟨_, -, ends⟩ := building p
    cases ends
  · obtain ⟨_, -, ends⟩ := building p
    cases ends with
    | ok ends => cases ends
  · obtain ⟨j, grows, ends⟩ := building w.nextSerial
    cases ends with
    | ok ends =>
      cases ends with
      | ok like => exact ⟨r', w, j, rfl, grows.fits, like⟩

/-- A pipeline that was in use and a new one go the same way, if their registries are alike. -/
theorem Tenure.renewal {start start' : Config} (h : Tenure start components executor p s)
    (h' : Tenure start' components executor q t) (steady : components.Renewable)
    {x y : Pipeline} (found : s.pipelines.find? p = some x)
    (found' : t.pipelines.find? q = some y) (tracking : y.trackLastServiced = x.trackLastServiced)
    (unused : t.instances = {}) (early : ∀ name, x.registry.HasMade s name → made name)
    {j : Pairing} {u v : Container} (fits : j.Fits (.renewal executor made p q) u v)
    (le : v.nextSerial ≤ t.nextSerial)
    (like : x.registry.Like (.renewal executor made p q) j y.registry) :
    ∃ i old old', Parallel (.renewal executor made p q) old old' i s (t.receive s q) := by
  obtain ⟨i, _, _, self, own⟩ := h.like_self found
  obtain ⟨i', _, _, self', own'⟩ := h'.like_self found'
  have alike := own.registry.both like
  -- The numbers of filters are no numbers of registries.
  have filter : ∀ {f : FilterConfig}, f ∈ x.registry.filters.values →
      ∃ cls, i f.serial f.serial (some (f.definition, cls)) := by
    intro f member
    have alike := List.forall₂_same.1 own.registry.filters.values f member
    obtain ⟨cls, -, -, -, paired⟩ := alike.made
    exact ⟨cls, paired⟩
  have registry : ∀ {a b o}, x.registry.pairing i j a b o →
      (a = x.registry.serial ↔ b = y.registry.serial) :=
    fun paired => fits.apart paired.2.1 like.paired
  refine ⟨x.registry.pairing i j, s.journal, t.journal, ?_⟩
  constructor
  case fits =>
    exact x.registry.pairing_fits id self.fits fits (Nat.le_trans le (Nat.le_max_left _ _))
  case exchange =>
    refine receive_same id (fun k attached => ⟨?_, rfl⟩) ⟨h.unrecorded, h'.unrecorded⟩
    have same := self.pipeline
    rw [attached] at same
    cases same with
    | some here => exact here.2
  case chain =>
    change s.chain.Like _ _ t.chain
    have empty : s.chain = {} := h.sound.chain
    have empty' : t.chain = {} := h'.sound.chain
    rw [empty, empty']
    exact ⟨.nil, rfl, .none, rfl, .inr ⟨rfl, rfl⟩, rfl, fun _ => rfl⟩
  case nesting => exact h'.nesting.trans h.nesting.symm
  case instances =>
    -- The new pipeline has made nothing, so what the first one has is early.
    rintro a b d cls ⟨kept, paired, rfl | ⟨f, member, rfl⟩⟩
    · cases self.fits.role own.registry.paired kept
    · change Margin.Instance _ d cls _ (t.instances.find? b)
      obtain ⟨cls', paired'⟩ := filter member
      cases self.fits.role paired' kept
      rw [unused]
      exact (self.instances kept).renewed fun there => early _ ⟨f, member, rfl, there⟩
  case holders =>
    intro a b o paired
    change t.holders.count b = s.holders.count a
    rw [h.count found, h'.count found']
    simp only [registry paired]
  case bounded => exact self.bounded
  case bounded' =>
    have bounded := self'.bounded.later (Nat.le_max_left t.nextSerial s.nextSerial)
    refine { bounded with response := ?_ }
    exact Nat.lt_of_lt_of_le self.bounded.response (Nat.le_max_right _ _)
  case pipelines =>
    rintro a b ⟨rfl, rfl⟩
    change Option.Rel _ (s.pipelines.find? a) (t.pipelines.find? b)
    rw [found, found']
    exact .some ⟨alike, (h'.own found').trans (h.own found).symm,
      h.own found ▸ Margin.even_renewal steady, own.executor, own'.executor, tracking, own.tidy,
      own'.tidy, False.elim⟩
  case memory => exact False.elim
  case journal => exact ⟨[], [], rfl, rfl, .nil⟩

end Start

theorem Use.refused {p : Nat} {s : Container} {u : Use} (h : u.isRefused p s = true) :
    ∃ config, u = .reload config ∧ (Pipeline.reload p config s).1 ≠ .ok (.ok ()) := by
  cases u with
  | reload config =>
    refine ⟨config, rfl, fun done => ?_⟩
    unfold isRefused at h
    dsimp only at h
    rw [done] at h
    cases h
  | _ => cases h

/-- Clients are told the same within the margin, whatever reloads fail meanwhile in the first run. -/
theorem outcomes_like {m : Margin} {p q : Nat} {old old' : List Event} {i : Pairing}
    {s t : Container} (inexact : ¬ m.exact) (corresponds : m.pipeline p q)
    (h : Parallel m old old' i s t) (unrecorded : s.lastServiced = none ∧ t.lastServiced = none)
    (uses : List Use) :
    List.Forall₂ (Report.Like m) ((s.outcomes p uses).map (·.2))
      (t.reports q ((s.outcomes p uses).map (·.1))) := by
  induction uses generalizing i s t old old' with
  | nil => exact .nil
  | cons u rest ih =>
    unfold Container.outcomes
    split
    · rename_i refused
      -- Only the first run reloads, and what building made before it failed is never used.
      obtain ⟨config, rfl, failed⟩ := Use.refused refused
      obtain ⟨n, counts, new, le, grown⟩ := reload_failed failed
      have same : s.use p (.reload config) = s.grown n counts new :=
        (Run.bind_pure_snd (Pipeline.reload p config) Answer.reloaded s).trans grown
      rw [same]
      exact ih (h.growFirst inexact counts new le) unrecorded
    · obtain ⟨like, ⟨j, -, after⟩, settles, settles'⟩ := use_like corresponds h unrecorded u
      exact .cons like (ih after ⟨settles.unrecorded unrecorded.1, settles'.unrecorded unrecorded.2⟩)

theorem Report.Like.renewed {executor : Option Executor} {made : String → Prop} {p q : Nat}
    {r r' : Report} (h : r.Like (.renewal executor made p q) r') : r.Renewed made r' := by
  obtain ⟨n, k, request, attached, -⟩ := h.request
  obtain ⟨l, response, -⟩ := h.response
  refine ⟨?_, h.events.renewed, ?_, ?_, ?_, ?_⟩
  · exact ((h.answer.imp id fun like => like.eq rfl).eq).symm
  · rw [request]
  · rw [request]
    exact rel_isSome attached
  · rw [response]
  · rw [h.unrecorded.1, h.unrecorded.2]

/-- A pipeline that runs a configuration, however it came to run it, is as good as one that is opened
for it. -/
theorem Tenure.renews {start : Config} {components : ComponentFactory} {options : PipelineOptions}
    {p : Nat} {s : Container} (h : Tenure start components options.executor p s)
    (steady : components.Renewable)
    {x : Pipeline} (found : s.pipelines.find? p = some x) {config : Config} (runs : x.Runs config) :
    let renewed := { options with trackLastServiced := config.isolation.trackLastServiced }
    ∃ q, (Pipeline.openFor config components renewed {}).1 = .ok (.ok q) ∧
      ∀ uses, List.Forall₂ (Report.Renewed (x.registry.HasMade s))
        ((s.outcomes p uses).map (·.2))
        (((Container.opened config components renewed).receive s q).reports q
          ((s.outcomes p uses).map (·.1))) := by
  intro renewed
  obtain ⟨⟨u, v, built⟩, tracking⟩ := runs
  rw [h.own found] at built
  obtain ⟨r, w, j, ran, fits, like⟩ := build_again steady built options.executor
    (x.registry.HasMade s) p
  have opened : (Pipeline.openFor config components renewed {}).1 = .ok (.ok w.nextSerial) :=
    congrArg Prod.fst (Run.bind_of_ok ran)
  obtain ⟨_, _, again, -, ⟨_, _, _, grown⟩, created⟩ := openFor_ok opened
  obtain ⟨⟨⟩, rfl⟩ := Prod.mk.inj (ran.symm.trans again)
  have new := tenure_opened opened
  refine ⟨w.nextSerial, opened, fun uses => ?_⟩
  rw [created] at new ⊢
  obtain ⟨i, _, _, parallel⟩ := h.renewal new steady found (Dict.find?_insert_self ..)
    tracking.symm (congrArg Container.instances grown) (fun _ => id) fits (Nat.le_succ _) like
  exact (outcomes_like id (show p = p ∧ _ from ⟨rfl, rfl⟩) parallel
    ⟨h.unrecorded, new.unrecorded⟩ uses).imp fun _ _ like => like.renewed

/-- A reload that succeeds, whenever it happens, leaves the pipeline running the new configuration,
with the executor, the components and the pool limit that it has had; one that fails changes no
pipeline. After any history the pipeline has the registry that was installed last, and runs what it
was opened for, or what a reload in that history was made for that has left it as it is. Whatever
configuration it runs, requests have the same outcome in a pipeline that is opened for that
configuration, but for filters that were made before and for the room that chains have, and
whatever reloads fail in between. -/
theorem reload_renews {config : Config} {components : ComponentFactory} {options : PipelineOptions}
    {p : Nat} (uncounted : components.Uncounted) (roomless : components.Roomless)
    (forgetful : components.Forgetful)
    (opened : (Pipeline.openFor config components options {}).1 = .ok (.ok p)) :
    (∀ t c x, t.pipelines.find? p = some x → (Pipeline.reload p c t).1 = .ok (.ok ()) →
      ∃ y, (Pipeline.reload p c t).2.pipelines.find? p = some y ∧ y.Runs c ∧
        y.executor = x.executor ∧ y.components = x.components ∧ y.pool.maxIdle = x.pool.maxIdle) ∧
    (∀ t c, (Pipeline.reload p c t).1 ≠ .ok (.ok ()) →
      (Pipeline.reload p c t).2.pipelines = t.pipelines) ∧
    ∀ history : List Use,
      let s := history.foldl (Container.use p) (.opened config components options)
      let start := { config with isolation := { trackLastServiced := options.trackLastServiced } }
      ∃ x, s.pipelines.find? p = some x ∧ lastInstalled p none s.journal = some x.registry.serial ∧
        (∃ c, x.Runs c ∧ (c = start ∨
          ∃ t, x.LeftBy p c t ∧ (Pipeline.reload p c t).2.journal <:+ s.journal)) ∧
        ∀ c, x.Runs c →
          let renewed := { options with trackLastServiced := c.isolation.trackLastServiced }
          ∃ q, (Pipeline.openFor c components renewed {}).1 = .ok (.ok q) ∧
            ∀ uses, List.Forall₂ (Report.Renewed (x.registry.HasMade s))
              ((s.outcomes p uses).map (·.2))
              (((Container.opened c components renewed).receive s q).reports q
                ((s.outcomes p uses).map (·.1))) := by
  refine ⟨?_, ?_, ?_⟩
  · intro t c x found done
    exact reload_runs found (Prod.ext done rfl)
  · intro t c failed
    obtain ⟨_, _, _, -, grown⟩ := reload_failed failed
    rw [grown]
    rfl
  · intro history s start
    have tenure : Tenure start components options.executor p s :=
      (tenure_opened opened).uses history
    obtain ⟨x, found, -, -, runs⟩ := tenure.pipeline
    have installed : s.bound p = some x.registry.serial :=
      congrArg (Option.map _) (current_eq found)
    exact ⟨x, found, tenure.installed.symm.trans installed, runs,
      fun c runs => tenure.renews ⟨uncounted, roomless, forgetful⟩ found runs⟩

def Report.constructions (r : Report) : List String :=
  r.events.filterMap fun e =>
    match e with
    | .constructing name _ => some name
    | _ => none

def Report.rooms (r : Report) : List Nat :=
  r.events.filterMap fun e =>
    match e with
    | .observed _ (.chain view) => some view.capacity
    | _ => none

/-- A configuration of one filter, which reports its chain, in front of a servlet. -/
def lookoutConfig : Config where
  filters := [{ name := "lookout", className := "lookout" }]
  filterMappings :=
    [{ filterName := "lookout", urlPatterns := ["*"], dispatchers := ["REQUEST", "FORWARD"] }]
  servlets := [{ name := "page", className := "page", urlPatterns := ["/"] }]

/-- A configuration of many filters in front of a servlet of the same name. -/
def crowdedConfig : Config :=
  let names := ["a", "b", "c", "d", "e", "f", "g", "h", "i", "j", "k"]
  { filters := names.map fun name => { name, className := "pass" }
    filterMappings := names.map fun name => { filterName := name, urlPatterns := ["*"] }
    servlets := [{ name := "page", className := "turn", urlPatterns := ["/"] }] }

/-- Their classes. The second servlet gives its pipeline the first configuration, and has the request
go through the filter there. -/
def lookoutComponents : ComponentFactory where
  filters := ⟨[("lookout", ⟨true, fun _ _ =>
      .ready (.chain .observe fun _ => .chain .proceed .finish)⟩),
    ("pass", ⟨true, fun _ _ => .ready (.chain .proceed .finish)⟩)]⟩
  servlets := ⟨[("page", ⟨true, fun _ _ => .ready .done⟩),
    ("turn", ⟨true, fun _ _ => .ready
      (.reload lookoutConfig fun _ => .dispatch .forward (.path "/") .finish)⟩)]⟩

theorem uncounted_lookout : lookoutComponents.Uncounted := by
  constructor
  · intro name cls found
    have member := Dict.mem_values_of_find? found
    rcases List.mem_pair.1 member with rfl | rfl <;> exact fun _ _ _ => rfl
  · intro name cls found
    have member := Dict.mem_values_of_find? found
    rcases List.mem_pair.1 member with rfl | rfl <;> exact fun _ _ _ => rfl

theorem only_lookout : lookoutComponents.Only (· ≠ .retrieve) (· ≠ .gauge) := by
  constructor
  · intro name cls found d n program ready
    have member := Dict.mem_values_of_find? found
    rcases List.mem_pair.1 member with rfl | rfl <;> obtain rfl := Making.ready.inj ready
    · exact ⟨by rintro ⟨⟩, fun _ => ⟨by rintro ⟨⟩, fun _ => trivial⟩⟩
    · exact ⟨by rintro ⟨⟩, fun _ => trivial⟩
  · intro name cls found entry n program ready
    have member := Dict.mem_values_of_find? found
    rcases List.mem_pair.1 member with rfl | rfl <;> obtain rfl := Making.ready.inj ready
    · trivial
    · exact fun _ _ => trivial

/-- A pipeline in which a servlet has reloaded the configuration does what a new one does, also
after a reload that was refused. -/
theorem reload_renews_crowded :
    (Pipeline.openFor crowdedConfig lookoutComponents {} {}).1 = .ok (.ok 14) ∧
      let s := [.request {}, .service 20].foldl (Container.use 14)
        (.opened crowdedConfig lookoutComponents {})
      let uses : List Use := [.reload { defaultServlet := some "page" }, .request {}, .service 20]
      uses.map (·.isRefused 14 s) = [true, false, false] ∧
      ∃ x c q, s.pipelines.find? 14 = some x ∧ x.Runs c ∧
        List.Forall₂ (Report.Renewed (x.registry.HasMade s)) ((s.outcomes 14 uses).map (·.2))
          (((Container.opened c lookoutComponents
              { trackLastServiced := c.isolation.trackLastServiced }).receive s q).reports q
            ((s.outcomes 14 uses).map (·.1))) := by
  have opened : (Pipeline.openFor crowdedConfig lookoutComponents {} {}).1 = .ok (.ok 14) := by
    decide +kernel
  obtain ⟨-, -, renews⟩ := reload_renews uncounted_lookout
    (only_lookout.imp (fun _ _ => trivial) fun _ other => other)
    (only_lookout.imp (fun _ other => other) fun _ _ => trivial) opened
  obtain ⟨x, found, -, ⟨c, runs, -⟩, same⟩ := renews [.request {}, .service 20]
  obtain ⟨q, -, like⟩ := same c runs
  exact ⟨opened, by decide +kernel, x, c, q, found, runs, like _⟩

/-- The filter answers with how many calls of it there were, up to two, and with the room that its
chain has. -/
def mindfulComponents : ComponentFactory :=
  lookoutComponents.registerFilter "lookout" ⟨true, fun _ _ => .ready
    (.act .retrieve fun kept => .act (.remember "called") fun _ => .chain .gauge fun room =>
      .act (.write [if kept.isSome then 2 else 1, UInt8.ofNat room]) fun _ =>
        .chain .proceed .finish)⟩

/-- It does not do so exactly: its filter is made already, and its chain has the room that the one
of the crowded configuration had. A filter that remembers its calls or asks for that room tells the
difference in its response. -/
theorem reload_renews_inexactly :
    let s := [.request {}, .service 20].foldl (Container.use 14)
      (.opened crowdedConfig lookoutComponents {})
    let t := Container.opened lookoutConfig lookoutComponents {}
    let s' := [.request {}, .service 20].foldl (Container.use 14)
      (.opened crowdedConfig mindfulComponents {})
    let t' := Container.opened lookoutConfig mindfulComponents {}
    (s.current 14).map (fun r => r.filters.keys) = some ["lookout"] ∧
      (s.reports 14 [.request {}, .service 20]).map Report.constructions ≠
        (t.reports 4 [.request {}, .service 20]).map Report.constructions ∧
      (s.reports 14 [.request {}, .service 20]).map Report.rooms ≠
        (t.reports 4 [.request {}, .service 20]).map Report.rooms ∧
      (s'.reports 14 [.request {}, .service 20]).map (·.response.body) = [[], [2, 20]] ∧
      (t'.reports 4 [.request {}, .service 20]).map (·.response.body) = [[], [1, 10]] := by
  decide +kernel

end ServletFilters
