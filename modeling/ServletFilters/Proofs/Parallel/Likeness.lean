import Mathlib.Data.List.Forall2
import ServletFilters.Proofs.Component.Restraint
import ServletFilters.Proofs.Container.Changes

/-!
When two runs go the same way. A margin says in what they may differ; within it programs, plans of
executors, components, registries, chains and journals of one run are like those of the other.
-/

namespace ServletFilters

/-- Two results that are both values or both errors, in one relation or the other. -/
inductive Ends (E : ε → ε' → Prop) (A : α → β → Prop) : Except ε α → Except ε' β → Prop where
  | ok {a b} : A a b → Ends E A (.ok a) (.ok b)
  | error {e f} : E e f → Ends E A (.error e) (.error f)

theorem Ends.refl {E : ε → ε → Prop} {A : α → α → Prop} (errors : ∀ e, E e e) (values : ∀ a, A a a) :
    ∀ r, Ends E A r r
  | .ok a => .ok (values a)
  | .error e => .error (errors e)

theorem Ends.eq {r r' : Except ε α} (h : Ends Eq Eq r r') : r = r' := by
  cases h with
  | ok same => rw [same]
  | error same => rw [same]

theorem Ends.imp {E F : ε → ε' → Prop} {A B : α → β → Prop} {r : Except ε α} {r' : Except ε' β}
    (h : Ends E A r r') (errors : ∀ {e f}, E e f → F e f) (values : ∀ {a b}, A a b → B a b) :
    Ends F B r r' := by
  cases h with
  | ok a => exact .ok (values a)
  | error e => exact .error (errors e)

theorem rel_cases {R : α → β → Prop} {x : Option α} {y : Option β} (h : Option.Rel R x y) :
    (x = none ∧ y = none) ∨ ∃ a b, x = some a ∧ y = some b ∧ R a b := by
  cases h with
  | none => exact .inl ⟨rfl, rfl⟩
  | some related => exact .inr ⟨_, _, rfl, rfl, related⟩

theorem rel_isSome {R : α → β → Prop} {x : Option α} {y : Option β} (h : Option.Rel R x y) :
    y.isSome = x.isSome := by
  cases h <;> rfl

theorem rel_find? {R : α → β → Prop} {p : α → Bool} {q : β → Bool}
    (even : ∀ {a b}, R a b → q b = p a) {l : List α} {l' : List β} (h : List.Forall₂ R l l') :
    Option.Rel R (l.find? p) (l'.find? q) := by
  induction h with
  | nil => exact .none
  | @cons a b _ _ related _ ih =>
    rw [List.find?_cons, List.find?_cons, even related]
    cases p a with
    | true => exact .some related
    | false => exact ih

theorem rel_getElem? {R : α → β → Prop} {l : List α} {l' : List β} (h : List.Forall₂ R l l')
    (n : Nat) : Option.Rel R l[n]? l'[n]? := by
  induction h generalizing n with
  | nil => exact .none
  | cons related _ ih =>
    cases n with
    | zero => exact .some related
    | succ n => exact ih n

/-! ### Dictionaries -/

def Dict.Like {κ : Type} (R : α → β → Prop) (d : Dict κ α) (e : Dict κ β) : Prop :=
  List.Forall₂ (fun x y => y.1 = x.1 ∧ R x.2 y.2) d.entries e.entries

namespace Dict.Like

variable {κ α β : Type} {R : α → β → Prop} {d : Dict κ α} {e : Dict κ β}

theorem imp {S : α → β → Prop} (h : d.Like R e) (weaker : ∀ {a b}, R a b → S a b) : d.Like S e :=
  List.Forall₂.imp (fun _ _ like => ⟨like.1, weaker like.2⟩) h

theorem values (h : d.Like R e) : List.Forall₂ R d.values e.values := by
  unfold Dict.values
  rw [List.forall₂_map_left_iff, List.forall₂_map_right_iff]
  exact List.Forall₂.imp (fun _ _ like => like.2) h

theorem find? [DecidableEq κ] (h : d.Like R e) (k : κ) : Option.Rel R (d.find? k) (e.find? k) := by
  obtain ⟨l⟩ := d
  obtain ⟨l'⟩ := e
  change List.Forall₂ _ l l' at h
  change Option.Rel R (l.lookup k) (l'.lookup k)
  induction h with
  | nil => exact .none
  | @cons x y _ _ like _ ih =>
    rw [List.lookup_cons, List.lookup_cons, like.1]
    cases k == x.1 with
    | true => exact .some like.2
    | false => exact ih

theorem insert [DecidableEq κ] (h : d.Like R e) (k : κ) {a : α} {b : β} (related : R a b) :
    (d.insert k a).Like R (e.insert k b) := by
  obtain ⟨l⟩ := d
  obtain ⟨l'⟩ := e
  change List.Forall₂ _ l l' at h
  have keys : l'.any (fun y => y.1 == k) = l.any (fun x => x.1 == k) := by
    induction h with
    | nil => rfl
    | cons like _ ih => rw [List.any_cons, List.any_cons, like.1, ih]
  unfold Dict.insert
  rw [keys]
  split
  · unfold Dict.Like
    rw [List.forall₂_map_left_iff, List.forall₂_map_right_iff]
    refine List.Forall₂.imp (fun x y like => ?_) h
    rw [like.1]
    split
    · exact ⟨rfl, related⟩
    · exact like
  · exact List.rel_append h (.cons ⟨rfl, related⟩ .nil)

end Dict.Like

/-! ### Plans and programs -/

/-- Plans that run their step and report alike, given results of a step in one relation, and that
answer with results in another. -/
inductive Plan.Like (F G : Failure → Failure → Prop) : Plan → Plan → Prop where
  | finish {r r'} : Ends G Eq r r' → Like F G (.finish r) (.finish r')
  | panic (message) : Like F G (.panic message) (.panic message)
  | report {plan plan'} : Like F G plan plan' → Like F G (.report plan) (.report plan')
  | run {next next'} : (∀ r r', Ends F Eq r r' → Like F G (next r) (next' r')) →
      Like F G (.run next) (.run next')

theorem Plan.like_self (plan : Plan) : plan.Like Eq Eq plan := by
  induction plan with
  | finish result => exact .finish (.refl (fun _ => rfl) (fun _ => rfl) result)
  | panic message => exact .panic message
  | report next ih => exact .report ih
  | run next ih => exact .run fun r r' same => same.eq ▸ ih r

/-- What a reload logs where the configuration asks for another way of execution. -/
def LogEntry.executionChanged : LogEntry :=
  ⟨.warn, "Privileged execution setting changed; restart required for it to apply", []⟩

/-- What two runs may differ in. -/
structure Margin where
  /-- Whether the numbers of objects, the counts of constructions and what components keep are the
  same. -/
  exact : Prop
  /-- Whether the rooms of chains are the same, and so are the pools. -/
  room : Prop
  /-- How a failure that a chain reports in the first run may look in the second. -/
  failure : Failure → Failure → Prop
  /-- The same for failures that come out of a component or an executor. -/
  raised : Failure → Failure → Prop
  executor : Option Executor
  executor' : Option Executor
  pipeline : Nat → Nat → Prop
  /-- The names of filters that may have been made early in the first run. -/
  early : String → Prop
  /-- Events that may be missing in the second run. -/
  first : Event → Prop
  second : Event → Prop
  failure_refl : ∀ f, failure f f
  kind : ∀ {f g}, failure f g → g.kind = f.kind
  message : ∀ {f g}, failure f g → g.message = f.message
  raised_of_failure : ∀ {f g}, failure f g → raised f g
  classify : ∀ {f g}, raised f g → ∀ stage, failure (f.classify stage) (g.classify stage)
  classifyPrivileged : ∀ {f g}, raised f g → failure f.classifyPrivileged g.classifyPrivileged
  plan : ∀ operation principal, ((executor.getD .direct) operation principal).Like failure raised
    ((executor'.getD .direct) operation principal)
  pooled : executor.isNone = executor'.isNone ∨
    (¬ room ∧ executor = none ∧ executor'.isNone = false ∧
      ∀ hit, first (.measured (.poolAcquired hit)))
  warned : executor.isSome = executor'.isSome ∨
    (first (.logged .executionChanged) ∧ second (.logged .executionChanged))
  pipeline_iff : ∀ {p q p' q'}, pipeline p q → pipeline p' q' → (p = p' ↔ q = q')
  early_events : ∀ {name}, early name → ¬ exact ∧ ∀ n,
    second (.constructing name n) ∧ second (.constructed n name) ∧
      ∀ announced, first (.destroyed n name announced)

namespace Margin

variable (m : Margin)

abbrev Result : ServletFilters.Result → ServletFilters.Result → Prop := Ends m.failure Eq

theorem result_refl (r : ServletFilters.Result) : m.Result r r :=
  .refl m.failure_refl (fun _ => rfl) r

/-- How an action is answered in both runs. -/
def Answered : (action : Action) → action.Answer → action.Answer → Prop
  | .retrieve => fun a b => m.exact → a = b
  | _ => fun a b => a = b

def Told : (action : ChainAction) → action.Answer → action.Answer → Prop
  | .proceed => m.Result
  | .gauge => fun a b => m.room → a = b
  | _ => fun a b => a = b

/-- An event of the first run as the second run tells it. -/
inductive Retold : Event → Event → Prop where
  | same (e) : Retold e e
  | constructing (name) {a b} : (m.exact → a = b) → Retold (.constructing name a) (.constructing name b)
  | constructed (name) {c d} : (m.exact → c = d) → Retold (.constructed c name) (.constructed d name)
  | supplied (level) {f g c d} : (m.exact → f = g ∧ c = d) →
      Retold (.supplied level f c) (.supplied level g d)
  | invoked (level stage name depth) {c d} : (m.exact → c = d) →
      Retold (.invoked level stage c name depth) (.invoked level stage d name depth)
  | destroyed (name announced) {c d} : (m.exact → c = d) →
      Retold (.destroyed c name announced) (.destroyed d name announced)
  | built {r r' filters filters' servlets servlets'} : filters.length = filters'.length →
      servlets.length = servlets'.length →
      (m.exact → r = r' ∧ filters = filters' ∧ servlets = servlets') →
      Retold (.built r filters servlets) (.built r' filters' servlets')
  | held {r r'} : (m.exact → r = r') → Retold (.held r) (.held r')
  | released {r r'} : (m.exact → r = r') → Retold (.released r) (.released r')
  | installed {p p' r r'} : m.pipeline p p' → (m.exact → r = r') →
      Retold (.installed p r) (.installed p' r')
  | traversed (level servlet state) {p p' r r'} : m.pipeline p p' → (m.exact → r = r') →
      Retold (.traversed level p r servlet state) (.traversed level p' r' servlet state)
  | viewed (who) {v w : ChainView} : { w with capacity := v.capacity } = v →
      Retold (.observed who (.chain v)) (.observed who (.chain w))
  | caught (who) {f g} : m.failure f g → Retold (.observed who (.caught f)) (.observed who (.caught g))
  | acquired (hit hit') : Retold (.measured (.poolAcquired hit)) (.measured (.poolAcquired hit'))

/-- The events of the first run as the second run tells them, those apart that only one has. -/
inductive Accord : List Event → List Event → Prop where
  | nil : Accord [] []
  | both {e e' events events'} : m.Retold e e' → Accord events events' →
      Accord (e :: events) (e' :: events')
  | first {e events events'} : m.first e → Accord events events' → Accord (e :: events) events'
  | second {e' events events'} : m.second e' → Accord events events' → Accord events (e' :: events')

variable {m}

theorem Retold.of_eq {e e' : Event} (h : e = e') : m.Retold e e' := h ▸ .same e

/-- In exact runs events are the same, but for views of chains, failures and chains that pools had. -/
theorem Retold.exact_cases {e e' : Event} (h : m.Retold e e') (exact : m.exact)
    (pipelines : ∀ {p q}, m.pipeline p q → p = q) :
    e = e' ∨
      (∃ who v w, { w with capacity := v.capacity } = v ∧ e = .observed who (.chain v) ∧
        e' = .observed who (.chain w)) ∨
      (∃ who f g, m.failure f g ∧ e = .observed who (.caught f) ∧ e' = .observed who (.caught g)) ∨
      ∃ hit hit', e = .measured (.poolAcquired hit) ∧ e' = .measured (.poolAcquired hit') := by
  cases h with
  | same => exact .inl rfl
  | constructing _ equal => exact .inl (by rw [equal exact])
  | constructed _ equal => exact .inl (by rw [equal exact])
  | supplied _ equal => exact .inl (by rw [(equal exact).1, (equal exact).2])
  | invoked _ _ _ _ equal => exact .inl (by rw [equal exact])
  | destroyed _ _ equal => exact .inl (by rw [equal exact])
  | built _ _ equal => exact .inl (by rw [(equal exact).1, (equal exact).2.1, (equal exact).2.2])
  | held equal => exact .inl (by rw [equal exact])
  | released equal => exact .inl (by rw [equal exact])
  | installed corresponds equal => exact .inl (by rw [pipelines corresponds, equal exact])
  | traversed _ _ _ corresponds equal => exact .inl (by rw [pipelines corresponds, equal exact])
  | viewed who same => exact .inr (.inl ⟨who, _, _, same, rfl, rfl⟩)
  | caught who alike => exact .inr (.inr (.inl ⟨who, _, _, alike, rfl, rfl⟩))
  | acquired hit hit' => exact .inr (.inr (.inr ⟨hit, hit', rfl, rfl⟩))

theorem Accord.append {later later' earlier earlier' : List Event} (h : m.Accord later later')
    (before : m.Accord earlier earlier') : m.Accord (later ++ earlier) (later' ++ earlier') := by
  induction h with
  | nil => exact before
  | both retold _ ih => exact .both retold ih
  | first only _ ih => exact .first only ih
  | second only _ ih => exact .second only ih

end Margin

/-- Programs that do the same as long as they are answered the same within a margin. -/
inductive Program.Like (m : Margin) : Program → Program → Prop where
  | finish {r r'} : m.Result r r' → Like m (.finish r) (.finish r')
  | panic (message) : Like m (.panic message) (.panic message)
  | act (action) {next next'} : (∀ a b, m.Answered action a b → Like m (next a) (next' b)) →
      Like m (.act action next) (.act action next')
  | caught {f g} {next next' : Unit → Program} : m.failure f g → (∀ a, Like m (next a) (next' a)) →
      Like m (.act (.observe (.caught f)) next) (.act (.observe (.caught g)) next')
  | chain (action) {next next'} : (∀ a b, m.Told action a b → Like m (next a) (next' b)) →
      Like m (.chain action next) (.chain action next')
  | dispatch (dispatcher target) {next next'} :
      (∀ r r', m.Result r r' → Like m (next r) (next' r')) →
      Like m (.dispatch dispatcher target next) (.dispatch dispatcher target next')
  | withResponse (response) {body body' next next'} : Like m body body' →
      (∀ r r' left, m.Result r r' → Like m (next r left) (next' r' left)) →
      Like m (.withResponse response body next) (.withResponse response body' next')
  | reload (config) {next next'} : (∀ r r', m.Result r r' → Like m (next r) (next' r')) →
      Like m (.reload config next) (.reload config next')

/-- Where failures are the same, a program does what it does, unless it asks for what differs. -/
theorem Program.like_self {m : Margin} (plain : m.failure = Eq) {p : Program}
    (rooms : m.room ∨ p.Roomless) (kept : m.exact ∨ p.Forgetful) : p.Like m p := by
  have same : ∀ {r r'}, m.Result r r' → r = r' := fun ends =>
    (ends.imp (F := Eq) (fun like => by rwa [plain] at like) id).eq
  induction p with
  | finish result => exact .finish (m.result_refl result)
  | panic message => exact .panic message
  | act action next ih =>
    refine .act action fun a b answered => ?_
    have equal : a = b := by
      cases action with
      | retrieve => exact answered (kept.resolve_right fun only => only.1 rfl)
      | _ => exact answered
    exact equal ▸ ih a (rooms.imp_right fun only => only.2 a) (kept.imp_right fun only => only.2 a)
  | chain action next ih =>
    refine .chain action fun a b told => ?_
    have equal : a = b := by
      cases action with
      | proceed => exact same told
      | gauge => exact told (rooms.resolve_right fun only => only.1 rfl)
      | _ => exact told
    exact equal ▸ ih a (rooms.imp_right fun only => only.2 a) (kept.imp_right fun only => only.2 a)
  | dispatch dispatcher target next ih =>
    exact .dispatch _ _ fun r r' ends => same ends ▸
      ih r (rooms.imp_right fun only => only r) (kept.imp_right fun only => only r)
  | withResponse response body next inside ih =>
    refine .withResponse response (inside (rooms.imp_right And.left) (kept.imp_right And.left)) ?_
    exact fun r r' left ends => same ends ▸ ih r left (rooms.imp_right fun only => only.2 r left)
      (kept.imp_right fun only => only.2 r left)
  | reload config next ih =>
    exact .reload _ fun r r' ends => same ends ▸
      ih r (rooms.imp_right fun only => only r) (kept.imp_right fun only => only r)

namespace Margin

variable (m : Margin)

inductive Making : ServletFilters.Making → ServletFilters.Making → Prop where
  | ready {p q} : p.Like m q → Making (.ready p) (.ready q)
  | refused (failure) : Making (.refused failure) (.refused failure)
  | panicked (message) : Making (.panicked message) (.panicked message)

/-- A class that makes like components at like times. -/
def EvenFilter (cls : FilterClass) : Prop :=
  ∀ d a b, (m.exact → a = b) → m.Making (cls.make d a) (cls.make d b)

def EvenServlet (cls : ServletClass) : Prop :=
  ∀ entry a b, (m.exact → a = b) → m.Making (cls.make entry a) (cls.make entry b)

variable {m} in
theorem making_refl {making : ServletFilters.Making}
    (alike : ∀ p, making = .ready p → p.Like m p) : m.Making making making := by
  cases making with
  | ready p => exact .ready (alike p rfl)
  | refused failure => exact .refused failure
  | panicked message => exact .panicked message

structure Even (components : ComponentFactory) : Prop where
  filter : ∀ {name cls}, components.filters.find? name = some cls → m.EvenFilter cls
  servlet : ∀ {name cls}, components.servlets.find? name = some cls → m.EvenServlet cls

end Margin

/-- Which numbers of two containers correspond. A filter comes with the definition and the class
that it is made from; a registry comes without. -/
abbrev Pairing := Nat → Nat → Option (FilterDefinition × FilterClass) → Prop

def Pairing.In (i j : Pairing) : Prop := ∀ ⦃a b o⦄, i a b o → j a b o

theorem Pairing.In.refl (i : Pairing) : i.In i := fun _ _ _ => id

theorem Pairing.In.trans {i j k : Pairing} (h₁ : i.In j) (h₂ : j.In k) : i.In k :=
  fun _ _ _ paired => h₂ (h₁ paired)

section Parts

variable (m : Margin) (i : Pairing)

structure Component.Like (c d : Component) : Prop where
  name : d.name = c.name
  announced : d.announced = c.announced
  program : c.program.Like m d.program
  serial : m.exact → c.serial = d.serial

structure FilterConfig.Like (f g : FilterConfig) : Prop where
  definition : g.definition = f.definition
  made : ∃ cls, f.source = .made cls ∧ g.source = .made cls ∧ m.EvenFilter cls ∧
    i f.serial g.serial (some (f.definition, cls))

structure Wrapper.Like (w x : Wrapper) : Prop where
  name : x.name = w.name
  className : x.className = w.className
  servlet : w.servlet.Like m x.servlet
  asyncSupported : x.asyncSupported = w.asyncSupported
  urlPatterns : x.urlPatterns = w.urlPatterns

structure Registry.Like (r s : Registry) : Prop where
  paired : i r.serial s.serial none
  mappings : s.mappings = r.mappings
  filters : r.filters.Like (FilterConfig.Like m i) s.filters
  wrappers : List.Forall₂ (Wrapper.Like m) r.wrappers s.wrappers
  default : Option.Rel (Wrapper.Like m) r.defaultServlet s.defaultServlet

/-- Chains that differ in their room only, if at all. -/
structure Chain.Like (c d : Chain) : Prop where
  filters : List.Forall₂ (FilterConfig.Like m i) c.filters d.filters
  position : d.position = c.position
  servlet : Option.Rel (Component.Like m) c.servlet d.servlet
  servletAsync : d.servletAsync = c.servletAsync
  executor : (c.executor = m.executor ∧ d.executor = m.executor') ∨
    (c.executor = none ∧ d.executor = none)
  tracking : d.tracking = c.tracking
  capacity : m.room → d.capacity = c.capacity

/-- Idle chains are empty, and there are none where an executor would have to be installed. -/
def Pipeline.Tidy (p : Pipeline) : Prop :=
  ∀ servlet, ∀ c ∈ p.pool.chains servlet, p.executor = none ∧
    ∃ tracking capacity, c = { tracking, capacity }

structure Pipeline.Like (p q : Pipeline) : Prop where
  registry : p.registry.Like m i q.registry
  components : q.components = p.components
  even : m.Even p.components
  executor : p.executor = m.executor
  executor' : q.executor = m.executor'
  tracking : q.trackLastServiced = p.trackLastServiced
  tidy : p.Tidy
  tidy' : q.Tidy
  pool : m.room → q.pool = p.pool

/-- An instance comes from the class of its filter. -/
structure Component.Origin (d : FilterDefinition) (cls : FilterClass) (c : Component) : Prop where
  name : c.name = d.name
  announced : c.announced = cls.announced
  made : ∃ n, cls.make d n = .ready c.program

/-- The instances of a filter in both runs; in the first run it may have been made early. -/
inductive Margin.Instance (d : FilterDefinition) (cls : FilterClass) :
    Option Component → Option Component → Prop where
  | none : Instance d cls none none
  | both {c c'} : c.Like m c' → c.Origin d cls → Instance d cls (some c) (some c')
  | early {c} : m.early d.name → c.Origin d cls → Instance d cls (some c) none

end Parts

section Filters

variable {m : Margin} {i : Pairing} {f g : FilterConfig} (h : f.Like m i g)
include h

theorem FilterConfig.Like.name : g.name = f.name := congrArg (·.name) h.definition

theorem FilterConfig.Like.className : g.className = f.className :=
  congrArg (·.className) h.definition

theorem FilterConfig.Like.declinesAsync : g.declinesAsync = f.declinesAsync := by
  rw [FilterConfig.declinesAsync, FilterConfig.declinesAsync, h.definition]

end Filters

theorem Chain.Like.plan {m : Margin} {i : Pairing} {c d : Chain} (h : c.Like m i d)
    (operation : Operation) (principal : Option String) :
    ((c.executor.getD .direct) operation principal).Like m.failure m.raised
      ((d.executor.getD .direct) operation principal) := by
  rcases h.executor with ⟨first, second⟩ | ⟨first, second⟩ <;> rw [first, second]
  · exact m.plan operation principal
  · exact .run fun r r' ends => .finish (ends.imp m.raised_of_failure id)

section Monotone

variable {m : Margin} {i j : Pairing} (within : i.In j)
include within

theorem FilterConfig.Like.mono {f g : FilterConfig} (h : f.Like m i g) : f.Like m j g := by
  obtain ⟨cls, source, source', even, paired⟩ := h.made
  exact ⟨h.definition, cls, source, source', even, within paired⟩

theorem Registry.Like.mono {r s : Registry} (h : r.Like m i s) : r.Like m j s :=
  { h with
    paired := within h.paired
    filters := h.filters.imp fun like => like.mono within }

theorem Chain.Like.mono {c d : Chain} (h : c.Like m i d) : c.Like m j d :=
  { h with filters := h.filters.imp fun _ _ like => like.mono within }

theorem Pipeline.Like.mono {p q : Pipeline} (h : p.Like m i q) : p.Like m j q :=
  { h with registry := h.registry.mono within }

end Monotone

end ServletFilters
