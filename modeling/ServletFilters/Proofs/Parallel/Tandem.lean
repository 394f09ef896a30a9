import ServletFilters.Container.Service
import ServletFilters.Proofs.Parallel.Building

/-!
Computations of two runs that go the same way, `Tandem`. A traversal does as far as the calls inside
it do, `doFilter_tandem`.
-/

namespace ServletFilters

/-- The pipeline is as a reload that succeeded left it, but for its idle chains. -/
def Pipeline.LeftBy (x : Pipeline) (p : Nat) (config : Config) (s : Container) : Prop :=
  (Pipeline.reload p config s).1 = .ok (.ok ()) ∧
    ∃ pool, (Pipeline.reload p config s).2.pipelines.find? p = some { x with pool }

/-- A pipeline with this number at a later time, when these events have happened: it has what it
had, or what a reload in the meantime has left. -/
structure Pipeline.Succeeds (p : Nat) (events : List Event) (x y : Pipeline) : Prop where
  components : y.components = x.components
  executor : y.executor = x.executor
  course : (y.registry = x.registry ∧ y.trackLastServiced = x.trackLastServiced) ∨
    ∃ c s, y.LeftBy p c s ∧ (Pipeline.reload p c s).2.journal <:+ events

namespace Pipeline.Succeeds

variable {p : Nat} {events later : List Event} {x y z : Pipeline}

theorem refl (p : Nat) (events : List Event) (x : Pipeline) : x.Succeeds p events x :=
  ⟨rfl, rfl, .inl ⟨rfl, rfl⟩⟩

theorem same (p : Nat) (events : List Event) (x : Option Pipeline) :
    Option.Rel (Pipeline.Succeeds p events) x x := by
  cases x with
  | none => exact .none
  | some x => exact .some (.refl p events x)

theorem leftBy (h : x.Succeeds p events y)
    (same : y.registry = x.registry ∧ y.trackLastServiced = x.trackLastServiced) {c : Config}
    {s : Container} (left : x.LeftBy p c s) : y.LeftBy p c s := by
  obtain ⟨done, pool, found⟩ := left
  refine ⟨done, pool, found.trans ?_⟩
  rw [h.components, h.executor, same.1, same.2]

theorem trans (h₁ : x.Succeeds p events y) (h₂ : y.Succeeds p later z) (since : events <:+ later) :
    x.Succeeds p later z := by
  refine ⟨h₂.components.trans h₁.components, h₂.executor.trans h₁.executor, ?_⟩
  rcases h₂.course with same | left
  · rcases h₁.course with ⟨registry, tracking⟩ | ⟨c, s, left, before⟩
    · exact .inl ⟨same.1.trans registry, same.2.trans tracking⟩
    · exact .inr ⟨c, s, h₂.leftBy same left, before.trans since⟩
  · exact .inr left

end Pipeline.Succeeds

/-- What a computation leaves as it found it: the chain's executor, the level, the numbers in use, the
record, which may be gone, what has happened, and the pipelines, which may be reloaded. -/
structure Settles (s t : Container) : Prop where
  executor : t.chain.executor = s.chain.executor
  nesting : t.nesting = s.nesting
  serial : s.nextSerial ≤ t.nextSerial
  record : t.lastServiced = s.lastServiced ∨ t.lastServiced = none
  journal : s.journal <:+ t.journal
  pipelines : ∀ p,
    Option.Rel (Pipeline.Succeeds p t.journal) (s.pipelines.find? p) (t.pipelines.find? p)

theorem Settles.unrecorded {s t : Container} (h : Settles s t) (unrecorded : s.lastServiced = none) :
    t.lastServiced = none := by
  rcases h.record with same | gone
  · exact same.trans unrecorded
  · exact gone

theorem Settles.same {s t : Container} (executor : t.chain.executor = s.chain.executor)
    (nesting : t.nesting = s.nesting) (serial : s.nextSerial ≤ t.nextSerial)
    (record : t.lastServiced = s.lastServiced ∨ t.lastServiced = none)
    (journal : s.journal <:+ t.journal) (pipelines : t.pipelines = s.pipelines) : Settles s t := by
  refine ⟨executor, nesting, serial, record, journal, fun p => ?_⟩
  rw [pipelines]
  exact Pipeline.Succeeds.same p _ _

theorem Settles.refl (s : Container) : Settles s s := .same rfl rfl (Nat.le_refl _) (.inl rfl) ⟨[], rfl⟩ rfl

/-- A change of which nothing is told. -/
theorem Settles.quiet {s t : Container} (executor : t.chain.executor = s.chain.executor)
    (nesting : t.nesting = s.nesting) (serial : s.nextSerial ≤ t.nextSerial)
    (record : t.lastServiced = s.lastServiced ∨ t.lastServiced = none)
    (journal : t.journal = s.journal) (pipelines : t.pipelines = s.pipelines) : Settles s t :=
  .same executor nesting serial record ⟨[], journal.symm⟩ pipelines

theorem Settles.note (s : Container) (e : Event) : Settles s (s.note e) :=
  .same rfl rfl (Nat.le_refl _) (.inl rfl) ⟨[e], rfl⟩ rfl

theorem Settles.trans {s t u : Container} (h₁ : Settles s t) (h₂ : Settles t u) : Settles s u := by
  refine ⟨h₂.executor.trans h₁.executor, h₂.nesting.trans h₁.nesting,
    Nat.le_trans h₁.serial h₂.serial, ?_, h₁.journal.trans h₂.journal, fun p => ?_⟩
  · rcases h₂.record with same | gone
    · exact h₁.record.imp same.trans same.trans
    · exact .inr gone
  have later := h₂.pipelines p
  rcases rel_cases (h₁.pipelines p) with ⟨none, none'⟩ | ⟨x, y, some, some', first⟩
  · rw [none]
    rwa [none'] at later
  · rw [some'] at later
    rw [some]
    generalize u.pipelines.find? p = z at later
    cases later with
    | some second => exact .some (first.trans second h₂.journal)

theorem Settles.pipeline {s t : Container} (h : Settles s t) {p : Nat} {x : Pipeline}
    (found : s.pipelines.find? p = some x) :
    ∃ y, t.pipelines.find? p = some y ∧ x.Succeeds p t.journal y := by
  rcases rel_cases (h.pipelines p) with ⟨none, -⟩ | ⟨x', y, before, after, succeeds⟩
  · rw [found] at none
    cases none
  · obtain rfl := Option.some.inj (found.symm.trans before)
    exact ⟨y, after, succeeds⟩

/-- Two computations, from two containers on, end alike and in containers that go the same way. -/
structure Tandem (m : Margin) (old old' : List Event) (i : Pairing) (A : Pairing → α → β → Prop)
    (s t : Container) (out : Except Halt α × Container) (out' : Except Halt β × Container) : Prop where
  settles : Settles s out.2
  settles' : Settles t out'.2
  ends : ∃ j, i.In j ∧ Parallel m old old' j out.2 out'.2 ∧ Ends Eq (A j) out.1 out'.1

namespace Tandem

variable {m : Margin} {old old' : List Event} {i : Pairing} {s t u v : Container}

theorem ok {A : Pairing → α → β → Prop} {a : α} {b : β} (h : Parallel m old old' i u v)
    (like : A i a b) (settles : Settles s u) (settles' : Settles t v) :
    Tandem m old old' i A s t (.ok a, u) (.ok b, v) :=
  ⟨settles, settles', i, .refl i, h, .ok like⟩

theorem pure {A : Pairing → α → β → Prop} {a : α} {b : β} (h : Parallel m old old' i s t)
    (like : A i a b) : Tandem m old old' i A s t ((pure a : Run α) s) ((pure b : Run β) t) :=
  .ok h like (.refl s) (.refl t)

theorem halt {A : Pairing → α → β → Prop} (h : Parallel m old old' i s t) (halt : Halt) :
    Tandem m old old' i A s t ((Run.halt halt : Run α) s) ((Run.halt halt : Run β) t) :=
  ⟨.refl s, .refl t, i, .refl i, h, .error rfl⟩

theorem record {e e' : Event} (h : Parallel m old old' i s t) (retold : m.Retold e e') :
    Tandem m old old' i (fun _ _ _ => True) s t (ServletFilters.record e s)
      (ServletFilters.record e' t) :=
  .ok (h.note retold) trivial (.note s e) (.note t e')

theorem request {f : Request → Request} (h : Parallel m old old' i s t)
    (blind : ∀ r n p,
      f { r with serial := n, pipeline := p } = { f r with serial := n, pipeline := p })
    (serial : ∀ r, (f r).serial = r.serial) (pipeline : ∀ r, (f r).pipeline = r.pipeline) :
    Tandem m old old' i (fun _ => Eq) s t ((modify (·.updateRequest f) : Run Unit) s)
      ((modify (·.updateRequest f) : Run Unit) t) :=
  .ok (h.updateRequest blind serial pipeline) rfl (.quiet rfl rfl (Nat.le_refl _) (.inl rfl) rfl rfl)
    (.quiet rfl rfl (Nat.le_refl _) (.inl rfl) rfl rfl)

theorem response {f : Response → Response} (h : Parallel m old old' i s t)
    (blind : ∀ r n, f { r with serial := n } = { f r with serial := n })
    (serial : ∀ r, (f r).serial = r.serial) :
    Tandem m old old' i (fun _ => Eq) s t ((modify (·.updateResponse f) : Run Unit) s)
      ((modify (·.updateResponse f) : Run Unit) t) :=
  .ok (h.updateResponse blind serial) rfl (.quiet rfl rfl (Nat.le_refl _) (.inl rfl) rfl rfl) (.quiet rfl rfl (Nat.le_refl _) (.inl rfl) rfl rfl)

theorem after {A : Pairing → α → β → Prop} {out : Except Halt α × Container}
    {out' : Except Halt β × Container} (next : Tandem m old old' i A u v out out')
    (settles : Settles s u) (settles' : Settles t v) : Tandem m old old' i A s t out out' :=
  ⟨settles.trans next.settles, settles'.trans next.settles', next.ends⟩

theorem bind {A : Pairing → α → β → Prop} {B : Pairing → α' → β' → Prop} {x : Run α} {y : Run β}
    {f : α → Run α'} {g : β → Run β'} (first : Tandem m old old' i A s t (x s) (y t))
    (next : ∀ {j a b u v}, i.In j → A j a b → Parallel m old old' j u v → Settles s u →
      Settles t v → Tandem m old old' j B u v (f a u) (g b v)) :
    Tandem m old old' i B s t ((x >>= f) s) ((y >>= g) t) := by
  obtain ⟨settles, settles', j, within, h, ends⟩ := first
  rcases ran : x s with ⟨halt | a, u⟩ <;> rcases ran' : y t with ⟨halt' | b, v⟩ <;>
    rw [ran] at settles h ends <;> rw [ran'] at settles' h ends
  · rw [Run.bind_of_error ran, Run.bind_of_error ran']
    cases ends with
    | error same => exact ⟨settles, settles', j, within, h, .error same⟩
  · cases ends
  · cases ends
  · rw [Run.bind_of_ok ran, Run.bind_of_ok ran']
    cases ends with
    | ok like =>
      obtain ⟨later, later', k, further, h, ends⟩ := next within like h settles settles'
      exact ⟨settles.trans later, settles'.trans later', k, within.trans further, h, ends⟩

theorem imp {A B : Pairing → α → β → Prop} {out : Except Halt α × Container}
    {out' : Except Halt β × Container} (first : Tandem m old old' i A s t out out')
    (weaker : ∀ {j a b}, A j a b → B j a b) : Tandem m old old' i B s t out out' := by
  obtain ⟨settles, settles', j, within, h, ends⟩ := first
  exact ⟨settles, settles', j, within, h, ends.imp id weaker⟩

theorem build {A : Pairing → α → β → Prop} {out : Except Halt α × Container}
    {out' : Except Halt β × Container} (h : Parallel m old old' i s t)
    (building : Building m i A s t out out') : Tandem m old old' i A s t out out' := by
  obtain ⟨j, grows, ends⟩ := building
  obtain ⟨_, _, grown, grown', -⟩ := grows.journal
  refine ⟨?_, ?_, j, grows.within, h.grow grows, ends⟩
  · rw [grown]
    exact .same rfl rfl grows.le (.inl rfl) ⟨_, rfl⟩ rfl
  · rw [grown']
    exact .same rfl rfl grows.le' (.inl rfl) ⟨_, rfl⟩ rfl

end Tandem

inductive Margin.Called (m : Margin) : Call → Call → Prop where
  | proceed : Called m .proceed .proceed
  | dispatch {p q} (dispatcher target) : m.pipeline p q →
      Called m (.dispatch p dispatcher target) (.dispatch q dispatcher target)
  | reload {p q} (config) : m.pipeline p q → Called m (.reload p config) (.reload q config)

def Alongside (m : Margin) (old old' : List Event) (calls calls' : Calls) : Prop :=
  ∀ {i s t call call'}, Parallel m old old' i s t → m.Called call call' →
    Tandem m old old' i (fun _ => m.Result) s t (calls call s) (calls' call' t)

section Traversals

variable {m : Margin} {old old' : List Event} {i : Pairing} {s t : Container}

theorem perform_tandem (h : Parallel m old old' i s t) {c c' : Component} (like : c.Like m c')
    (action : Action) :
    Tandem m old old' i (fun _ => m.Answered action) s t (action.perform c s)
      (action.perform c' t) := by
  cases action with
  | look => exact .ok h h.view.symm (.refl s) (.refl t)
  | observe value =>
    exact (Tandem.record h (.of_eq (by rw [like.name]))).imp fun _ => rfl
  | log entry => exact (Tandem.record h (.same _)).imp fun _ => rfl
  | write _ | setHeader _ _ | addHeader _ _ | setStatus _ | resetBuffer =>
    exact .response h (fun _ _ => rfl) fun _ => rfl
  | startAsync =>
    have supported := h.request_eq (·.asyncSupported) fun _ _ _ => rfl
    have refusal := h.request_eq (·.asyncRefusal) fun _ _ _ => rfl
    unfold Action.perform
    dsimp only at supported refusal ⊢
    rw [supported, refusal]
    split
    · exact .ok (h.updateRequest (fun _ _ _ => rfl) (fun _ => rfl) fun _ => rfl) rfl
        (.quiet rfl rfl (Nat.le_refl _) (.inl rfl) rfl rfl) (.quiet rfl rfl (Nat.le_refl _) (.inl rfl) rfl rfl)
    · exact .ok h rfl (.refl s) (.refl t)
  | retrieve =>
    refine .ok h (fun exact => ?_) (.refl s) (.refl t)
    rw [h.memory exact, like.serial exact]
  | remember text =>
    exact .ok (h.remember like.serial text) rfl (.quiet rfl rfl (Nat.le_refl _) (.inl rfl) rfl rfl)
      (.quiet rfl rfl (Nat.le_refl _) (.inl rfl) rfl rfl)
  | _ => exact .request h (fun _ _ _ => rfl) (fun _ => rfl) fun _ => rfl

theorem Chain.Like.nonAsyncClasses {c d : Chain} (h : c.Like m i d) (given : List String) :
    d.nonAsyncClasses given = c.nonAsyncClasses given := by
  have classes : ∀ {fs gs : List FilterConfig}, List.Forall₂ (FilterConfig.Like m i) fs gs →
      (gs.filter (·.declinesAsync)).map (·.className) =
        (fs.filter (·.declinesAsync)).map (·.className) := by
    intro fs gs likes
    induction likes with
    | nil => rfl
    | cons like _ ih =>
      rw [List.filter_cons, List.filter_cons, like.declinesAsync]
      split
      · rw [List.map_cons, List.map_cons, like.className, ih]
      · exact ih
  unfold Chain.nonAsyncClasses
  rw [classes h.filters]

theorem Chain.Like.view {c d : Chain} (h : c.Like m i d) :
    { d.view with capacity := c.view.capacity } = c.view := by
  have names : c.filterNames = d.filterNames :=
    map_eq_map (fun like => like.name.symm) h.filters
  unfold Chain.view
  rw [← names, h.nonAsyncClasses, h.position, rel_isSome h.servlet]

theorem edit_tandem {calls calls' : Calls} (alongside : Alongside m old old' calls calls')
    (h : Parallel m old old' i s t) {c c' : Component} (like : c.Like m c') (action : ChainAction) :
    Tandem m old old' i (fun _ => m.Told action) s t (action.perform calls c s)
      (action.perform calls' c' t) := by
  cases action with
  | proceed => exact alongside h .proceed
  | reuse =>
    have told : m.Retold (.rewound s.nesting) (.rewound t.nesting) := h.nesting ▸ .same _
    have like : s.chain.reuse.Like m i t.chain.reuse := { h.chain with position := rfl }
    exact .ok ((h.note told).updateChain like) rfl (.same rfl rfl (Nat.le_refl _) (.inl rfl) ⟨[_], rfl⟩ rfl)
      (.same rfl rfl (Nat.le_refl _) (.inl rfl) ⟨[_], rfl⟩ rfl)
  | release =>
    have told : m.Retold (.emptied s.nesting) (.emptied t.nesting) := h.nesting ▸ .same _
    have like : s.chain.release.Like m i t.chain.release :=
      { h.chain with filters := .nil, position := rfl, servlet := .none, servletAsync := rfl }
    exact .ok ((h.note told).updateChain like) rfl (.same rfl rfl (Nat.le_refl _) (.inl rfl) ⟨[_], rfl⟩ rfl)
      (.same rfl rfl (Nat.le_refl _) (.inl rfl) ⟨[_], rfl⟩ rfl)
  | observe =>
    have view := h.chain.view
    have told : m.Retold (.observed c.name (.chain s.chain.view))
        (.observed c'.name (.chain t.chain.view)) := by
      rw [like.name]
      exact .viewed _ view
    -- The answer is a view without the room, which is all in which the views differ.
    have answer : { s.chain.view with capacity := 0 } = { t.chain.view with capacity := 0 } :=
      (congrArg (fun v : ChainView => { v with capacity := 0 }) view).symm
    exact .ok (h.note told) answer (.note s _) (.note t _)
  | gauge =>
    have told : m.Retold (.gauged s.nesting) (.gauged t.nesting) := h.nesting ▸ .same _
    exact .ok (h.note told) (fun room => (h.chain.capacity room).symm) (.note s _) (.note t _)

theorem onResponse_tandem (response : Response) {body body' : Run Result}
    (bodies : ∀ {j u v}, Parallel m old old' j u v →
      Tandem m old old' j (fun _ => m.Result) u v (body u) (body' v))
    (h : Parallel m old old' i s t) :
    Tandem m old old' i (fun _ x y => m.Result x.1 y.1 ∧ x.2 = y.2) s t
      (onResponse response body s) (onResponse response body' t) := by
  obtain ⟨settles, settles', j, within, after, ends⟩ := bodies (h.newResponse response)
  have serial := Nat.le_trans (Nat.le_succ _) settles.serial
  have serial' := Nat.le_trans (Nat.le_succ _) settles'.serial
  obtain ⟨n, left, -⟩ := after.exchange.response
  refine ⟨{ settles with serial }, { settles' with serial := serial' }, j, within,
    h.restoreResponse after serial serial' settles.record settles'.record, ?_⟩
  unfold onResponse
  dsimp only
  rw [left]
  generalize (body (s.newResponse response)).1 = result at ends
  generalize (body' (t.newResponse response)).1 = result' at ends
  cases ends with
  | error same => exact .error same
  | ok like => exact .ok ⟨like, rfl⟩

theorem run_tandem {calls calls' : Calls} (alongside : Alongside m old old' calls calls')
    {c c' : Component} (alike : c.Like m c') (hasChain : Bool) {p p' : Program} (like : p.Like m p')
    (h : Parallel m old old' i s t) :
    Tandem m old old' i (fun _ => m.Result) s t (p.run calls c hasChain s)
      (p'.run calls' c' hasChain t) := by
  -- On the likeness of what is left of the programs. Calls may differ in their results, and the
  -- programs are alike after all results that are.
  induction like generalizing i s t with
  | finish ends => exact .pure h ends
  | panic message => exact .halt h (.panic message)
  | act action _ ih =>
    exact .bind (perform_tandem h alike action) fun _ answered h _ _ => ih _ _ answered h
  | @caught f g _ _ failure _ ih =>
    have told : m.Retold (.observed c.name (.caught f)) (.observed c'.name (.caught g)) :=
      alike.name ▸ .caught c.name failure
    refine .bind (Tandem.record h told) ?_
    rintro j ⟨⟩ ⟨⟩ u v - - h - -
    exact ih _ h
  | chain action _ ih =>
    cases hasChain with
    | false => exact .pure h (m.result_refl _)
    | true => exact .bind (edit_tandem alongside h alike action) fun _ told h _ _ => ih _ _ told h
  | dispatch dispatcher target _ ih =>
    unfold Program.run
    rw [Run.get_bind_apply, Run.get_bind_apply]
    rcases rel_cases h.attached with ⟨none, none'⟩ | ⟨p, q, some, some', corresponds⟩
    · rw [none, none']
      exact ih _ _ (m.result_refl _) h
    · rw [some, some']
      exact .bind (alongside h (.dispatch dispatcher target corresponds)) fun _ like h _ _ =>
        ih _ _ like h
  | withResponse response _ _ inside ih =>
    refine .bind (onResponse_tandem response inside h) ?_
    rintro j ⟨r, left⟩ ⟨r', _⟩ u v - ⟨ends, rfl⟩ h - -
    exact ih _ _ left ends h
  | reload config _ ih =>
    unfold Program.run
    rw [Run.get_bind_apply, Run.get_bind_apply]
    rcases rel_cases h.attached with ⟨none, none'⟩ | ⟨p, q, some, some', corresponds⟩
    · rw [none, none']
      exact ih _ _ (m.result_refl _) h
    · rw [some, some']
      exact .bind (alongside h (.reload config corresponds)) fun _ like h _ _ => ih _ _ like h

theorem carryOut_tandem {F G : Failure → Failure → Prop} (operation : Operation)
    (principal : Option String) {step step' : Run Result}
    (steps : ∀ {i s t}, Parallel m old old' i s t →
      Tandem m old old' i (fun _ => Ends F Eq) s t (step s) (step' t))
    {plan plan' : Plan} (like : plan.Like F G plan') (h : Parallel m old old' i s t) :
    Tandem m old old' i (fun _ => Ends G Eq) s t (plan.carryOut operation principal step s)
      (plan'.carryOut operation principal step' t) := by
  induction like generalizing i s t with
  | finish ends => exact .pure h ends
  | panic message => exact .halt h (.panic message)
  | report _ ih => exact .bind (.record h (.same _)) fun _ _ h _ _ => ih h
  | run _ ih => exact .bind (steps h) fun _ like h _ _ => ih _ _ like h

/-- A step without an executor is run as one would that does nothing else. -/
theorem privileged_plan (operation : Operation) (step : Run Result) (s : Container) :
    Traversal.privileged operation step s =
      ((s.chain.executor.getD .direct) operation s.request.principal).carryOut operation
        s.request.principal step s := by
  unfold Traversal.privileged
  rw [Run.get_bind_apply]
  cases s.chain.executor with
  | some executor => rfl
  | none =>
    change step s = (step >>= pure) s
    rw [bind_pure]

theorem privileged_tandem (operation : Operation) {step step' : Run Result}
    (steps : ∀ {i s t}, Parallel m old old' i s t →
      Tandem m old old' i (fun _ => m.Result) s t (step s) (step' t))
    (h : Parallel m old old' i s t) :
    Tandem m old old' i (fun _ => Ends m.raised Eq) s t (Traversal.privileged operation step s)
      (Traversal.privileged operation step' t) := by
  rw [privileged_plan, privileged_plan, h.request_eq (·.principal) fun _ _ _ => rfl]
  exact carryOut_tandem operation _ steps (h.chain.plan operation _) h

theorem supply_tandem (h : Parallel m old old' i s t) {f g : FilterConfig} (like : f.Like m i g)
    {c c' : Component} (alike : c.Like m c') :
    Tandem m old old' i (fun _ => Ends Eq (Component.Like m)) s t
      ((do f.recordSupply c; return .ok c : Run (Except Failure Component)) s)
      ((do g.recordSupply c'; return .ok c' : Run (Except Failure Component)) t) := by
  have told : m.Retold (.supplied s.nesting f.serial c.serial)
      (.supplied t.nesting g.serial c'.serial) := by
    rw [h.nesting]
    exact .supplied _ fun exact => ⟨like.serial h.fits exact, alike.serial exact⟩
  exact .bind (.record h told) fun _ _ h _ _ => .pure h (.ok alike)

/-- A class that has made an instance makes one like it at any time, where counts do not matter. -/
theorem Component.Origin.remade {d : FilterDefinition} {cls : FilterClass} {c : Component}
    (h : c.Origin d cls) (inexact : ¬ m.exact) (even : m.EvenFilter cls) (n : Nat) :
    ∃ p, cls.make d n = .ready p ∧ c.program.Like m p := by
  obtain ⟨k, made⟩ := h.made
  have like := even d k n fun exact => absurd exact inexact
  rw [made] at like
  generalize cls.make d n = made' at like
  cases like with
  | ready like => exact ⟨_, rfl, like⟩

/-- A filter gives its instance in both runs. If it was made early, the second run makes it now. -/
theorem obtain_tandem (h : Parallel m old old' i s t) {f g : FilterConfig} (like : f.Like m i g) :
    Tandem m old old' i (fun _ => Ends Eq (Component.Like m)) s t (f.obtain s) (g.obtain t) := by
  obtain ⟨cls, source, source', even, paired⟩ := like.made
  have instances := h.instances paired
  unfold FilterConfig.obtain FilterConfig.make
  simp only [Run.get_bind_apply, source, source', like.name, like.definition,
    FilterConfig.className]
  generalize found : s.instances.find? f.serial = c at instances
  generalize found' : t.instances.find? g.serial = c' at instances
  cases instances with
  | both alike _ => exact supply_tandem h like alike
  | none =>
    refine .bind (.build h (makeComponent_building h.fits cls.announced f.name
      (even f.definition))) ?_
    intro j made made' u v within ends h _ _
    cases ends with
    | error same =>
      subst same
      exact .bind (.record h (.same _)) fun _ _ h _ _ => .pure h (.error rfl)
    | @ok c c' alike =>
      obtain ⟨alike, name, announced, made⟩ := alike
      dsimp only
      rw [Run.modify_bind_apply, Run.modify_bind_apply]
      refine .after (supply_tandem ?_ (like.mono within) alike) (.quiet rfl rfl (Nat.le_refl _) (.inl rfl) rfl rfl)
        (.quiet rfl rfl (Nat.le_refl _) (.inl rfl) rfl rfl)
      exact h.keepInstances (within paired) alike ⟨name, announced, made⟩
        (Dict.find?_insert _ _ · _) (Dict.find?_insert _ _ · _)
  | @early c early origin =>
    -- The first run only supplies what it has. The second one makes it before, and tells so.
    obtain ⟨inexact, events⟩ := m.early_events early
    have remade := origin.remade inexact even
    obtain ⟨n, serial, p, counts, new, made, fresh, ran, told⟩ := makeComponent_ready cls.announced
      f.name (fun n => (remade n).imp fun _ => And.left) t
    have alike : c.Like m { serial, name := f.name, announced := cls.announced, program := p } := by
      obtain ⟨q, made', like⟩ := remade n
      obtain rfl := Making.ready.inj (made'.symm.trans made)
      exact ⟨origin.name.symm, origin.announced.symm, like, fun exact => absurd exact inexact⟩
    have second : ∀ e ∈ new, m.second e := by
      intro e member
      rcases told e member with rfl | rfl
      · exact (events n).1
      · exact (events serial).2.1
    have grown := h.growSecond inexact counts (Nat.le_succ_of_le fresh) second
    dsimp only
    rw [Run.bind_of_ok ran]
    dsimp only
    rw [Run.modify_bind_apply]
    refine .after (supply_tandem ?_ like alike) (.refl s)
      (.same rfl rfl (Nat.le_succ_of_le fresh) (.inl rfl) ⟨new, rfl⟩ rfl)
    refine grown.keepInstances (I := s.instances) paired alike origin ?_ (Dict.find?_insert _ _ · _)
    intro k
    split
    · rename_i same
      rw [same, found]
    · rfl

theorem downgrade_tandem (h : Parallel m old old' i s t) (declined : Bool) :
    Tandem m old old' i (fun _ => Eq) s t (Traversal.downgrade declined s)
      (Traversal.downgrade declined t) := by
  unfold Traversal.downgrade
  rw [Run.modify_apply, Run.modify_apply, h.request_eq (·.asyncSupported) fun _ _ _ => rfl]
  split
  · exact .request h (fun _ _ _ => rfl) (fun _ => rfl) fun _ => rfl
  · exact .pure h rfl

theorem call_tandem {calls calls' : Calls} (alongside : Alongside m old old' calls calls')
    (stage : Stage) (operation : Operation) (measurement : Measurement) (declined hasChain : Bool)
    {c c' : Component} (like : c.Like m c') (h : Parallel m old old' i s t) :
    Tandem m old old' i (fun _ => Ends m.raised Eq) s t
      ((do
        Traversal.downgrade declined
        measure measurement
        Traversal.privileged operation do
          Traversal.recordInvocation stage c
          c.program.run calls c hasChain : Run Result) s)
      ((do
        Traversal.downgrade declined
        measure measurement
        Traversal.privileged operation do
          Traversal.recordInvocation stage c'
          c'.program.run calls' c' hasChain : Run Result) t) := by
  refine .bind (downgrade_tandem h declined) fun _ _ h _ _ => ?_
  refine .bind (.record h (.same _)) fun _ _ h _ _ => ?_
  refine privileged_tandem operation ?_ h
  intro j u v h
  have told : m.Retold (.invoked u.nesting stage c.serial c.name u.request.depth)
      (.invoked v.nesting stage c'.serial c'.name v.request.depth) := by
    rw [h.nesting, like.name, h.request_eq (·.depth) fun _ _ _ => rfl]
    exact .invoked _ stage _ _ like.serial
  refine .bind (.record h told) fun _ _ h _ _ => ?_
  exact run_tandem alongside like hasChain like.program h

theorem invokeFilter_tandem {calls calls' : Calls} (alongside : Alongside m old old' calls calls')
    {f g : FilterConfig} (like : f.Like m i g) (h : Parallel m old old' i s t) :
    Tandem m old old' i (fun _ => Ends m.raised Eq) s t (Traversal.invokeFilter calls f s)
      (Traversal.invokeFilter calls' g t) := by
  refine .bind (obtain_tandem h like) ?_
  intro j made made' u v within ends h _ _
  cases ends with
  | error same =>
    subst same
    exact .pure h (.error (m.raised_of_failure (m.failure_refl _)))
  | ok alike =>
    dsimp only
    rw [like.declinesAsync, like.name]
    exact call_tandem alongside .filter .doFilter (.filterInvoked f.name) f.declinesAsync true
      alike h

theorem onRecord_tandem {A : Pairing → Result → Result → Prop} {body body' : Run Result}
    (bodies : ∀ {u v}, Parallel m old old' i u v → Tandem m old old' i A u v (body u) (body' v))
    (h : Parallel m old old' i s t) :
    Tandem m old old' i A s t (Traversal.onRecord body s) (Traversal.onRecord body' t) := by
  obtain ⟨settles, settles', j, within, after, ends⟩ := bodies h.putOnRecord
  exact ⟨{ settles with record := .inr rfl }, { settles' with record := .inr rfl }, j,
    within, after.takeOffRecord, ends⟩

theorem invokeServlet_tandem {calls calls' : Calls} (alongside : Alongside m old old' calls calls')
    (h : Parallel m old old' i s t) :
    Tandem m old old' i (fun _ => Ends m.raised Eq) s t (Traversal.invokeServlet calls s)
      (Traversal.invokeServlet calls' t) := by
  unfold Traversal.invokeServlet
  rw [Run.get_bind_apply, Run.get_bind_apply]
  rcases rel_cases h.chain.servlet with ⟨none, none'⟩ | ⟨c, c', some, some', like⟩
  · dsimp only
    rw [none, none']
    exact .pure h (.error (m.raised_of_failure (m.failure_refl _)))
  · dsimp only
    rw [some, some', h.chain.tracking, h.chain.servletAsync]
    have called : ∀ {u v}, Parallel m old old' i u v → _ := fun h =>
      call_tandem alongside .servlet .service .servletInvoked (!s.chain.servletAsync) false like h
    split
    · exact onRecord_tandem called h
    · exact called h

theorem step_tandem {calls calls' : Calls} (alongside : Alongside m old old' calls calls')
    (h : Parallel m old old' i s t) :
    Tandem m old old' i (fun _ => m.Result) s t (Traversal.step calls s)
      (Traversal.step calls' t) := by
  have present : ∀ (stage : Stage) {j u v} {x y : Run Result},
      Tandem m old old' j (fun _ => Ends m.raised Eq) u v (x u) (y v) →
      Tandem m old old' j (fun _ => m.Result) u v
        ((do return (← x).mapError (Failure.classify stage) : Run Result) u)
        ((do return (← y).mapError (Failure.classify stage) : Run Result) v) := by
    intro stage j u v x y tandem
    refine .bind tandem fun _ ends h _ _ => .pure h ?_
    cases ends with
    | ok same => exact .ok same
    | error like => exact .error (m.classify like stage)
  have next : Option.Rel (FilterConfig.Like m i) s.chain.filters[s.chain.position]?
      t.chain.filters[t.chain.position]? := by
    rw [h.chain.position]
    exact rel_getElem? h.chain.filters _
  unfold Traversal.step
  rw [Run.get_bind_apply, Run.get_bind_apply]
  rcases rel_cases next with ⟨none, none'⟩ | ⟨f, g, some, some', like⟩
  · rw [none, none', h.nesting]
    exact .bind (.record h (.same _)) fun _ _ h _ _ =>
      present .servlet (invokeServlet_tandem alongside h)
  · rw [some, some', h.nesting, h.chain.position]
    refine .bind (.record h (.same _)) fun within _ h _ _ => ?_
    rw [Run.modify_bind_apply, Run.modify_bind_apply]
    refine .after (present .filter (invokeFilter_tandem alongside (like.mono within) ?_))
      (.quiet rfl rfl (Nat.le_refl _) (.inl rfl) rfl rfl) (.quiet rfl rfl (Nat.le_refl _) (.inl rfl) rfl rfl)
    refine h.updateChain { h.chain with position := ?_ }
    exact congrArg (· + 1) h.chain.position

theorem mapError_error {x : Run Result} {f : Failure → Failure} {s : Container} {e : Failure}
    (h : ((do return (← x).mapError f : Run Result) s).1 = .ok (.error e)) : ∃ e', e = f e' := by
  rcases ran : x s with ⟨halt | result, t⟩
  · rw [Run.bind_of_error ran] at h
    cases h
  · rw [Run.bind_of_ok ran] at h
    cases result with
    | ok done => cases h
    | error failure => exact ⟨failure, (Except.error.inj (Except.ok.inj h)).symm⟩

/-- A step fails only in ways that pass through a chain. -/
theorem step_passesThrough {calls : Calls} {f : Failure}
    (h : (Traversal.step calls s).1 = .ok (.error f)) : f.passesThrough = true := by
  unfold Traversal.step at h
  rw [Run.get_bind_apply] at h
  cases next : s.chain.filters[s.chain.position]? with
  | some filter =>
    rw [next] at h
    obtain ⟨e, rfl⟩ := mapError_error h
    exact e.passesThrough_classify .filter
  | none =>
    rw [next] at h
    obtain ⟨e, rfl⟩ := mapError_error h
    exact e.passesThrough_classify .servlet

theorem Failure.classifyPrivileged_of_passesThrough {f : Failure} (h : f.passesThrough = true) :
    f.classifyPrivileged = f := by
  have plain : f.unwrapped = f := by
    cases f with
    | invocation inner => cases h
    | _ => rfl
  rw [classifyPrivileged, plain, if_pos h]

/-- Going on without an executor is going on with one that does nothing else. -/
theorem doFilter_privileged (calls : Calls) (s : Container) :
    Traversal.doFilter calls s = (do
      return (← Traversal.privileged .doFilter (Traversal.step calls)).mapError
        Failure.classifyPrivileged : Run Result) s := by
  unfold Traversal.doFilter
  rw [Run.get_bind_apply]
  cases executor : s.chain.executor with
  | some executor => rfl
  | none =>
    have direct : Traversal.privileged .doFilter (Traversal.step calls) s =
        Traversal.step calls s := by
      unfold Traversal.privileged
      rw [Run.get_bind_apply, executor]
    change Traversal.step calls s = _
    rcases ran : Traversal.step calls s with ⟨halt | failure | ⟨⟩, t⟩
    · rw [Run.bind_of_error (direct.trans ran)]
    · have plain : failure.passesThrough = true := step_passesThrough (congrArg Prod.fst ran)
      rw [Run.bind_of_ok (direct.trans ran), Except.mapError,
        Failure.classifyPrivileged_of_passesThrough plain]
      rfl
    · rw [Run.bind_of_ok (direct.trans ran)]
      rfl

/-- Traversals go the same way, as far as the calls inside them do. -/
theorem doFilter_tandem {calls calls' : Calls} (alongside : Alongside m old old' calls calls')
    (h : Parallel m old old' i s t) :
    Tandem m old old' i (fun _ => m.Result) s t (Traversal.doFilter calls s)
      (Traversal.doFilter calls' t) := by
  rw [doFilter_privileged, doFilter_privileged]
  refine .bind (privileged_tandem .doFilter (step_tandem alongside) h) fun _ ends h _ _ => .pure h ?_
  cases ends with
  | ok same => exact .ok same
  | error like => exact .error (m.classifyPrivileged like)

end Traversals

end ServletFilters
