import ServletFilters.Proofs.Container.Tenure
import ServletFilters.Proofs.Container.Unfolding
import ServletFilters.Proofs.Journal.Metrics

/-!
Metrics account for the work of a pipeline that has no executor. What it does for requests is listed
traversal by traversal and call by call, and that is what it measures and writes down, in the same
order, `uses_marked`.
-/

namespace ServletFilters

/-! ### Work -/

/-- A piece of what a pipeline does for a request. -/
inductive Work where
  /-- A traversal starts on a registry, which has filter mappings or none, with a chain of so many
  filters. Servicing a request starts it itself, or a dispatch does. -/
  | start (registry : Nat) (mapped : Bool) (length : Nat) (own : Bool)
  | call (stage : Stage) (name : String)
  deriving DecidableEq

def Stage.measurement (name : String) : Stage → Measurement
  | .filter => .filterInvoked name
  | .servlet => .servletInvoked

/-- The marks that a piece of work leaves, in the order of time. -/
def Work.marks : Work → List Mark
  | .start registry mapped length own =>
    (if own then [.measured (.poolAcquired false)] else []) ++ .traversed registry ::
      if mapped then [.measured (.chainBuilt length)] else []
  | .call stage name => [.measured (stage.measurement name), .invoked stage name]

section Listing

variable (calls : Calls) (inside : Call → Container → List Work)

/-- The calls of components in a traversal that goes on, each followed by the work of the calls that
the component makes. -/
def Traversal.works (s : Container) : List Work :=
  (invocations calls s).flatMap fun c =>
    .call c.1.stage c.1.component.name ::
      (c.1.made calls c.2).flatMap fun made => inside made.1 made.2

namespace Pipeline

def startWorks (r : Registry) (own : Bool) (starts : List Container) : List Work :=
  starts.flatMap fun u =>
    .start r.serial (!r.mappings.isEmpty) u.chain.filters.length own :: Traversal.works calls inside u

def dispatchWorks (p : Nat) (dispatcher : Dispatcher) (target : Target) (s : Container) :
    List Work :=
  match s.pipelines.find? p with
  | none => []
  | some x => startWorks calls inside x.registry false (dispatchStarts p dispatcher target s)

def serviceWorks (p : Nat) (s : Container) : List Work :=
  match s.pipelines.find? p with
  | none => []
  | some x => startWorks calls inside x.registry true (serviceStarts calls p s)

end Pipeline

def Call.works : Call → Container → List Work
  | .proceed => Traversal.works calls inside
  | .dispatch p dispatcher target => Pipeline.dispatchWorks calls inside p dispatcher target
  | .reload _ _ => fun _ => []

end Listing

def nestedWorks : Nat → Call → Container → List Work
  | 0 => fun _ _ => []
  | n + 1 => Call.works (nestedCalls n) (nestedWorks n)

/-- What a pipeline does when it is used in a state. -/
def Use.works (p : Nat) (s : Container) : Use → List Work
  | .service levels => Pipeline.serviceWorks (nestedCalls levels) (nestedWorks levels) p s
  | .dispatch levels dispatcher target =>
    Pipeline.dispatchWorks (nestedCalls levels) (nestedWorks levels) p dispatcher target s
  | _ => []

def Container.works (p : Nat) (s : Container) : List Use → List Work
  | [] => []
  | u :: rest => u.works p s ++ (s.use p u).works p rest

/-- The failure of a chain that a client is told of when a request was serviced. -/
def Report.failure? (r : Report) : Option Failure :=
  match r.answer with
  | .ok (.serviced (.error (.chain failure))) => some failure
  | _ => none

/-! ### Leaving marks -/

/-- These marks were left on the way from one state to another, in the order of time. -/
def Marked (marks : List Mark) (s t : Container) : Prop := t.marks = marks.reverse ++ s.marks

/-- This work was done on the way, as its marks tell. -/
abbrev Does (works : List Work) (s t : Container) : Prop := Marked (works.flatMap Work.marks) s t

namespace Marked

variable {s t u : Container}

theorem still (same : t.marks = s.marks) : Marked [] s t := same

theorem trans {first second : List Mark} (h₁ : Marked first s t) (h₂ : Marked second t u) :
    Marked (first ++ second) s u := by
  rw [Marked, h₂, h₁, List.reverse_append, List.append_assoc]

theorem after {marks : List Mark} (h : Marked marks t u) (same : t.marks = s.marks) :
    Marked marks s u := trans (still same) h

theorem before {marks : List Mark} (h : Marked marks s t) (same : u.marks = t.marks) :
    Marked marks s u := same.trans h

theorem note (s : Container) {e : Event} {mark : Mark} (h : e.mark? = some mark) :
    Marked [mark] s (s.note e) := List.filterMap_cons_some h

end Marked

theorem Does.append {first second : List Work} {s t u : Container} (h₁ : Does first s t)
    (h₂ : Does second t u) : Does (first ++ second) s u := by
  rw [Does, List.flatMap_append]
  exact h₁.trans h₂

/-! ### Pipelines without an executor -/

/-- A margin in which runs of a pipeline without an executor go the same way as themselves. -/
abbrev Margin.direct (p : Nat) : Margin := .pooling True none (· = p)

section Metering

variable {p : Nat} {old old' : List Event} {i : Pairing} {s t : Container}

theorem Parallel.direct (h : Parallel (.direct p) old old' i s s) : s.chain.executor = none := by
  rcases h.chain.executor with ⟨same, -⟩ | ⟨same, -⟩ <;> exact same

theorem Does.bind {A : Pairing → α → α → Prop} {x : Run α} {f : α → Run β} {works : List Work}
    {next : α → Container → List Work}
    (tandem : Tandem (.direct p) old old' i A s s (x s) (x s)) (first : Does works s (x s).2)
    (rest : ∀ {j a t}, x s = (.ok a, t) → i.In j → A j a a → Parallel (.direct p) old old' j t t →
      Does (next a t) t (f a t).2) :
    Does (works ++ x.thence next s) s ((x >>= f) s).2 := by
  obtain ⟨-, -, j, within, h, ends⟩ := tandem
  rcases ran : x s with ⟨halt | a, t⟩ <;> rw [ran] at first h ends
  · rw [Run.bind_of_error ran, Run.thence_of_error ran, List.append_nil]
    exact first
  · rw [Run.bind_of_ok ran, Run.thence_of_ok ran]
    cases ends with
    | ok like => exact first.append (rest ran within like h)

theorem Does.bindIdle {A : Pairing → α → α → Prop} {x : Run α} {f : α → Run β}
    {next : α → Container → List Work}
    (tandem : Tandem (.direct p) old old' i A s s (x s) (x s)) (same : (x s).2.marks = s.marks)
    (rest : ∀ {j a t}, x s = (.ok a, t) → i.In j → A j a a → Parallel (.direct p) old old' j t t →
      Does (next a t) t (f a t).2) :
    Does (x.thence next s) s ((x >>= f) s).2 := by
  have idle : Does [] s (x s).2 := .still same
  exact Does.bind tandem idle rest

/-! ### Steps -/

/-- The instance that a declared filter gives has the filter's name. -/
theorem Parallel.obtain_name (h : Parallel (.direct p) old old' i s s) {f : FilterConfig}
    (like : f.Like (.direct p) i f) {c : Component} (given : f.obtain s = (.ok (.ok c), t)) :
    c.name = f.name := by
  obtain ⟨cls, source, -, -, paired⟩ := like.made
  rcases f.obtain_cases s with
    ⟨d, found, supplied⟩ | ⟨d, u, -, made, supplied⟩ | ⟨out, u, ended, -, none⟩
  · obtain ⟨⟨⟩, -⟩ := Prod.mk.inj (given.symm.trans supplied)
    have instances := h.instances paired
    rw [found] at instances
    cases instances with
    | both _ origin => exact origin.name
  · obtain ⟨⟨⟩, -⟩ := Prod.mk.inj (given.symm.trans supplied)
    unfold FilterConfig.make at made
    rw [source] at made
    obtain ⟨n, -, named⟩ := makeComponent_program made
    exact named
  · obtain ⟨same, -⟩ := Prod.mk.inj (given.symm.trans ended)
    exact absurd same.symm (none c)

theorem downgrade_unmarked (declined : Bool) : (Traversal.downgrade declined).Unmarked := by
  intro s
  unfold Traversal.downgrade
  rw [Run.modify_apply]
  split <;> rfl

/-- The computation gets a component ready and counts it, or it comes to nothing and leaves no mark. -/
def Readies (p : Nat) (old old' : List Event) (x : Run (Except Failure Invocation)) (s : Container) :
    Prop :=
  ((x s).2.marks = s.marks ∧ ∀ inv, (x s).1 ≠ .ok (.ok inv)) ∨
    ∃ inv t j, x s = (.ok (.ok inv), t) ∧ Parallel (.direct p) old old' j t t ∧
      Marked [.measured (inv.stage.measurement inv.component.name)] s t

theorem Parallel.prepareFilter (h : Parallel (.direct p) old old' i s s) {f : FilterConfig}
    (like : f.Like (.direct p) i f) : Readies p old old' (Traversal.prepareFilter f) s := by
  have unmarked := f.obtain_unmarked s
  obtain ⟨-, -, j, -, obtained, -⟩ := obtain_tandem h like
  unfold Readies Traversal.prepareFilter
  rcases given : f.obtain s with ⟨halt | failure | c, t⟩ <;> rw [given] at unmarked obtained
  · rw [Run.bind_of_error given]
    exact .inl ⟨unmarked, by rintro inv ⟨⟩⟩
  · rw [Run.bind_of_ok given]
    exact .inl ⟨unmarked, by rintro inv ⟨⟩⟩
  · rw [Run.bind_of_ok given]
    obtain ⟨-, -, k, -, allowed, -⟩ := downgrade_tandem obtained f.declinesAsync
    have counted : Marked [.measured (.filterInvoked f.name)] s
        ((Traversal.downgrade f.declinesAsync t).2.note (.measured (.filterInvoked f.name))) :=
      (Marked.note _ rfl).after ((downgrade_unmarked f.declinesAsync t).trans unmarked)
    rw [← h.obtain_name like given] at counted
    rw [← h.obtain_name like given]
    exact .inr ⟨{ stage := .filter, component := c }, _, k, rfl, allowed.note (.same _), counted⟩

theorem Parallel.prepareServlet (h : Parallel (.direct p) old old' i s s) :
    Readies p old old' Traversal.prepareServlet s := by
  unfold Readies Traversal.prepareServlet
  rw [Run.get_bind_apply]
  cases s.chain.servlet with
  | none => exact .inl ⟨rfl, by rintro inv ⟨⟩⟩
  | some c =>
    have ready : ∀ {u : Container}, Parallel (.direct p) old old' i u u → u.marks = s.marks →
        ∃ j, Parallel (.direct p) old old' j
            ((Traversal.downgrade (!s.chain.servletAsync) u).2.note (.measured .servletInvoked))
            ((Traversal.downgrade (!s.chain.servletAsync) u).2.note (.measured .servletInvoked)) ∧
          Marked [.measured .servletInvoked] s
            ((Traversal.downgrade (!s.chain.servletAsync) u).2.note (.measured .servletInvoked)) := by
      intro u h same
      obtain ⟨-, -, j, -, allowed, -⟩ := downgrade_tandem h (!s.chain.servletAsync)
      exact ⟨j, allowed.note (.same _), (Marked.note _ rfl).after ((downgrade_unmarked _ u).trans same)⟩
    cases s.chain.tracking with
    | false =>
      obtain ⟨j, after, counted⟩ := ready h rfl
      exact .inr ⟨{ stage := .servlet, component := c, recorded := false }, _, j, rfl, after, counted⟩
    | true =>
      obtain ⟨j, after, counted⟩ := ready h.putOnRecord rfl
      exact .inr ⟨{ stage := .servlet, component := c, recorded := true }, _, j, rfl, after, counted⟩

theorem Parallel.prepare (h : Parallel (.direct p) old old' i s s) :
    Readies p old old' Traversal.prepare s := by
  unfold Readies
  cases next : s.chain.filters[s.chain.position]? with
  | some f =>
    rw [prepare_filter next]
    have like := List.forall₂_same.1 h.chain.filters f (List.mem_of_getElem? next)
    have moved : Parallel (.direct p) old old' i s.advance s.advance :=
      (h.note (.same _)).updateChain { h.chain with position := rfl }
    exact moved.prepareFilter like
  | none =>
    rw [prepare_servlet next]
    exact (h.note (.same _)).prepareServlet

/-! ### Traversals -/

theorem works_of_ready (calls : Calls) (inside : Call → Container → List Work)
    (direct : s.chain.executor = none) {inv : Invocation}
    (ready : Traversal.prepare s = (.ok (.ok inv), t)) :
    Traversal.works calls inside s = .call inv.stage inv.component.name ::
      (inv.made calls t).flatMap fun made => inside made.1 made.2 := by
  have kept := prepare_executor s
  rw [ready] at kept
  unfold Traversal.works Traversal.invocations
  rw [actions_transparent (.inl direct), List.flatMap_singleton, Run.thence_of_ok ready]
  dsimp only
  rw [actions_transparent (s := t) (.inl (kept.trans direct))]
  exact List.flatMap_singleton _ _

theorem works_of_unready (calls : Calls) (inside : Call → Container → List Work)
    (direct : s.chain.executor = none) (unready : ∀ inv, (Traversal.prepare s).1 ≠ .ok (.ok inv)) :
    Traversal.works calls inside s = [] := by
  unfold Traversal.works Traversal.invocations
  rw [actions_transparent (.inl direct), List.flatMap_singleton]
  rcases ran : Traversal.prepare s with ⟨halt | failure | inv, t⟩
  · rw [Run.thence_of_error ran]
    rfl
  · rw [Run.thence_of_ok ran]
    rfl
  · exact absurd (congrArg Prod.fst ran) (unready inv)

section Calling

variable {calls : Calls} {inside : Call → Container → List Work}
  (alongside : Alongside (.direct p) old old' calls calls)
  (metered : ∀ {i s call}, Parallel (.direct p) old old' i s s → (Margin.direct p).Called call call →
    Does (inside call s) s (calls call s).2)
include alongside metered

/-- A call and what comes after it, if that does what it makes in turn. -/
theorem call_does {who : Component} {hasChain : Bool} {call : Call} {next : Result → Program}
    (h : Parallel (.direct p) old old' i s s) (called : (Margin.direct p).Called call call)
    (rest : ∀ r {j t}, Parallel (.direct p) old old' j t t →
      Does (((next r).made calls who hasChain t).flatMap fun made => inside made.1 made.2) t
        ((next r).run calls who hasChain t).2) :
    Does (((call, s) :: (calls call).thence (fun r => (next r).made calls who hasChain) s).flatMap
        fun made => inside made.1 made.2) s
      ((calls call >>= fun r => (next r).run calls who hasChain) s).2 := by
  rw [List.flatMap_cons, Run.flatMap_thence]
  exact Does.bind (alongside h called) (metered h called) fun _ _ _ h => rest _ h

omit metered in
theorem edit_does {who : Component} {action : ChainAction} {next : action.Answer → Program}
    (h : Parallel (.direct p) old old' i s s)
    (same : (action.perform calls who s).2.marks = s.marks)
    (rest : ∀ a {j t}, Parallel (.direct p) old old' j t t →
      Does (((next a).made calls who true t).flatMap fun made => inside made.1 made.2) t
        ((next a).run calls who true t).2) :
    Does (((action.perform calls who).thence (fun a => (next a).made calls who true) s).flatMap
        fun made => inside made.1 made.2) s
      ((action.perform calls who >>= fun a => (next a).run calls who true) s).2 := by
  rw [Run.flatMap_thence]
  exact Does.bindIdle (edit_tandem alongside h (Margin.component_pooling who) action) same
    fun _ _ _ h => rest _ h

/-- A program does what the calls that it makes do, by induction on the program. -/
theorem program_does (who : Component) (hasChain : Bool) (program : Program) :
    ∀ {i s}, Parallel (.direct p) old old' i s s →
      Does ((program.made calls who hasChain s).flatMap fun made => inside made.1 made.2) s
        (program.run calls who hasChain s).2 := by
  induction program with
  | finish result => exact fun _ => .still rfl
  | panic message => exact fun _ => .still rfl
  | act action next ih =>
    intro i s h
    unfold Program.run Program.made
    rw [Run.flatMap_thence]
    exact Does.bindIdle (perform_tandem h (Margin.component_pooling who) action)
      (perform_unmarked who action s) fun _ _ _ h => ih _ h
  | chain action next ih =>
    intro i s h
    unfold Program.run Program.made
    cases hasChain with
    | false => exact .still rfl
    | true =>
      cases action with
      | proceed => exact call_does alongside metered h .proceed ih
      | reuse | release | observe | gauge => exact edit_does alongside h rfl fun a => ih a
  | dispatch dispatcher target next ih =>
    intro i s h
    unfold Program.run Program.made
    rw [Run.get_bind_apply]
    rcases rel_cases h.attached with ⟨none, -⟩ | ⟨q, q', some, -, same, rfl⟩
    · rw [none]
      exact ih _ h
    · rw [some]
      obtain rfl := same
      exact call_does alongside metered h (.dispatch dispatcher target ⟨rfl, rfl⟩) ih
  | withResponse response body next within ih =>
    intro i s h
    have self := body.like_self (m := .direct p) rfl (.inl trivial) (.inl trivial)
    have tandem := onResponse_tandem response
      (fun h => run_tandem alongside (Margin.component_pooling who) hasChain self h) h
    unfold Program.run Program.made
    rw [List.flatMap_append, Run.flatMap_thence]
    exact Does.bind tandem (within (h.newResponse response)) fun _ _ _ h => ih _ _ h
  | reload config next ih =>
    intro i s h
    unfold Program.run Program.made
    rw [Run.get_bind_apply]
    rcases rel_cases h.attached with ⟨none, -⟩ | ⟨q, q', some, -, same, rfl⟩
    · rw [none]
      exact ih _ h
    · rw [some]
      obtain rfl := same
      exact call_does alongside metered h (.reload config ⟨rfl, rfl⟩) ih

theorem doFilter_does (h : Parallel (.direct p) old old' i s s) :
    Does (Traversal.works calls inside s) s (Traversal.doFilter calls s).2 := by
  rw [doFilter_direct h.direct, step_eq]
  rcases h.prepare with ⟨same, unready⟩ | ⟨inv, t, j, ready, h', counted⟩
  · rw [works_of_unready calls inside h.direct unready]
    rcases ran : Traversal.prepare s with ⟨halt | failure | inv, t⟩ <;> rw [ran] at same
    · rw [Run.bind_of_error ran]
      exact .still same
    · rw [Run.bind_of_ok ran]
      exact .still same
    · exact absurd (congrArg Prod.fst ran) (unready inv)
  · have invoked : Marked [.invoked inv.stage inv.component.name] t
        (t.invoke inv.stage inv.component) := .note t rfl
    have called := program_does alongside metered inv.component inv.stage.hasChain
      inv.component.program (h'.note (.same (inv.event t)))
    have close : ∀ u, (inv.close u).marks = u.marks := by
      intro u
      unfold Invocation.close
      split <;> rfl
    rw [works_of_ready calls inside h.direct ready, Run.bind_of_ok ready, call_apply,
      privileged_direct h'.direct]
    exact (((counted.trans invoked).trans called).before (close _) :)

/-! ### Visits -/

omit alongside metered in
/-- A chain is asked of the pool for a traversal of the service's own only, and that is counted. -/
theorem take_marked (h : Parallel (.direct p) old old' i s s) {x : Pipeline}
    (found : s.pipelines.find? p = some x) (servlet : String) (pooled : Bool) :
    ∃ chain t j, Pipeline.take p x servlet pooled s = (.ok chain, t) ∧ i.In j ∧
      Parallel (.direct p) old old' j t t ∧ chain.Like (.direct p) j chain ∧
      Marked (if pooled then [.measured (.poolAcquired false)] else []) s t := by
  have same := h.pipelines (p := p) (q := p) ⟨rfl, rfl⟩
  rw [found] at same
  cases same with
  | some like =>
    have executor : x.executor = none := like.executor
    unfold Pipeline.take
    rw [executor]
    cases pooled with
    | false =>
      exact ⟨x.newChain, s, i, rfl, .refl i, h,
        ⟨.nil, rfl, .none, rfl, .inl ⟨like.executor, like.executor⟩, rfl, fun _ => rfl⟩, .still rfl⟩
    | true =>
      obtain ⟨taken, -⟩ := acquire_tidy found like.tidy servlet
      have corresponds : (Margin.direct p).pipeline p p := ⟨rfl, rfl⟩
      obtain ⟨-, -, j, within, after, ends⟩ :=
        acquire_tandem corresponds rfl rfl found found like rfl h
      have marked : Marked [.measured (.poolAcquired false)] s
          ((s.updatePipeline p fun y => { y with pool := (x.pool.acquire servlet).2 }).note
            (.measured (.poolAcquired (x.pool.acquire servlet).1.isSome))) :=
        (Marked.note _ rfl).after (s.updatePipeline_marks p _)
      change ∃ chain t j, Pipeline.acquire p servlet s = (.ok chain, t) ∧ _
      rw [taken] at after ends ⊢
      cases ends with
      | ok chains => exact ⟨_, _, j, rfl, within, after, chains.1, marked⟩

omit alongside metered in
/-- A chain that is populated is measured, where there are mappings to populate it from. -/
theorem populate_marked (r : Registry) (w : Wrapper) (s : Container) :
    Marked (if !r.mappings.isEmpty then
        [.measured (.chainBuilt (s.chain.populated r w s.request.dispatch).filters.length)] else []) s
      (Chain.populate r w s).2 := by
  rw [populate_eq]
  change List.filterMap Event.mark? (s.chain.populating r w s.request.dispatch ++ s.journal) = _
  rw [List.filterMap_append, Chain.populating]
  cases r.mappings.isEmpty with
  | true => rfl
  | false =>
    have skipped : ∀ names : List String, ((names.map fun name =>
        Event.logged (Chain.skipLine w.name name)).reverse).filterMap Event.mark? = [] := by
      intro names
      refine List.filterMap_eq_nil_iff.2 fun e member => ?_
      obtain ⟨name, -, rfl⟩ := List.mem_map.1 (List.mem_reverse.1 member)
      rfl
    rw [if_neg Bool.false_ne_true, List.filterMap_cons, skipped]
    rfl

omit alongside metered in
theorem enter_marked (h : Parallel (.direct p) old old' i s s) {r : Registry} {w : Wrapper}
    (like : r.Like (.direct p) i r) (alike : w.Like (.direct p) w) {chain : Chain}
    (chains : chain.Like (.direct p) i chain) :
    ∃ u j, Pipeline.enter p r w { s with chain, nesting := s.nesting + 1 } = (.ok (), u) ∧
      Parallel (.direct p) old old' j u u ∧
      Marked (.traversed r.serial ::
        if !r.mappings.isEmpty then [.measured (.chainBuilt u.chain.filters.length)] else []) s u := by
  let event : Event := .traversed (s.nesting + 1) p r.serial w.name s.request.dispatch
  let v : Container := { s with chain, nesting := s.nesting + 1 }.note event
  have begun : Parallel (.direct p) old old' i v v := (h.moveTo chains rfl).note (.same event)
  obtain ⟨-, -, j, -, populated, -⟩ := populate_tandem begun like alike
  obtain ⟨-, -, k, -, entered, -⟩ := recordNonAsync_tandem populated alike
  have marked : Marked [.traversed r.serial] s v := .note s (e := event) rfl
  have filled := marked.trans (populate_marked r w v)
  rw [populate_eq] at entered filled
  exact ⟨_, k, Run.bind_of_ok (populate_eq r w v), entered, filled⟩

theorem dispatchTo_does (h : Parallel (.direct p) old old' i s s) {r : Registry} {w : Wrapper}
    (like : r.Like (.direct p) i r) (alike : w.Like (.direct p) w) (state : DispatchState)
    (pooled : Bool) :
    Does (Pipeline.startWorks calls inside r pooled (Pipeline.starts p r w state pooled s)) s
      (Pipeline.dispatchTo calls p r w state pooled s).2 := by
  let opened := s.updateRequest fun r => { r with dispatch := state }
  have h : Parallel (.direct p) old old' i opened opened :=
    h.updateRequest (fun _ _ _ => rfl) (fun _ => rfl) fun _ => rfl
  unfold Pipeline.dispatchTo Pipeline.starts
  rw [Run.get_bind_apply, Run.modify_bind_apply, show s.updateRequest _ = opened from rfl]
  cases found : s.pipelines.find? p with
  | none =>
    rw [Run.bind_of_ok (runChain_none (s := opened) calls r w pooled found)]
    exact .still rfl
  | some x =>
    have found' : opened.pipelines.find? p = some x := found
    obtain ⟨chain, t, j, taken, within, h, chains, acquired⟩ := take_marked h found' w.name pooled
    obtain ⟨u, k, entered, h, begun⟩ := enter_marked h (like.mono within) alike chains
    have inside' := doFilter_does alongside metered h
    have visit := (acquired.trans begun).trans inside'
    dsimp only
    rw [Run.thence_of_ok taken, entered, Run.bind_apply, runChain_some calls r w pooled found',
      Run.bind_of_ok taken, Run.bind_apply, inChain_apply, Run.bind_of_ok entered]
    have listed : (Pipeline.startWorks calls inside r pooled [u]).flatMap Work.marks =
        ((if pooled then [.measured (.poolAcquired false)] else []) ++
          .traversed r.serial :: if !r.mappings.isEmpty then
            [.measured (.chainBuilt u.chain.filters.length)] else []) ++
          (Traversal.works calls inside u).flatMap Work.marks := by
      rw [Pipeline.startWorks, List.flatMap_singleton, List.flatMap_cons]
      rfl
    rw [Does, listed]
    rcases ran : Traversal.doFilter calls u with ⟨halt | result, v⟩ <;> rw [ran] at visit
    · exact visit
    · refine visit.before ?_
      dsimp only [Except.map]
      generalize (pooled && x.executor.isNone) = idle
      cases idle with
      | false => rfl
      | true => exact (t.leave v).updatePipeline_marks p _

theorem divert_does (h : Parallel (.direct p) old old' i s s) {r : Registry}
    (like : r.Like (.direct p) i r) (dispatcher : Dispatcher) (target : Target) :
    Does (Pipeline.startWorks calls inside r false (match Pipeline.locate r target with
        | (none, _) => []
        | (some w, path) => Pipeline.starts p r w { dispatcher, path } false s)) s
      (Pipeline.divert calls p r dispatcher target s).2 := by
  have located := (locate_like like target).1
  unfold Pipeline.divert
  rcases found : Pipeline.locate r target with ⟨none | w, path⟩ <;> rw [found] at located
  · exact .still rfl
  · cases located with
    | some alike => exact dispatchTo_does alongside metered h like alike _ false

theorem dispatch_does (h : Parallel (.direct p) old old' i s s) (dispatcher : Dispatcher)
    (target : Target) :
    Does (Pipeline.dispatchWorks calls inside p dispatcher target s) s
      (Pipeline.dispatch calls p dispatcher target s).2 := by
  have deeper : Parallel (.direct p) old old' i s.deepen s.deepen :=
    h.updateRequest (fun _ _ _ => rfl) (fun _ => rfl) fun _ => rfl
  have leave : ∀ t : Container, (t.updateRequest fun r => { r with depth := r.depth - 1 }).marks =
      t.marks := fun _ => rfl
  unfold Pipeline.dispatchWorks Pipeline.dispatchStarts Pipeline.dispatch
  rw [Run.modify_bind_apply, Run.get_bind_apply, show s.updateRequest _ = s.deepen from rfl]
  dsimp only
  by_cases deep : maxDispatchDepth < s.deepen.request.depth
  · rw [if_pos deep, if_pos deep]
    cases s.pipelines.find? p <;> exact .still rfl
  rw [if_neg deep, if_neg deep]
  cases found : s.pipelines.find? p with
  | none =>
    rw [Run.bind_of_ok (dispatchNested_none calls dispatcher target (s := s.deepen) found)]
    exact .still rfl
  | some x =>
    have same := deeper.pipelines (p := p) (q := p) ⟨rfl, rfl⟩
    rw [show s.deepen.pipelines = s.pipelines from rfl, found] at same
    cases same with
    | some like =>
      have diverted := divert_does alongside metered (deeper.hold like.registry) like.registry
        dispatcher target
      have nested := (diverted.before (x.registry.letGo_marks _)).after (s := s) rfl
      rw [Run.bind_apply, dispatchNested_some calls dispatcher target (s := s.deepen) found]
      cases (Pipeline.divert calls p x.registry dispatcher target (x.registry.hold s.deepen)).1 with
      | error halt => exact nested
      | ok result => exact nested.before (leave _)

theorem answer_does (h : Parallel (.direct p) old old' i s s) {call : Call}
    (called : (Margin.direct p).Called call call) :
    Does (call.works calls inside s) s (call.answer calls s).2 := by
  cases called with
  | proceed => exact doFilter_does alongside metered h
  | @dispatch q _ dispatcher target corresponds =>
    obtain rfl : q = p := corresponds.2
    exact dispatch_does alongside metered h dispatcher target
  | @reload q _ config corresponds =>
    change Does [] s ((Pipeline.reload q config >>= fun r => pure _) s).2
    rw [Run.bind_pure_snd]
    exact .still (Pipeline.reload_unmarked q config s)

end Calling

/-- The calls of components do the work that is listed for them, by induction on the levels. -/
theorem nestedCalls_does (levels : Nat) : ∀ {i s call}, Parallel (.direct p) old old' i s s →
    (Margin.direct p).Called call call →
    Does (nestedWorks levels call s) s (nestedCalls levels call s).2 := by
  induction levels with
  | zero => exact fun _ _ => .still rfl
  | succ n ih => exact fun h called => answer_does (nestedCalls_alongside n) ih h called

/-! ### Servicing requests -/

/-- The marks of a failure that ends the servicing of a request. -/
def ServiceError.marks : Except Halt (Except ServiceError Unit) → List Mark
  | .ok (.error (.chain failure)) => [.measured (.chainFailed failure.kind)]
  | _ => []

theorem startWorks_append (calls : Calls) (inside : Call → Container → List Work) (r : Registry)
    (own : Bool) (first later : List Container) :
    Pipeline.startWorks calls inside r own (first ++ later) =
      Pipeline.startWorks calls inside r own first ++ Pipeline.startWorks calls inside r own later :=
  List.flatMap_append

theorem startWorks_thence (calls : Calls) (inside : Call → Container → List Work) (r : Registry)
    (own : Bool) (x : Run α) (next : α → Container → List Container) (s : Container) :
    Pipeline.startWorks calls inside r own (x.thence next s) =
      x.thence (fun a t => Pipeline.startWorks calls inside r own (next a t)) s :=
  Run.flatMap_thence x next _ s

section Servicing

variable {calls : Calls} {inside : Call → Container → List Work} {r : Registry}

theorem resume_does {again : Run Result} {start : Container → List Container} (n : Nat)
    (tandem : ∀ {j u}, i.In j → Parallel (.direct p) old old' j u u →
      Tandem (.direct p) old old' j (fun _ => (Margin.direct p).Result) u u (again u) (again u))
    (once : ∀ {j u}, i.In j → Parallel (.direct p) old old' j u u →
      Does (Pipeline.startWorks calls inside r true (start u)) u (again u).2) :
    ∀ {j s}, i.In j → Parallel (.direct p) old old' j s s →
      Does (Pipeline.startWorks calls inside r true (Pipeline.resumptions again start n s)) s
        (Pipeline.resume again n s).2 := by
  induction n with
  | zero =>
    intro j s _ _
    unfold Pipeline.resume Pipeline.resumptions
    rw [Run.bind_of_ok (takeAsync_apply s)]
    cases s.request.asyncStarted <;> exact .still rfl
  | succ n ih =>
    intro j s within h
    unfold Pipeline.resume Pipeline.resumptions
    rw [Run.bind_of_ok (takeAsync_apply s), Run.thence_of_ok (takeAsync_apply s)]
    cases s.request.asyncStarted with
    | false => exact .still rfl
    | true =>
      let taken := s.updateRequest fun r => { r with asyncStarted := false }
      have h : Parallel (.direct p) old old' j taken taken :=
        h.updateRequest (fun _ _ _ => rfl) (fun _ => rfl) fun _ => rfl
      rw [if_pos rfl, if_pos rfl, startWorks_append, startWorks_thence]
      refine Marked.after (t := taken) (Does.bind (tandem within h) (once within h) ?_) rfl
      intro k result t _ further _ h
      cases result with
      | error failure => exact .still rfl
      | ok done => exact ih (within.trans further) h

variable (alongside : Alongside (.direct p) old old' calls calls)
  (metered : ∀ {i s call}, Parallel (.direct p) old old' i s s → (Margin.direct p).Called call call →
    Does (inside call s) s (calls call s).2)
include alongside metered

theorem traverse_does (h : Parallel (.direct p) old old' i s s) (like : r.Like (.direct p) i r)
    {w : Wrapper} (alike : w.Like (.direct p) w) (path : String) :
    Does (Pipeline.startWorks calls inside r true (Pipeline.traversals calls p r w path s)) s
      (Pipeline.traverse calls p r w path s).2 := by
  have corresponds : (Margin.direct p).pipeline p p := ⟨rfl, rfl⟩
  have visit := fun {j u} (within : i.In j) (h : Parallel (.direct p) old old' j u u) dispatcher =>
    dispatchTo_does alongside metered h (like.mono within) alike { dispatcher, path := some path } true
  have tandem := fun {j u} (within : i.In j) (h : Parallel (.direct p) old old' j u u) dispatcher =>
    dispatchTo_tandem alongside corresponds (like.mono within) alike
      { dispatcher, path := some path } true h
  unfold Pipeline.traverse Pipeline.traversals
  dsimp only
  rw [startWorks_append, startWorks_thence]
  refine Does.bind (tandem (.refl i) h .request) (visit (.refl i) h .request) ?_
  intro j result t _ within _ h
  cases result with
  | error failure => exact .still rfl
  | ok done =>
    exact resume_does maxAsyncDispatches (fun within h => tandem within h .async)
      (fun within h => visit within h .async) within h

theorem serviceWith_does (h : Parallel (.direct p) old old' i s s) {x : Pipeline}
    (found : s.pipelines.find? p = some x) :
    Marked ((Pipeline.serviceWorks calls inside p s).flatMap Work.marks ++
        ServiceError.marks (Pipeline.serviceWith calls p s).1) s
      (Pipeline.serviceWith calls p s).2 := by
  have same := h.pipelines (p := p) (q := p) ⟨rfl, rfl⟩
  rw [found] at same
  cases same with
  | some like =>
    have corresponds : (Margin.direct p).pipeline p p := ⟨rfl, rfl⟩
    have held : Parallel (.direct p) old old' i (x.registry.hold (s.attach p))
        (x.registry.hold (s.attach p)) := (h.attach corresponds).hold like.registry
    have mapped := mapServlet_like like.registry s.request.path
    unfold Pipeline.serviceWorks Pipeline.serviceStarts
    rw [serviceWith_some calls found, found]
    refine Marked.before ?_ (x.registry.letGo_marks _)
    unfold Pipeline.serviceOn
    dsimp only
    cases target : x.registry.mapServlet s.request.path with
    | none => exact .still rfl
    | some w =>
      rw [target] at mapped
      cases mapped with
      | some alike =>
        have traversed := traverse_does alongside metered held like.registry alike s.request.path
        dsimp only
        rw [Run.bind_apply]
        rcases ran : Pipeline.traverse calls p x.registry w s.request.path
            (x.registry.hold (s.attach p)) with ⟨halt | failure | done, t⟩ <;>
          rw [ran] at traversed
        · exact traversed.trans (.still rfl)
        · exact traversed.trans (Marked.note t (e := .measured (.chainFailed failure.kind)) rfl)
        · exact traversed.trans (.still rfl)

end Servicing

/-! ### Using a pipeline -/

theorem Run.bind_pure_apply (x : Run α) (f : α → β) (s : Container) :
    (x >>= fun a => pure (f a)) s = ((x s).1.map f, (x s).2) := by
  rw [Run.bind_apply]
  rcases x s with ⟨halt | a, t⟩ <;> rfl

def Failure.mark (failure : Failure) : Mark := .measured (.chainFailed failure.kind)

/-- A use of a pipeline leaves the marks of its work, and one for the failure of a chain that it
reports. -/
theorem use_marked (h : Parallel (.direct p) old old' i s s) {x : Pipeline}
    (found : s.pipelines.find? p = some x) (u : Use) :
    Marked ((u.works p s).flatMap Work.marks ++ (s.report p u).failure?.toList.map Failure.mark) s
      (s.use p u) := by
  unfold Report.failure?
  change Marked (_ ++ ((match (u.run p s).1 with
    | .ok (.serviced (.error (.chain failure))) => some failure
    | _ => none : Option Failure).toList.map Failure.mark)) s (u.run p s).2
  cases u with
  | request spec => exact .still rfl
  | response => exact .still rfl
  | service levels =>
    have served := serviceWith_does (nestedCalls_alongside levels) (nestedCalls_does levels) h found
    rw [show Use.run p (.service levels) s = _ from
      Run.bind_pure_apply (Pipeline.serviceWith (nestedCalls levels) p) Answer.serviced s]
    rcases ran : Pipeline.serviceWith (nestedCalls levels) p s with
      ⟨halt | (path | failure) | done, t⟩ <;> rw [ran] at served <;> exact served
  | dispatch levels dispatcher target =>
    have sent := dispatch_does (nestedCalls_alongside levels) (nestedCalls_does levels) h dispatcher
      target
    rw [show Use.run p (.dispatch levels dispatcher target) s = _ from
      Run.bind_pure_apply (Pipeline.dispatch (nestedCalls levels) p dispatcher target)
        Answer.dispatched s]
    rcases ran : Pipeline.dispatch (nestedCalls levels) p dispatcher target s with
      ⟨halt | result, t⟩ <;> rw [ran] at sent <;> exact sent.trans (.still rfl)
  | reload config =>
    have unmarked := Pipeline.reload_unmarked p config s
    rw [show Use.run p (.reload config) s = _ from
      Run.bind_pure_apply (Pipeline.reload p config) Answer.reloaded s]
    rcases ran : Pipeline.reload p config s with ⟨halt | result, t⟩ <;> rw [ran] at unmarked <;>
      exact .still unmarked

end Metering

end ServletFilters
