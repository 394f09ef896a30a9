import ServletFilters.Container.Host
import ServletFilters.Proofs.Chain.Population
import ServletFilters.Proofs.Container.Nesting

/-!
Where traversals start. A dispatch and the servicing of a request come to nothing, or they visit a
servlet: then their results are those of going on from a start, `dispatchTo_cases` and
`dispatch_cases`.
-/

namespace ServletFilters

/-- The state that a visit leaves behind, in the chain and at the level of the one around it. -/
def Container.leave (outer inner : Container) : Container :=
  { inner with chain := outer.chain, nesting := outer.nesting }

namespace Pipeline

/-- What a visit does before it goes on with its chain. -/
def enter (pipeline : Nat) (registry : Registry) (wrapper : Wrapper) : Run Unit := do
  let s ← get
  record (.traversed s.nesting pipeline registry.serial wrapper.name s.request.dispatch)
  Chain.populate registry wrapper
  recordNonAsync wrapper

def take (pipeline : Nat) (p : Pipeline) (servlet : String) (pooled : Bool) : Run Chain :=
  if pooled && p.executor.isNone then acquire pipeline servlet else pure p.newChain

/-- The state in which a visit to a servlet starts its chain, if there is the pipeline. -/
def starts (pipeline : Nat) (registry : Registry) (wrapper : Wrapper) (state : DispatchState)
    (pooled : Bool) (s : Container) : List Container :=
  match s.pipelines.find? pipeline with
  | none => []
  | some p =>
    (take pipeline p wrapper.name pooled).thence
      (fun chain t => [(enter pipeline registry wrapper { t with chain, nesting := t.nesting + 1 }).2])
      (s.updateRequest fun r => { r with dispatch := state })

end Pipeline

def Container.deepen (s : Container) : Container :=
  s.updateRequest fun r => { r with depth := r.depth + 1 }

/-- The state in which a dispatch starts a chain, if it comes to that. -/
def Pipeline.dispatchStarts (pipeline : Nat) (dispatcher : Dispatcher) (target : Target)
    (s : Container) : List Container :=
  if maxDispatchDepth < s.deepen.request.depth then []
  else
    match s.pipelines.find? pipeline with
    | none => []
    | some p =>
      match locate p.registry target with
      | (none, _) => []
      | (some wrapper, path) =>
        starts pipeline p.registry wrapper { dispatcher, path } false (p.registry.hold s.deepen)

/-- The starts of the traversals after suspensions, so many at most. -/
def Pipeline.resumptions (again : Run Result) (start : Container → List Container) :
    Nat → Container → List Container
  | 0 => fun _ => []
  | n + 1 => takeAsync.thence fun suspended s =>
    if suspended then
      start s ++ again.thence (fun result t =>
        if result = .ok () then resumptions again start n t else []) s
    else []

/-- The starts of the traversals for a request: the first one, then one for each suspension. -/
def Pipeline.traversals (calls : Calls) (pipeline : Nat) (registry : Registry) (wrapper : Wrapper)
    (path : String) (s : Container) : List Container :=
  let visit (dispatcher : Dispatcher) : Run Result :=
    dispatchTo calls pipeline registry wrapper { dispatcher, path := some path } true
  let start (dispatcher : Dispatcher) : Container → List Container :=
    starts pipeline registry wrapper { dispatcher, path := some path } true
  start .request s ++ (visit .request).thence (fun result t =>
    if result = .ok () then resumptions (visit .async) (start .async) maxAsyncDispatches t else []) s

def Container.attach (s : Container) (p : Nat) : Container :=
  s.updateRequest fun r => { r with pipeline := r.pipeline.or (some p) }

/-- The starts of the traversals that a pipeline makes to service the current request. -/
def Pipeline.serviceStarts (calls : Calls) (pipeline : Nat) (s : Container) : List Container :=
  match s.pipelines.find? pipeline with
  | none => []
  | some p =>
    match p.registry.mapServlet s.request.path with
    | none => []
    | some wrapper =>
      traversals calls pipeline p.registry wrapper s.request.path (p.registry.hold (s.attach pipeline))

/-- The states in which chains are gone on with for a call. -/
def Call.starts : Call → Container → List Container
  | .proceed => fun s => [s]
  | .dispatch p dispatcher target => Pipeline.dispatchStarts p dispatcher target
  | .reload _ _ => fun _ => []

/-- A visit starts its chain in the second state: populated for the servlet, one level deeper. -/
structure Entered (p : Nat) (r : Registry) (w : Wrapper) (base : Chain) (s t : Container) : Prop where
  request : ∃ names, t.request = { s.request with nonAsyncComponents := names }
  quiet : Quiet ({ s with
      chain := base.populated r w s.request.dispatch
      nesting := s.nesting + 1 }.note
    (.traversed (s.nesting + 1) p r.serial w.name s.request.dispatch)) t

theorem Entered.appends {kind : Event → Prop} {p : Nat} {r : Registry} {w : Wrapper} {base : Chain}
    {s t : Container} (h : Entered p r w base s t)
    (begun : kind (.traversed (s.nesting + 1) p r.serial w.name s.request.dispatch))
    (plain : ∀ e, e.isPlain = true → kind e) : Appends kind s t :=
  Appends.trans ⟨[_], rfl, fun _ member => List.mem_singleton.1 member ▸ begun⟩
    (h.quiet.journal.imp plain)

/-- A chain with which a pipeline may start a visit: a new one, or an idle one if it has no executor. -/
def Pipeline.Lends (x : Pipeline) (pooled : Bool) (base : Chain) : Prop :=
  base.executor = x.executor ∨ (pooled = true ∧ x.executor = none ∧
    ∃ servlet, ∃ c ∈ x.pool.chains servlet, base.executor = c.executor)

theorem Pipeline.Lends.keeps {x : Pipeline} {pooled : Bool} {base : Chain} (h : x.Lends pooled base)
    {E : Executor} (privileged : x.executor = some E) : base.executor = some E := by
  rcases h with same | ⟨-, none, -⟩
  · exact same.trans privileged
  · rw [none] at privileged
    cases privileged

theorem inChain_apply (chain : Chain) (body : Run Result) (s : Container) :
    Pipeline.inChain chain body s =
      ((body { s with chain, nesting := s.nesting + 1 }).1.map
          (·, (body { s with chain, nesting := s.nesting + 1 }).2.chain),
        s.leave (body { s with chain, nesting := s.nesting + 1 }).2) := by
  change ((((body >>= fun result => (get : Run Container) >>= fun t => (pure (result, t.chain) : Run _))
      { s with chain, nesting := s.nesting + 1 }).1, s.leave ((body >>= fun result =>
        (get : Run Container) >>= fun t => (pure (result, t.chain) : Run _))
          { s with chain, nesting := s.nesting + 1 }).2) : _ × Container) = _
  rcases ran : body { s with chain, nesting := s.nesting + 1 } with ⟨halt | result, t⟩
  · rw [Run.bind_of_error ran]
    rfl
  · rw [Run.bind_of_ok ran]
    rfl

theorem enter_apply (p : Nat) (r : Registry) (w : Wrapper) (chain : Chain) (s : Container) :
    ∃ t, Pipeline.enter p r w { s with chain, nesting := s.nesting + 1 } = (.ok (), t) ∧
      Entered p r w chain s t := by
  obtain ⟨new, populated, plain⟩ := populate_apply r w
    ({ s with chain, nesting := s.nesting + 1 }.note
      (.traversed (s.nesting + 1) p r.serial w.name s.request.dispatch))
  refine ⟨_, Run.bind_of_ok populated, ⟨_, rfl⟩, Quiet.trans ?_ (recordNonAsync_quiet w _)⟩
  exact ⟨Nat.le_refl _, rfl, rfl, rfl, rfl, rfl, fun _ => rfl, fun _ => rfl, new, rfl, plain⟩

/-- What a visit does before it goes on: it populates the chain, and writes down for the request which
components stand against a suspension. -/
theorem enter_frame (p : Nat) (r : Registry) (w : Wrapper) (s : Container) :
    ∃ names journal, Pipeline.enter p r w s = (.ok (), { s with
      request := { s.request with nonAsyncComponents := names }
      chain := s.chain.populated r w s.request.dispatch
      journal }) :=
  ⟨_, _, Run.bind_of_ok (populate_eq r w
    (s.note (.traversed s.nesting p r.serial w.name s.request.dispatch)))⟩

/-- A chain is taken without a change, or out of the pool, and then that is told. -/
theorem take_apply (p : Nat) (x : Pipeline) (servlet : String) (pooled : Bool) (s : Container) :
    ∃ chain, Pipeline.take p x servlet pooled s = (.ok chain, s) ∨
      ∃ pool hit, Pipeline.take p x servlet pooled s = (.ok chain,
        (s.updatePipeline p fun q => { q with pool }).note (.measured (.poolAcquired hit))) := by
  unfold Pipeline.take
  split
  · unfold Pipeline.acquire
    rw [Run.get_bind_apply]
    cases s.pipelines.find? p with
    | none => exact ⟨_, .inl rfl⟩
    | some q => exact ⟨_, .inr ⟨_, _, rfl⟩⟩
  · exact ⟨_, .inl rfl⟩

theorem take_cases {p : Nat} {x : Pipeline} {s : Container} (found : s.pipelines.find? p = some x)
    (servlet : String) (pooled : Bool) :
    ∃ chain t, Pipeline.take p x servlet pooled s = (.ok chain, t) ∧ Quiet s t ∧
      t.request = s.request ∧ x.Lends pooled chain := by
  unfold Pipeline.take
  split
  · rename_i idle
    obtain ⟨pooling, unset⟩ := Bool.and_eq_true_iff.1 idle
    have plain : x.executor = none := by simpa using unset
    have quiet := acquire_quiet p servlet s
    unfold Pipeline.acquire at quiet ⊢
    rw [Run.get_bind_apply, found] at quiet ⊢
    refine ⟨_, _, rfl, quiet, ?_, ?_⟩
    · change (s.updatePipeline p _).request = s.request
      unfold Container.updatePipeline
      split <;> rfl
    · cases held : x.pool.chains servlet with
      | nil => exact .inl plain.symm
      | cons c rest => exact .inr ⟨pooling, plain, servlet, c, held ▸ List.mem_cons_self .., rfl⟩
  · exact ⟨_, s, rfl, .refl s, rfl, .inl rfl⟩

theorem runChain_none (calls : Calls) {p : Nat} (r : Registry) (w : Wrapper) (pooled : Bool)
    {s : Container} (none : s.pipelines.find? p = none) :
    Pipeline.runChain calls p r w pooled s = (.ok (.error Program.notAttached), s) := by
  unfold Pipeline.runChain
  rw [Run.get_bind_apply, none]
  rfl

theorem runChain_some (calls : Calls) {p : Nat} (r : Registry) (w : Wrapper) (pooled : Bool)
    {x : Pipeline} {s : Container} (found : s.pipelines.find? p = some x) :
    Pipeline.runChain calls p r w pooled s = (do
      let chain ← Pipeline.take p x w.name pooled
      let out ← Pipeline.inChain chain do
        Pipeline.enter p r w
        Traversal.doFilter calls
      if pooled && x.executor.isNone then Pipeline.giveBack p w.name out.2
      return out.1 : Run Result) s := by
  unfold Pipeline.runChain Pipeline.take Pipeline.enter
  rw [Run.get_bind_apply, found]
  simp only [bind_assoc]
  generalize (pooled && x.executor.isNone) = idle
  cases idle <;> rfl

/-- A visit fails where there is no such pipeline. Otherwise it ends as going on from its start does,
and leaves behind what that leaves, outside of the chain. -/
theorem dispatchTo_cases (calls : Calls) (p : Nat) (r : Registry) (w : Wrapper)
    (state : DispatchState) (pooled : Bool) (s : Container) :
    (s.pipelines.find? p = none ∧ Pipeline.starts p r w state pooled s = [] ∧
        ∃ t, Quiet s t ∧ Pipeline.dispatchTo calls p r w state pooled s =
          (.ok (.error Program.notAttached), t)) ∨
      ∃ x base t u, s.pipelines.find? p = some x ∧ x.Lends pooled base ∧
        Pipeline.starts p r w state pooled s = [u] ∧ Quiet s t ∧
        t.request = { s.request with dispatch := state } ∧ Entered p r w base t u ∧
        (Pipeline.dispatchTo calls p r w state pooled s).1 = (Traversal.doFilter calls u).1 ∧
        Quiet (t.leave (Traversal.doFilter calls u).2)
          (Pipeline.dispatchTo calls p r w state pooled s).2 := by
  let opened := s.updateRequest fun r => { r with dispatch := state }
  have quiet : Quiet s opened := .exchange s rfl rfl
  unfold Pipeline.dispatchTo Pipeline.starts
  rw [Run.get_bind_apply, Run.modify_bind_apply, show s.updateRequest _ = opened from rfl]
  cases found : s.pipelines.find? p with
  | none =>
    rw [Run.bind_of_ok (runChain_none (s := opened) calls r w pooled found)]
    exact .inl ⟨rfl, rfl, opened.updateRequest fun r => { r with dispatch := s.request.dispatch },
      quiet.trans (.exchange opened rfl rfl), rfl⟩
  | some x =>
    have found' : opened.pipelines.find? p = some x := found
    obtain ⟨base, t, taken, step, request, lends⟩ := take_cases found' w.name pooled
    obtain ⟨u, enter, entered⟩ := enter_apply p r w base t
    refine .inr ⟨x, base, t, u, rfl, lends, ?_, quiet.trans step, ?_, entered, ?_⟩
    · dsimp only
      rw [Run.thence_of_ok taken, enter]
    · exact request
    · rw [Run.bind_apply, runChain_some calls r w pooled found', Run.bind_of_ok taken, Run.bind_apply,
        inChain_apply, Run.bind_of_ok enter]
      rcases ran : Traversal.doFilter calls u with ⟨halt | result, v⟩
      · exact ⟨rfl, .refl _⟩
      · dsimp only [Except.map]
        generalize (pooled && x.executor.isNone) = idle
        cases idle with
        | false => exact ⟨rfl, .exchange _ rfl rfl⟩
        | true => exact ⟨rfl, (giveBack_quiet p w.name v.chain _).trans (.exchange _ rfl rfl)⟩

theorem dispatch_deep (calls : Calls) {p : Nat} {dispatcher : Dispatcher} {target : Target}
    {s : Container} (deep : maxDispatchDepth < s.deepen.request.depth) :
    ∃ f t, f.passesThrough = true ∧ Quiet s t ∧
      Pipeline.dispatch calls p dispatcher target s = (.ok (.error f), t) := by
  unfold Pipeline.dispatch
  rw [Run.modify_bind_apply, Run.get_bind_apply, show s.updateRequest _ = s.deepen from rfl]
  dsimp only
  rw [if_pos deep]
  have opened : Quiet s s.deepen := .updateRequest s rfl
  exact ⟨_, _, rfl, (opened.trans (.note _ rfl)).trans
    (.updateRequest _ (f := fun r => { r with depth := r.depth - 1 }) rfl), rfl⟩

theorem dispatch_shallow (calls : Calls) (p : Nat) (dispatcher : Dispatcher) (target : Target)
    {s : Container} (shallow : ¬ maxDispatchDepth < s.deepen.request.depth) :
    (Pipeline.dispatch calls p dispatcher target s).1 =
        (Pipeline.dispatchNested calls p dispatcher target s.deepen).1 ∧
      Quiet (Pipeline.dispatchNested calls p dispatcher target s.deepen).2
        (Pipeline.dispatch calls p dispatcher target s).2 := by
  unfold Pipeline.dispatch
  rw [Run.modify_bind_apply, Run.get_bind_apply, show s.updateRequest _ = s.deepen from rfl]
  dsimp only
  rw [if_neg shallow, Run.bind_apply]
  rcases Pipeline.dispatchNested calls p dispatcher target s.deepen with ⟨halt | result, t⟩
  · exact ⟨rfl, .refl t⟩
  · exact ⟨rfl, .updateRequest t (f := fun r => { r with depth := r.depth - 1 }) rfl⟩

theorem dispatchNested_none (calls : Calls) {p : Nat} (dispatcher : Dispatcher) (target : Target)
    {s : Container} (none : s.pipelines.find? p = none) :
    Pipeline.dispatchNested calls p dispatcher target s = (.ok (.error Program.notAttached), s) := by
  unfold Pipeline.dispatchNested
  rw [Run.get_bind_apply, none]
  rfl

theorem dispatchNested_some (calls : Calls) {p : Nat} (dispatcher : Dispatcher) (target : Target)
    {x : Pipeline} {s : Container} (found : s.pipelines.find? p = some x) :
    Pipeline.dispatchNested calls p dispatcher target s =
      ((Pipeline.divert calls p x.registry dispatcher target (x.registry.hold s)).1, x.registry.letGo
        (Pipeline.divert calls p x.registry dispatcher target (x.registry.hold s)).2) := by
  unfold Pipeline.dispatchNested
  rw [Run.get_bind_apply, found]
  rfl

/-- A dispatch fails where there is no servlet for it or too many dispatches are going on. Otherwise
it ends as going on from its start does. -/
theorem dispatch_cases (calls : Calls) (p : Nat) (dispatcher : Dispatcher) (target : Target)
    (s : Container) :
    (Pipeline.dispatchStarts p dispatcher target s = [] ∧
        Ebbs s (Pipeline.dispatch calls p dispatcher target s).2 ∧
        ∃ f, f.passesThrough = true ∧
          (Pipeline.dispatch calls p dispatcher target s).1 = .ok (.error f)) ∨
      ∃ x w path base t u, s.pipelines.find? p = some x ∧
        Pipeline.locate x.registry target = (some w, path) ∧ base.executor = x.executor ∧
        Pipeline.dispatchStarts p dispatcher target s = [u] ∧ Ebbs s t ∧
        s.request.depth < maxDispatchDepth ∧
        t.request = { s.request with
          depth := s.request.depth + 1
          dispatch := { dispatcher, path } } ∧
        Entered p x.registry w base t u ∧
        (Pipeline.dispatch calls p dispatcher target s).1 = (Traversal.doFilter calls u).1 ∧
        Ebbs (t.leave (Traversal.doFilter calls u).2)
          (Pipeline.dispatch calls p dispatcher target s).2 := by
  unfold Pipeline.dispatchStarts
  by_cases deep : maxDispatchDepth < s.deepen.request.depth
  · obtain ⟨f, t, passes, quiet, ran⟩ := dispatch_deep calls (p := p) deep
    rw [if_pos deep, ran]
    exact .inl ⟨rfl, quiet.ebbs, f, passes, rfl⟩
  have opened : Quiet s s.deepen := .updateRequest s rfl
  obtain ⟨result, after⟩ := dispatch_shallow calls p dispatcher target deep
  rw [if_neg deep]
  cases found : s.pipelines.find? p with
  | none =>
    rw [dispatchNested_none calls dispatcher target (s := s.deepen) found] at result after
    exact .inl ⟨rfl, (opened.trans after).ebbs, _, rfl, result⟩
  | some x =>
    rw [dispatchNested_some calls dispatcher target (s := s.deepen) found] at result after
    have held : Ebbs s (x.registry.hold s.deepen) := opened.ebbs.trans (x.registry.hold_ebbs _)
    have after := (x.registry.letGo_ebbs _).trans after.ebbs
    unfold Pipeline.divert at result after
    rcases located : Pipeline.locate x.registry target with ⟨none | w, path⟩ <;>
      rw [located] at result after <;> simp only [located]
    · exact .inl ⟨trivial, held.trans after, _, rfl, result⟩
    · rcases dispatchTo_cases calls p x.registry w { dispatcher, path } false
          (x.registry.hold s.deepen) with
        ⟨absent, -⟩ | ⟨y, base, t, u, found', lends, starts, quiet, request, entered, same, left⟩
      · rw [show (x.registry.hold s.deepen).pipelines = s.pipelines from rfl, found] at absent
        cases absent
      · obtain rfl := Option.some.inj (found.symm.trans found')
        have new := lends.resolve_right (by rintro ⟨⟨⟩, -⟩)
        exact .inr ⟨x, w, path, base, t, u, rfl, located, new, starts, held.trans quiet.ebbs,
          Nat.le_of_not_lt deep, request, entered, result.trans same, left.ebbs.trans after⟩

theorem dispatch_fst {calls : Calls} {p : Nat} {dispatcher : Dispatcher} {target : Target}
    {s u : Container} (start : u ∈ Pipeline.dispatchStarts p dispatcher target s) :
    (Pipeline.dispatch calls p dispatcher target s).1 = (Traversal.doFilter calls u).1 := by
  rcases dispatch_cases calls p dispatcher target s with
    ⟨none, -⟩ | ⟨x, w, path, base, t, v, -, -, -, starts, -, -, -, -, same, -⟩
  · rw [none] at start
    cases start
  · rw [starts] at start
    rw [List.mem_singleton.1 start, same]

/-- Whatever adds up, and holds across each reload, holds across all that others do at a time. -/
theorem meanwhile_across {rel : Container → Container → Prop} (refl : ∀ s, rel s s)
    (trans : ∀ {s t u}, rel s t → rel t u → rel s u)
    (reload : ∀ p config s, rel s (Pipeline.reload p config s).2) (outside : Outside)
    (s : Container) : rel s (meanwhile outside s).2 := by
  change rel s ((outside s).foldl _ s)
  generalize outside s = jobs
  induction jobs generalizing s with
  | nil => exact refl s
  | cons job rest ih => exact trans (reload job.1 job.2 s) (ih _)

/-- A call is answered between what others do; where the answer is cut short, they do no more. -/
theorem callsAmid_answer (outside : Outside) (levels : Nat) (call : Call) (s : Container) :
    ∃ t, (t = (call.answer (callsAmid outside levels) (meanwhile outside s).2).2 ∨
        t = (meanwhile outside (call.answer (callsAmid outside levels) (meanwhile outside s).2).2).2) ∧
      callsAmid outside (levels + 1) call s =
        ((call.answer (callsAmid outside levels) (meanwhile outside s).2).1, t) := by
  change ∃ t, _ ∧ (meanwhile outside >>= fun _ => call.answer (callsAmid outside levels) >>=
    fun result => meanwhile outside >>= fun _ => pure result) s = (_, t)
  rw [Run.bind_of_ok (show meanwhile outside s = (.ok (), (meanwhile outside s).2) from rfl)]
  rcases ran : call.answer (callsAmid outside levels) (meanwhile outside s).2 with ⟨halt | result, t⟩
  · exact ⟨t, .inl rfl, Run.bind_of_error ran⟩
  · exact ⟨_, .inr rfl, Run.bind_of_ok ran⟩

theorem callsAmid_fst (outside : Outside) (levels : Nat) (call : Call) (s : Container) :
    (callsAmid outside (levels + 1) call s).1 =
      (call.answer (callsAmid outside levels) (meanwhile outside s).2).1 := by
  obtain ⟨t, -, ran⟩ := callsAmid_answer outside levels call s
  rw [ran]

/-! ### Servicing requests -/

theorem takeAsync_apply (s : Container) : Pipeline.takeAsync s =
    (.ok s.request.asyncStarted, s.updateRequest fun r => { r with asyncStarted := false }) := rfl

section Servicing

variable {P : Container → Prop}
  (taken : ∀ s, P s → P (s.updateRequest fun r => { r with asyncStarted := false }))
include taken

theorem resume_reaches {again : Run Result} {start : Container → List Container} (n : Nat) :
    ∀ s, P s →
      (∀ t, P t → (∀ u ∈ start t, u ∈ Pipeline.resumptions again start n s) → P (again t).2) →
      P (Pipeline.resume again n s).2 ∧
        ∀ u ∈ Pipeline.resumptions again start n s, ∃ t, P t ∧ u ∈ start t := by
  induction n with
  | zero =>
    intro s h _
    unfold Pipeline.resume Pipeline.resumptions
    rw [Run.bind_of_ok (takeAsync_apply s)]
    refine ⟨?_, by rintro u ⟨⟩⟩
    split
    · exact taken s h
    · exact taken s h
  | succ n ih =>
    intro s h kept
    unfold Pipeline.resume
    unfold Pipeline.resumptions at kept ⊢
    rw [Run.bind_of_ok (takeAsync_apply s)]
    simp only [Run.thence_of_ok (takeAsync_apply s)] at kept ⊢
    -- The mark is taken back whether there was one or not, so all else is said of the state after that.
    have h := taken s h
    generalize s.updateRequest _ = t at h kept ⊢
    cases suspended : s.request.asyncStarted with
    | false => exact ⟨h, by rintro u ⟨⟩⟩
    | true =>
      rw [suspended] at kept
      simp only [if_true] at kept ⊢
      have once := kept t h fun u member => List.mem_append_left _ member
      rcases ran : again t with ⟨halt | failure | done, v⟩ <;> rw [ran] at once
      · rw [Run.bind_of_error ran, Run.thence_of_error ran, List.append_nil]
        exact ⟨once, fun u member => ⟨t, h, member⟩⟩
      · rw [Run.bind_of_ok ran, Run.thence_of_ok ran, if_neg (by rintro ⟨⟩), List.append_nil]
        exact ⟨once, fun u member => ⟨t, h, member⟩⟩
      · rw [Run.thence_of_ok ran, if_pos rfl] at kept
        rw [Run.bind_of_ok ran, Run.thence_of_ok ran, if_pos rfl]
        obtain ⟨ends, met⟩ := ih v once fun w here inside =>
          kept w here fun u member => List.mem_append_right _ (inside u member)
        refine ⟨ends, fun u member => ?_⟩
        rcases List.mem_append.1 member with first | later
        · exact ⟨t, h, first⟩
        · exact met u later

theorem traverse_reaches {calls : Calls} {p : Nat} {r : Registry} {w : Wrapper} {path : String}
    {s : Container} (h : P s)
    (visit : ∀ dispatcher t, P t →
      (∀ u ∈ Pipeline.starts p r w { dispatcher, path := some path } true t,
        u ∈ Pipeline.traversals calls p r w path s) →
      P (Pipeline.dispatchTo calls p r w { dispatcher, path := some path } true t).2) :
    P (Pipeline.traverse calls p r w path s).2 ∧
      ∀ u ∈ Pipeline.traversals calls p r w path s, ∃ dispatcher t, P t ∧
        u ∈ Pipeline.starts p r w { dispatcher, path := some path } true t := by
  unfold Pipeline.traverse
  unfold Pipeline.traversals at visit ⊢
  dsimp only at visit ⊢
  have once := visit .request s h fun u member => List.mem_append_left _ member
  rcases ran : Pipeline.dispatchTo calls p r w { dispatcher := .request, path := some path } true s with
    ⟨halt | failure | done, v⟩ <;> rw [ran] at once
  · rw [Run.bind_of_error ran, Run.thence_of_error ran, List.append_nil]
    exact ⟨once, fun u member => ⟨.request, s, h, member⟩⟩
  · rw [Run.bind_of_ok ran, Run.thence_of_ok ran, if_neg (by rintro ⟨⟩), List.append_nil]
    exact ⟨once, fun u member => ⟨.request, s, h, member⟩⟩
  · rw [Run.thence_of_ok ran, if_pos rfl] at visit
    rw [Run.bind_of_ok ran, Run.thence_of_ok ran, if_pos rfl]
    obtain ⟨ends, met⟩ := resume_reaches taken maxAsyncDispatches v once fun t here inside =>
      visit .async t here fun u member => List.mem_append_right _ (inside u member)
    refine ⟨ends, fun u member => ?_⟩
    rcases List.mem_append.1 member with first | later
    · exact ⟨.request, s, h, first⟩
    · exact ⟨.async, met u later⟩

end Servicing

theorem dispatchTo_fst {calls : Calls} {p : Nat} {r : Registry} {w : Wrapper}
    {state : DispatchState} {pooled : Bool} {s u : Container}
    (start : u ∈ Pipeline.starts p r w state pooled s) :
    (Pipeline.dispatchTo calls p r w state pooled s).1 = (Traversal.doFilter calls u).1 := by
  rcases dispatchTo_cases calls p r w state pooled s with
    ⟨-, none, -⟩ | ⟨x, base, t, v, -, -, starts, -, -, -, same, -⟩
  · rw [none] at start
    cases start
  · rw [starts] at start
    rw [List.mem_singleton.1 start, same]

theorem resume_fails {calls : Calls} {again : Run Result} {start : Container → List Container}
    (same : ∀ {s u}, u ∈ start s → (again s).1 = (Traversal.doFilter calls u).1) {f : Failure}
    {u : Container} (failed : (Traversal.doFilter calls u).1 = .ok (.error f)) (n : Nat) :
    ∀ s, u ∈ Pipeline.resumptions again start n s →
      (Pipeline.resume again n s).1 = .ok (.error f) := by
  induction n with
  | zero => rintro s ⟨⟩
  | succ n ih =>
    intro s member
    unfold Pipeline.resume
    unfold Pipeline.resumptions at member
    rw [Run.bind_of_ok (takeAsync_apply s)]
    rw [Run.thence_of_ok (takeAsync_apply s)] at member
    generalize s.updateRequest _ = t at member ⊢
    cases suspended : s.request.asyncStarted with
    | false =>
      rw [suspended] at member
      cases member
    | true =>
      rw [suspended, if_pos rfl] at member
      rw [if_pos rfl]
      rcases List.mem_append.1 member with first | later
      · rcases ran : again t with ⟨out, v⟩
        have out : out = .ok (.error f) := by
          rw [← failed, ← same first, ran]
        subst out
        rw [Run.bind_of_ok ran]
        rfl
      · obtain ⟨result, v, ran, after⟩ := Run.mem_thence.1 later
        split at after
        · rename_i fine
          subst fine
          rw [Run.bind_of_ok ran]
          exact ih v after
        · cases after

theorem traverse_fails {calls : Calls} {p : Nat} {r : Registry} {w : Wrapper} {path : String}
    {s u : Container} {f : Failure} (start : u ∈ Pipeline.traversals calls p r w path s)
    (failed : (Traversal.doFilter calls u).1 = .ok (.error f)) :
    (Pipeline.traverse calls p r w path s).1 = .ok (.error f) := by
  unfold Pipeline.traversals at start
  unfold Pipeline.traverse
  dsimp only at start ⊢
  rcases List.mem_append.1 start with first | later
  · rcases ran : Pipeline.dispatchTo calls p r w { dispatcher := .request, path := some path } true s
      with ⟨out, v⟩
    have out : out = .ok (.error f) := by
      rw [← failed, ← dispatchTo_fst first, ran]
    subst out
    rw [Run.bind_of_ok ran]
    rfl
  · obtain ⟨result, v, ran, after⟩ := Run.mem_thence.1 later
    split at after
    · rename_i fine
      subst fine
      rw [Run.bind_of_ok ran]
      exact resume_fails dispatchTo_fst failed maxAsyncDispatches v after
    · cases after

theorem serviceOn_cases (calls : Calls) (p : Nat) (r : Registry) (path : String) (s : Container) :
    (r.mapServlet path = none ∧
        Pipeline.serviceOn calls p r path s = (.ok (.error (.notFound path)), s)) ∨
      ∃ w, r.mapServlet path = some w ∧
        (Pipeline.serviceOn calls p r path s).1 =
          (Pipeline.traverse calls p r w path s).1.map (·.mapError .chain) ∧
        Quiet (Pipeline.traverse calls p r w path s).2 (Pipeline.serviceOn calls p r path s).2 := by
  unfold Pipeline.serviceOn
  cases mapped : r.mapServlet path with
  | none => exact .inl ⟨rfl, rfl⟩
  | some w =>
    refine .inr ⟨w, rfl, ?_⟩
    rcases ran : Pipeline.traverse calls p r w path s with ⟨halt | failure | done, t⟩
    · dsimp only
      rw [Run.bind_of_error ran]
      exact ⟨rfl, .refl t⟩
    · dsimp only
      rw [Run.bind_of_ok ran]
      exact ⟨rfl, (Quiet.note t (e := .measured (.chainFailed failure.kind)) rfl).trans (.note _ rfl)⟩
    · dsimp only
      rw [Run.bind_of_ok ran]
      exact ⟨rfl, .refl t⟩

theorem serviceWith_none (calls : Calls) {p : Nat} {s : Container}
    (none : s.pipelines.find? p = none) :
    Pipeline.serviceWith calls p s = (.ok (.error (.chain Program.notAttached)), s.attach p) := by
  unfold Pipeline.serviceWith
  rw [Run.modify_bind_apply, Run.get_bind_apply, show (s.updateRequest _).pipelines = s.pipelines
    from rfl, none]
  rfl

theorem serviceWith_some (calls : Calls) {p : Nat} {x : Pipeline} {s : Container}
    (found : s.pipelines.find? p = some x) :
    Pipeline.serviceWith calls p s =
      ((Pipeline.serviceOn calls p x.registry s.request.path (x.registry.hold (s.attach p))).1,
        x.registry.letGo
          (Pipeline.serviceOn calls p x.registry s.request.path (x.registry.hold (s.attach p))).2) := by
  unfold Pipeline.serviceWith
  rw [Run.modify_bind_apply, Run.get_bind_apply, show (s.updateRequest _).pipelines = s.pipelines
    from rfl, found]
  rfl

/-- A pipeline that services a request finds no servlet for it, or ends as the traversals do that it
makes. -/
theorem serviceWith_traverses (calls : Calls) (p : Nat) (s : Container) :
    (Pipeline.serviceStarts calls p s = [] ∧ Ebbs s (Pipeline.serviceWith calls p s).2 ∧
        ∃ e, (Pipeline.serviceWith calls p s).1 = .ok (.error e) ∧
          ∀ f, e = .chain f → f.passesThrough = true) ∨
      ∃ x w, s.pipelines.find? p = some x ∧ x.registry.mapServlet s.request.path = some w ∧
        Pipeline.serviceStarts calls p s = Pipeline.traversals calls p x.registry w s.request.path
          (x.registry.hold (s.attach p)) ∧
        (Pipeline.serviceWith calls p s).1 = (Pipeline.traverse calls p x.registry w s.request.path
          (x.registry.hold (s.attach p))).1.map (·.mapError .chain) ∧
        Ebbs (Pipeline.traverse calls p x.registry w s.request.path
          (x.registry.hold (s.attach p))).2 (Pipeline.serviceWith calls p s).2 := by
  have attached : Quiet s (s.attach p) := .updateRequest s rfl
  unfold Pipeline.serviceStarts
  cases found : s.pipelines.find? p with
  | none =>
    rw [serviceWith_none calls found]
    refine .inl ⟨rfl, attached.ebbs, _, rfl, ?_⟩
    rintro f ⟨⟩
    rfl
  | some x =>
    rw [serviceWith_some calls found]
    rcases serviceOn_cases calls p x.registry s.request.path (x.registry.hold (s.attach p)) with
      ⟨unmapped, ran⟩ | ⟨w, mapped, result, quiet⟩
    · rw [ran]
      simp only [unmapped]
      refine .inl ⟨trivial, ?_, _, rfl, by rintro f ⟨⟩⟩
      exact (attached.ebbs.trans (x.registry.hold_ebbs _)).trans (x.registry.letGo_ebbs _)
    · simp only [mapped]
      exact .inr ⟨x, w, rfl, mapped, rfl, result, quiet.ebbs.trans (x.registry.letGo_ebbs _)⟩

end ServletFilters
