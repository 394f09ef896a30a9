import ServletFilters.Proofs.Container.Depth
import ServletFilters.Proofs.Parallel.Tandem

/-!
Dispatches and reloads of two runs. A chain may come out of the pool in one run and be new in the
other: once it is populated they are alike. `nestedCalls_alongside` closes the circle: calls of
every depth go the same way.
-/

namespace ServletFilters

/-- Letting go of a registry changes instances, holders and the journal. -/
theorem letGo_frame (r : Registry) (s : Container) :
    ∃ instances holders journal, r.letGo s = { s with instances, holders, journal } := by
  have release : ∀ (f : FilterConfig) (s : Container),
      ∃ instances journal, f.release s = { s with instances, journal } := by
    intro f s
    unfold FilterConfig.release
    split <;> exact ⟨_, _, rfl⟩
  have filters : ∀ (fs : List FilterConfig) (s : Container), ∃ instances journal,
      fs.foldl (fun s f => f.release s) s = { s with instances, journal } := by
    intro fs
    induction fs with
    | nil => exact fun s => ⟨_, _, rfl⟩
    | cons f rest ih =>
      intro s
      obtain ⟨_, _, first⟩ := release f s
      obtain ⟨_, _, later⟩ := ih (f.release s)
      rw [List.foldl_cons, later, first]
      exact ⟨_, _, rfl⟩
  have servlets : ∀ (ws : List Wrapper) (s : Container), ∃ journal, ws.foldl (fun s w =>
      s.note (.destroyed w.servlet.serial w.servlet.name w.servlet.announced)) s =
        { s with journal } := by
    intro ws
    induction ws with
    | nil => exact fun s => ⟨_, rfl⟩
    | cons w rest ih =>
      intro s
      obtain ⟨_, later⟩ :=
        ih (s.note (.destroyed w.servlet.serial w.servlet.name w.servlet.announced))
      rw [List.foldl_cons, later]
      exact ⟨_, rfl⟩
  unfold Registry.letGo Registry.destroy
  dsimp only
  split
  · exact ⟨_, _, _, rfl⟩
  · obtain ⟨_, _, released⟩ := filters r.filters.values
      ({ s with holders := s.holders.erase r.serial }.note (.released r.serial))
    obtain ⟨_, destroyed⟩ := servlets r.wrappers (r.filters.values.foldl (fun s f => f.release s)
      ({ s with holders := s.holders.erase r.serial }.note (.released r.serial)))
    rw [destroyed, released]
    exact ⟨_, _, _, rfl⟩

section Chains

variable {m : Margin} {i : Pairing} {s t : Container}

theorem rel_filterMap {R : α → β → Prop} {f : γ → Option α} {g : γ → Option β}
    (related : ∀ c, Option.Rel R (f c) (g c)) (l : List γ) :
    List.Forall₂ R (l.filterMap f) (l.filterMap g) := by
  induction l with
  | nil => exact .nil
  | cons c rest ih =>
    rcases rel_cases (related c) with ⟨none, none'⟩ | ⟨a, b, some, some', like⟩
    · rw [List.filterMap_cons_none none, List.filterMap_cons_none none']
      exact ih
    · rw [List.filterMap_cons_some some, List.filterMap_cons_some some']
      exact .cons like ih

theorem addFilter_like (fits : i.Fits m s t) {c d : Chain} (like : c.Like m i d) {f g : FilterConfig}
    (alike : f.Like m i g) : (c.addFilter f).Like m i (d.addFilter g) := by
  have present : ∀ {fs gs : List FilterConfig}, List.Forall₂ (FilterConfig.Like m i) fs gs →
      gs.any (fun k => k.serial == g.serial) = fs.any (fun k => k.serial == f.serial) := by
    intro fs gs likes
    induction likes with
    | nil => rfl
    | cons like _ ih =>
      obtain ⟨_, -, -, -, paired⟩ := like.made
      obtain ⟨_, -, -, -, paired'⟩ := alike.made
      rw [List.any_cons, List.any_cons, ih]
      congr 1
      rw [Bool.eq_iff_iff, beq_iff_eq, beq_iff_eq]
      exact (fits.apart paired paired').symm
  unfold Chain.addFilter
  rw [present like.filters]
  split
  · exact like
  · refine { like with
      filters := List.rel_append like.filters (.cons alike .nil)
      capacity := fun room => ?_ }
    dsimp only
    rw [like.filters.length_eq, like.capacity room]

theorem foldl_addFilter_like (fits : i.Fits m s t) {fs gs : List FilterConfig}
    (likes : List.Forall₂ (FilterConfig.Like m i) fs gs) {c d : Chain} (like : c.Like m i d) :
    (fs.foldl Chain.addFilter c).Like m i (gs.foldl Chain.addFilter d) := by
  induction likes generalizing c d with
  | nil => exact like
  | cons alike _ ih => exact ih (addFilter_like fits like alike)

theorem declared_like {r r' : Registry} (like : r.Like m i r') (names : List String) :
    List.Forall₂ (FilterConfig.Like m i) (Chain.declared r names) (Chain.declared r' names) :=
  rel_filterMap like.filters.find? names

end Chains

section Dispatches

variable {m : Margin} {old old' : List Event} {i : Pairing} {s t : Container}

theorem forM_tandem {f f' : γ → Run Unit}
    (each : ∀ x {i s t}, Parallel m old old' i s t →
      Tandem m old old' i (fun _ _ _ => True) s t (f x s) (f' x t))
    (l : List γ) (h : Parallel m old old' i s t) :
    Tandem m old old' i (fun _ _ _ => True) s t (l.forM f s) (l.forM f' t) := by
  induction l generalizing i s t with
  | nil => exact .pure h trivial
  | cons x rest ih => exact .bind (each x h) fun _ _ h _ _ => ih h

theorem reportUndeclared_tandem (h : Parallel m old old' i s t) {r r' : Registry}
    (like : r.Like m i r') (servlet : String) (names : List String) :
    Tandem m old old' i (fun _ _ _ => True) s t (Chain.reportUndeclared r servlet names s)
      (Chain.reportUndeclared r' servlet names t) := by
  have undeclared : (names.filter fun name => (r'.filters.find? name).isNone) =
      names.filter fun name => (r.filters.find? name).isNone := by
    refine List.filter_congr fun name _ => ?_
    rw [← Option.not_isSome, ← Option.not_isSome, rel_isSome (like.filters.find? name)]
  unfold Chain.reportUndeclared
  rw [undeclared]
  refine forM_tandem (fun name {_ _ _} h => ?_) _ h
  exact .record h (.same _)

theorem populate_tandem (h : Parallel m old old' i s t) {r r' : Registry} (like : r.Like m i r')
    {w w' : Wrapper} (alike : w.Like m w') :
    Tandem m old old' i (fun _ _ _ => True) s t (Chain.populate r w s) (Chain.populate r' w' t) := by
  unfold Chain.populate
  rw [Run.modify_bind_apply, Run.modify_bind_apply, like.mappings, alike.name]
  let u := s.updateChain fun c => c.release.setServlet w.servlet w.asyncSupported
  let v := t.updateChain fun c => c.release.setServlet w'.servlet w'.asyncSupported
  have emptied : Parallel m old old' i u v := h.updateChain
    { h.chain with
      filters := .nil
      position := rfl
      servlet := .some alike.servlet
      servletAsync := alike.asyncSupported }
  have same : ∀ (fs : List FilterConfig) (s : Container),
      Settles s (s.updateChain fun c => fs.foldl Chain.addFilter c) := by
    intro fs s
    obtain ⟨_, _, frame⟩ := foldl_addFilter_frame fs s.chain
    refine .quiet ?_ rfl (Nat.le_refl _) (.inl rfl) rfl rfl
    change (fs.foldl Chain.addFilter s.chain).executor = s.chain.executor
    rw [frame]
  refine .after (u := u) (v := v) ?_ (.quiet rfl rfl (Nat.le_refl _) (.inl rfl) rfl rfl) (.quiet rfl rfl (Nat.le_refl _) (.inl rfl) rfl rfl)
  split
  · rw [Run.get_bind_apply, Run.get_bind_apply, emptied.request_eq (·.dispatch) fun _ _ _ => rfl]
    generalize resolve r.mappings _ _ _ = names
    refine .bind (reportUndeclared_tandem emptied like _ _) fun within _ h _ _ => ?_
    rw [Run.modify_bind_apply, Run.modify_bind_apply, Run.get_bind_apply, Run.get_bind_apply]
    have filled := foldl_addFilter_like h.fits (declared_like (like.mono within) names) h.chain
    refine .after (.record (h.updateChain filled) ?_) (same _ _) (same _ _)
    exact .of_eq (congrArg (fun n => Event.measured (.chainBuilt n)) filled.filters.length_eq)
  · exact .pure emptied trivial

theorem recordNonAsync_tandem (h : Parallel m old old' i s t) {w w' : Wrapper}
    (alike : w.Like m w') :
    Tandem m old old' i (fun _ => Eq) s t (Pipeline.recordNonAsync w s)
      (Pipeline.recordNonAsync w' t) := by
  unfold Pipeline.recordNonAsync
  rw [Run.modify_apply, Run.modify_apply, h.chain.nonAsyncClasses, alike.asyncSupported,
    alike.className]
  exact .request h (fun _ _ _ => rfl) (fun _ => rfl) fun _ => rfl

theorem inChain_tandem {c d : Chain} (like : c.Like m i d) {body body' : Run Result}
    (bodies : ∀ {u v}, Parallel m old old' i u v →
      Tandem m old old' i (fun _ => m.Result) u v (body u) (body' v))
    (h : Parallel m old old' i s t) :
    Tandem m old old' i (fun j x y => m.Result x.1 y.1 ∧ x.2.Like m j y.2 ∧
        x.2.executor = c.executor ∧ y.2.executor = d.executor) s t (Pipeline.inChain c body s)
      (Pipeline.inChain d body' t) := by
  let u : Container := { s with chain := c, nesting := s.nesting + 1 }
  let v : Container := { t with chain := d, nesting := t.nesting + 1 }
  have entered : Parallel m old old' i u v := h.moveTo like (congrArg (· + 1) h.nesting)
  have inner : Tandem m old old' i (fun j x y => m.Result x.1 y.1 ∧ x.2.Like m j y.2 ∧
      x.2.executor = c.executor ∧ y.2.executor = d.executor) u v
      ((do let result ← body; return (result, (← get).chain) : Run (Result × Chain)) u)
      ((do let result ← body'; return (result, (← get).chain) : Run (Result × Chain)) v) :=
    .bind (bodies entered) fun _ like h settles settles' =>
      .pure h ⟨like, h.chain, settles.executor, settles'.executor⟩
  obtain ⟨settles, settles', j, within, left, ends⟩ := inner
  exact ⟨{ settles with executor := rfl, nesting := rfl },
    { settles' with executor := rfl, nesting := rfl }, j, within,
    left.moveTo (h.chain.mono within) h.nesting, ends⟩

/-- A chain taken out of a pool is empty, but for its room and the pipeline's settings. -/
theorem acquire_tidy {p : Nat} {x : Pipeline} (found : s.pipelines.find? p = some x) (tidy : x.Tidy)
    (servlet : String) :
    let taken := x.pool.acquire servlet
    Pipeline.acquire p servlet s =
        (.ok { tracking := x.trackLastServiced, capacity := (taken.1.getD {}).capacity },
          (s.updatePipeline p fun x => { x with pool := taken.2 }).note
            (.measured (.poolAcquired taken.1.isSome))) ∧
      ∀ name, ∀ c ∈ taken.2.chains name, c ∈ x.pool.chains name := by
  unfold Pipeline.acquire
  rw [Run.get_bind_apply, found]
  cases idle : x.pool.chains servlet with
  | nil =>
    have taken : x.pool.acquire servlet = (none, x.pool) := by rw [ChainPool.acquire, idle]
    dsimp only
    rw [taken]
    exact ⟨rfl, fun _ _ => id⟩
  | cons c rest =>
    let pool : ChainPool := { x.pool with idle := x.pool.idle.insert servlet rest }
    have taken : x.pool.acquire servlet = (some c, pool) := by rw [ChainPool.acquire, idle]
    -- Of all that an earlier traversal left in the chain, only its room is still there.
    obtain ⟨-, tracking, capacity, rfl⟩ := tidy servlet c (idle ▸ List.mem_cons_self ..)
    dsimp only
    rw [taken]
    refine ⟨rfl, fun name c member => ?_⟩
    rw [ChainPool.chains, Dict.find?_insert] at member
    split at member
    · rename_i same
      rw [same, idle]
      exact List.mem_cons_of_mem _ member
    · exact member

theorem Pipeline.Tidy.shrink {x : Pipeline} (tidy : x.Tidy) {pool : ChainPool}
    (fewer : ∀ name, ∀ c ∈ pool.chains name, c ∈ x.pool.chains name) :
    Pipeline.Tidy { x with pool } := fun name c member => tidy name c (fewer name c member)

theorem Pipeline.Tidy.giveBack {x : Pipeline} (tidy : x.Tidy) (servlet : String) {c : Chain}
    (executor : x.executor = none) (executor' : c.executor = none) :
    Pipeline.Tidy { x with pool := x.pool.giveBack servlet c } := by
  intro name d member
  refine ⟨executor, ?_⟩
  change d ∈ (x.pool.giveBack servlet c).chains name at member
  unfold ChainPool.giveBack at member
  split at member
  · rw [ChainPool.chains, Dict.find?_insert] at member
    split at member
    · rename_i same
      rcases List.mem_cons.1 member with rfl | member
      · exact ⟨c.tracking, c.capacity, by rw [Chain.release, executor']⟩
      · exact (tidy servlet d member).2
    · exact (tidy name d member).2
  · exact (tidy name d member).2

/-- Chains that are alike and have no executor are the same once they are given back, if they have the
same room. -/
theorem giveBack_like {c d : Chain} (like : c.Like m i d) (room : m.room) (executor : c.executor = none)
    (executor' : d.executor = none) (pool : ChainPool) (servlet : String) :
    pool.giveBack servlet d = pool.giveBack servlet c := by
  unfold ChainPool.giveBack Chain.release
  rw [like.tracking, like.capacity room, executor, executor']

theorem updatePool_settles (s : Container) (p : Nat) (f : Pipeline → ChainPool) :
    Settles s (s.updatePipeline p fun x => { x with pool := f x }) := by
  unfold Container.updatePipeline
  cases found : s.pipelines.find? p with
  | none => exact .refl s
  | some x =>
    refine ⟨rfl, rfl, Nat.le_refl _, .inl rfl, ⟨[], rfl⟩, fun q => ?_⟩
    dsimp only
    rw [Dict.find?_insert]
    split
    · rename_i here
      rw [here, found]
      exact .some ⟨rfl, rfl, .inl ⟨rfl, rfl⟩⟩
    · exact Pipeline.Succeeds.same q _ _

variable {calls calls' : Calls} {p q : Nat} {r r' : Registry} {w w' : Wrapper}

/-- A chain that is run, and that goes back to the pool in the first run, or in both, or in neither. -/
theorem visit_tandem (alongside : Alongside m old old' calls calls') (corresponds : m.pipeline p q)
    (like : r.Like m i r') (alike : w.Like m w') {c d : Chain} (chains : c.Like m i d)
    (pooled pooled' : Bool) (first : pooled = true → m.executor = none ∧ c.executor = none)
    (second : pooled' = true → pooled = true ∧ m.executor' = none ∧ d.executor = none)
    (even : m.room → pooled' = pooled) (h : Parallel m old old' i s t) :
    Tandem m old old' i (fun _ => m.Result) s t
      ((do
        let out ← Pipeline.inChain c do
          let s ← get
          record (.traversed s.nesting p r.serial w.name s.request.dispatch)
          Chain.populate r w
          Pipeline.recordNonAsync w
          Traversal.doFilter calls
        if pooled then Pipeline.giveBack p w.name out.2
        return out.1 : Run Result) s)
      ((do
        let out ← Pipeline.inChain d do
          let s ← get
          record (.traversed s.nesting q r'.serial w'.name s.request.dispatch)
          Chain.populate r' w'
          Pipeline.recordNonAsync w'
          Traversal.doFilter calls'
        if pooled' then Pipeline.giveBack q w'.name out.2
        return out.1 : Run Result) t) := by
  refine .bind (inChain_tandem chains ?_ h) ?_
  · intro u v h
    rw [Run.get_bind_apply, Run.get_bind_apply, h.nesting, alike.name,
      h.request_eq (·.dispatch) fun _ _ _ => rfl]
    refine .bind (.record h (.traversed _ _ _ corresponds fun exact =>
      h.fits.same exact like.paired)) fun within _ h _ _ => ?_
    refine .bind (populate_tandem h (like.mono within) alike) fun _ _ h _ _ => ?_
    refine .bind (recordNonAsync_tandem h alike) fun _ _ h _ _ => ?_
    exact doFilter_tandem alongside h
  · rintro j ⟨result, left⟩ ⟨result', left'⟩ u v - ⟨results, chains, executor, executor'⟩ h - -
    dsimp only at results chains executor executor' ⊢
    cases pooled with
    | false =>
      cases pooled' with
      | true => cases (second rfl).1
      | false => exact .pure h results
    | true =>
      obtain ⟨plain, empty⟩ := first rfl
      -- A traversal keeps the executor of its chain, and all else is reset when it is given back.
      have tidy : ∀ {x : Pipeline}, x.executor = m.executor → x.Tidy →
          Pipeline.Tidy { x with pool := x.pool.giveBack w.name left } :=
        fun own tidy => tidy.giveBack w.name (own.trans plain) (executor.trans empty)
      cases pooled' with
      | false =>
        refine .ok (h.updatePipelineFirst corresponds fun _ like => ?_) results
          (updatePool_settles _ _ _) (.refl _)
        exact { like with
          tidy := tidy like.executor like.tidy
          pool := fun room => by cases even room }
      | true =>
        obtain ⟨-, plain', empty'⟩ := second rfl
        refine .ok (h.updatePipeline corresponds fun _ _ like => ?_) results
          (updatePool_settles _ _ _) (updatePool_settles _ _ _)
        exact { like with
          tidy := tidy like.executor like.tidy
          tidy' := like.tidy'.giveBack w'.name (like.executor'.trans plain') (executor'.trans empty')
          pool := fun room => by
            rw [like.pool room, alike.name]
            exact giveBack_like chains room (executor.trans empty) (executor'.trans empty') _ _ }

theorem acquire_tandem (corresponds : m.pipeline p q) (plain : m.executor = none)
    (plain' : m.executor' = none) {x y : Pipeline} (found : s.pipelines.find? p = some x)
    (found' : t.pipelines.find? q = some y) (same : x.Like m i y) {servlet servlet' : String}
    (name : servlet' = servlet) (h : Parallel m old old' i s t) :
    Tandem m old old' i (fun j c d => c.Like m j d ∧ c.executor = none ∧ d.executor = none) s t
      (Pipeline.acquire p servlet s) (Pipeline.acquire q servlet' t) := by
  subst name
  obtain ⟨taken, fewer⟩ := acquire_tidy found same.tidy servlet'
  obtain ⟨taken', fewer'⟩ := acquire_tidy found' same.tidy' servlet'
  rw [taken, taken']
  have fresh : Chain.Like m i
      { tracking := x.trackLastServiced, capacity := ((x.pool.acquire servlet').1.getD {}).capacity }
      { tracking := y.trackLastServiced, capacity := ((y.pool.acquire servlet').1.getD {}).capacity } :=
    ⟨.nil, rfl, .none, rfl, .inl ⟨plain.symm, plain'.symm⟩, same.tracking,
      fun room => by rw [same.pool room]⟩
  refine .ok (Parallel.note (h.updatePipeline corresponds ?_) (.acquired _ _)) ⟨fresh, rfl, rfl⟩
    (.trans (updatePool_settles ..) (.note ..)) (.trans (updatePool_settles ..) (.note ..))
  intro x' y' here here' like
  obtain rfl := Option.some.inj (found.symm.trans here)
  obtain rfl := Option.some.inj (found'.symm.trans here')
  exact { like with
    tidy := like.tidy.shrink fewer
    tidy' := like.tidy'.shrink fewer'
    pool := fun room => by rw [like.pool room] }

theorem acquireFirst_tandem (corresponds : m.pipeline p q) (uneven : ¬ m.room)
    (plain : m.executor = none) (skipped : ∀ hit, m.first (.measured (.poolAcquired hit)))
    {x y : Pipeline} (found : s.pipelines.find? p = some x) (same : x.Like m i y) (servlet : String)
    (h : Parallel m old old' i s t) :
    Tandem m old old' i (fun j c d => c.Like m j d ∧ c.executor = none) s t
      (Pipeline.acquire p servlet s) ((pure y.newChain : Run Chain) t) := by
  obtain ⟨taken, fewer⟩ := acquire_tidy found same.tidy servlet
  rw [taken]
  refine .ok (Parallel.noteFirst (h.updatePipelineFirst corresponds ?_) (skipped _))
    ⟨⟨.nil, rfl, .none, rfl, .inl ⟨plain.symm, same.executor'⟩, same.tracking,
      fun room => absurd room uneven⟩, rfl⟩
    (.trans (updatePool_settles ..) (.note ..)) (.refl t)
  intro x' y' here like
  obtain rfl := Option.some.inj (found.symm.trans here)
  exact { like with tidy := like.tidy.shrink fewer, pool := fun room => absurd room uneven }

theorem runChain_tandem (alongside : Alongside m old old' calls calls') (corresponds : m.pipeline p q)
    (like : r.Like m i r') (alike : w.Like m w') (pooled : Bool) (h : Parallel m old old' i s t) :
    Tandem m old old' i (fun _ => m.Result) s t (Pipeline.runChain calls p r w pooled s)
      (Pipeline.runChain calls' q r' w' pooled t) := by
  unfold Pipeline.runChain
  rw [Run.get_bind_apply, Run.get_bind_apply]
  rcases rel_cases (h.pipelines corresponds) with ⟨none, none'⟩ | ⟨x, y, some, some', same⟩
  · rw [none, none']
    exact .pure h (m.result_refl _)
  rw [some, some']
  dsimp only
  rw [same.executor, same.executor']
  have fresh : x.newChain.Like m i y.newChain :=
    ⟨.nil, rfl, .none, rfl, .inl ⟨same.executor, same.executor'⟩, same.tracking, fun _ => rfl⟩
  have unpooled := visit_tandem alongside corresponds like alike fresh false false (by rintro ⟨⟩)
    (by rintro ⟨⟩) (fun _ => rfl) h
  cases pooled with
  | false => exact unpooled
  | true =>
  rcases m.pooled with even | ⟨uneven, plain, executed, skipped⟩
  · rw [← even]
    cases plain : m.executor with
    | some executor => exact unpooled
    | none =>
      have plain' : m.executor' = none := Option.isNone_iff_eq_none.1 (by rw [← even, plain]; rfl)
      refine .bind (acquire_tandem corresponds plain plain' some some' same alike.name h) ?_
      intro j c d u v within chains h _ _
      exact visit_tandem alongside corresponds (like.mono within) alike chains.1 true true
        (fun _ => ⟨plain, chains.2.1⟩) (fun _ => ⟨rfl, plain', chains.2.2⟩) (fun _ => rfl) h
  · rw [plain, executed]
    refine .bind (acquireFirst_tandem corresponds uneven plain skipped some same w.name h) ?_
    intro j c d u v within chains h _ _
    exact visit_tandem alongside corresponds (like.mono within) alike chains.1
      true false (fun _ => ⟨plain, chains.2⟩) (by rintro ⟨⟩) (fun room => absurd room uneven) h

theorem dispatchTo_tandem (alongside : Alongside m old old' calls calls')
    (corresponds : m.pipeline p q) (like : r.Like m i r') (alike : w.Like m w')
    (state : DispatchState) (pooled : Bool) (h : Parallel m old old' i s t) :
    Tandem m old old' i (fun _ => m.Result) s t (Pipeline.dispatchTo calls p r w state pooled s)
      (Pipeline.dispatchTo calls' q r' w' state pooled t) := by
  unfold Pipeline.dispatchTo
  rw [Run.get_bind_apply, Run.get_bind_apply, h.request_eq (·.dispatch) fun _ _ _ => rfl]
  refine .bind (.request h (fun _ _ _ => rfl) (fun _ => rfl) fun _ => rfl) fun within _ h _ _ => ?_
  refine .bind (runChain_tandem alongside corresponds (like.mono within) alike pooled h)
    fun _ results h _ _ => ?_
  exact .bind (.request h (fun _ _ _ => rfl) (fun _ => rfl) fun _ => rfl) fun _ _ h _ _ =>
    .pure h results

theorem mapServlet_like (like : r.Like m i r') (path : String) :
    Option.Rel (Wrapper.Like m) (r.mapServlet path) (r'.mapServlet path) := by
  have found := rel_find? (p := fun w => w.urlPatterns.any fun p => UrlPattern.accepts p path)
    (q := fun w => w.urlPatterns.any fun p => UrlPattern.accepts p path)
    (fun alike => by rw [alike.urlPatterns]) like.wrappers
  unfold Registry.mapServlet
  rcases rel_cases found with ⟨none, none'⟩ | ⟨w, w', some, some', alike⟩
  · rw [none, none']
    exact like.default
  · rw [some, some']
    exact .some alike

theorem locate_like (like : r.Like m i r') (target : Target) :
    Option.Rel (Wrapper.Like m) (Pipeline.locate r target).1 (Pipeline.locate r' target).1 ∧
      (Pipeline.locate r' target).2 = (Pipeline.locate r target).2 := by
  cases target with
  | path text => exact ⟨mapServlet_like like _, rfl⟩
  | named servlet =>
    exact ⟨rel_find? (fun alike => by rw [alike.name]) like.wrappers, rfl⟩

theorem divert_tandem (alongside : Alongside m old old' calls calls') (corresponds : m.pipeline p q)
    (like : r.Like m i r') (dispatcher : Dispatcher) (target : Target)
    (h : Parallel m old old' i s t) :
    Tandem m old old' i (fun _ => m.Result) s t (Pipeline.divert calls p r dispatcher target s)
      (Pipeline.divert calls' q r' dispatcher target t) := by
  obtain ⟨located, path⟩ := locate_like like target
  unfold Pipeline.divert
  generalize Pipeline.locate r target = found at located path
  generalize Pipeline.locate r' target = found' at located path
  obtain ⟨servlet, path⟩ := found
  obtain ⟨servlet', path'⟩ := found'
  dsimp only at located path
  subst path
  cases located with
  | none => exact .pure h (m.result_refl _)
  | some alike => exact dispatchTo_tandem alongside corresponds like alike _ false h

theorem letGo_settles (r : Registry) (s : Container) : Settles s (r.letGo s) := by
  have since := (r.letGo_calm s).journal.suffix
  obtain ⟨_, _, _, frame⟩ := letGo_frame r s
  rw [frame] at since ⊢
  exact .same rfl rfl (Nat.le_refl _) (.inl rfl) since rfl

theorem whileHeld_tandem {A : Pairing → α → β → Prop} (like : r.Like m i r') {body : Run α}
    {body' : Run β}
    (bodies : ∀ {u v}, Parallel m old old' i u v → Tandem m old old' i A u v (body u) (body' v))
    (h : Parallel m old old' i s t) :
    Tandem m old old' i A s t (r.whileHeld body s) (r'.whileHeld body' t) := by
  obtain ⟨settles, settles', j, within, after, ends⟩ := bodies (h.hold like)
  have held : ∀ (r : Registry) (s : Container), Settles s (r.hold s) :=
    fun _ _ => .same rfl rfl (Nat.le_refl _) (.inl rfl) ⟨[_], rfl⟩ rfl
  exact ⟨(held r s).trans (settles.trans (letGo_settles r _)),
    (held r' t).trans (settles'.trans (letGo_settles r' _)), j, within,
    after.letGo (like.mono within), ends⟩

theorem dispatchNested_tandem (alongside : Alongside m old old' calls calls')
    (corresponds : m.pipeline p q) (dispatcher : Dispatcher) (target : Target)
    (h : Parallel m old old' i s t) :
    Tandem m old old' i (fun _ => m.Result) s t
      (Pipeline.dispatchNested calls p dispatcher target s)
      (Pipeline.dispatchNested calls' q dispatcher target t) := by
  unfold Pipeline.dispatchNested
  rw [Run.get_bind_apply, Run.get_bind_apply]
  rcases rel_cases (h.pipelines corresponds) with ⟨none, none'⟩ | ⟨x, y, some, some', same⟩
  · rw [none, none']
    exact .pure h (m.result_refl _)
  · rw [some, some']
    exact whileHeld_tandem same.registry
      (divert_tandem alongside corresponds same.registry dispatcher target) h

theorem dispatch_tandem (alongside : Alongside m old old' calls calls')
    (corresponds : m.pipeline p q) (dispatcher : Dispatcher) (target : Target)
    (h : Parallel m old old' i s t) :
    Tandem m old old' i (fun _ => m.Result) s t (Pipeline.dispatch calls p dispatcher target s)
      (Pipeline.dispatch calls' q dispatcher target t) := by
  unfold Pipeline.dispatch
  refine .bind (.request h (fun _ _ _ => rfl) (fun _ => rfl) fun _ => rfl) fun _ _ h _ _ => ?_
  rw [Run.get_bind_apply, Run.get_bind_apply]
  dsimp only
  rw [h.request_eq (·.depth) fun _ _ _ => rfl, h.request_eq (·.id) fun _ _ _ => rfl]
  have back : ∀ {j u v} {result result' : Result}, m.Result result result' →
      Parallel m old old' j u v → Tandem m old old' j (fun _ => m.Result) u v
        ((do
          modify (·.updateRequest fun r => { r with depth := r.depth - 1 })
          return result : Run Result) u)
        ((do
          modify (·.updateRequest fun r => { r with depth := r.depth - 1 })
          return result' : Run Result) v) := fun results h =>
    .bind (.request h (fun _ _ _ => rfl) (fun _ => rfl) fun _ => rfl) fun _ _ h _ _ =>
      .pure h results
  split
  · exact .bind (.record h (.same _)) fun _ _ h _ _ => back (m.result_refl _) h
  · exact .bind (dispatchNested_tandem alongside corresponds dispatcher target h)
      fun _ results h _ _ => back results h

theorem swapRegistry_parallel (corresponds : m.pipeline p q) (like : r.Like m i r')
    (h : Parallel m old old' i s t) :
    Parallel m old old' i (Pipeline.swapRegistry p r s) (Pipeline.swapRegistry q r' t) := by
  unfold Pipeline.swapRegistry
  have installed := Parallel.note (Parallel.hold (h.updatePipeline corresponds
    (f := fun p => { p with registry := r }) (g := fun p => { p with registry := r' })
    fun _ _ same => { same with registry := like }) like)
    (.installed corresponds fun exact => h.fits.same exact like.paired)
  rcases rel_cases (h.pipelines corresponds) with ⟨none, none'⟩ | ⟨x, y, some, some', same⟩
  · rw [none, none']
    exact h
  · rw [some, some']
    exact installed.letGo same.registry

theorem swapRegistry_pipelines (s : Container) (p : Nat) (r : Registry) :
    ∃ instances holders journal, Pipeline.swapRegistry p r s =
      { s.updatePipeline p fun x => { x with registry := r } with instances, holders, journal } := by
  unfold Pipeline.swapRegistry
  cases found : s.pipelines.find? p with
  | none =>
    unfold Container.updatePipeline
    rw [found]
    exact ⟨_, _, _, rfl⟩
  | some x =>
    obtain ⟨_, _, _, frame⟩ := letGo_frame x.registry
      ((r.hold (s.updatePipeline p fun x => { x with registry := r })).note (.installed p r.serial))
    exact ⟨_, _, _, frame⟩

/-- The state once a registry and its settings are in place for a pipeline. -/
def Pipeline.install (p : Nat) (r : Registry) (config : Config) (s : Container) : Container :=
  ((Pipeline.swapRegistry p r s).updatePipeline p fun x =>
    { x with
      trackLastServiced := config.isolation.trackLastServiced
      pool := x.pool.clear }).note (.logged ⟨.info, "Pipeline registry reloaded", []⟩)

theorem install_frame {x : Pipeline} (found : s.pipelines.find? p = some x) (r : Registry)
    (config : Config) :
    ∃ pipelines instances holders journal, Pipeline.install p r config s =
        { s with pipelines, instances, holders, journal } ∧
      ∀ k, pipelines.find? k = if k = p then some
        { x with
          registry := r
          trackLastServiced := config.isolation.trackLastServiced
          pool := x.pool.clear } else s.pipelines.find? k := by
  obtain ⟨_, _, _, swapped⟩ := swapRegistry_pipelines s p r
  unfold Pipeline.install
  rw [swapped]
  unfold Container.updatePipeline
  dsimp only
  rw [found]
  dsimp only
  rw [Dict.find?_insert_self]
  refine ⟨_, _, _, _, rfl, fun k => ?_⟩
  rw [Dict.find?_insert, Dict.find?_insert]
  split <;> rfl

theorem install_parallel (corresponds : m.pipeline p q) (like : r.Like m i r') (config : Config)
    (h : Parallel m old old' i s t) :
    Parallel m old old' i (Pipeline.install p r config s) (Pipeline.install q r' config t) := by
  refine Parallel.note ?_ (.same _)
  refine (swapRegistry_parallel corresponds like h).updatePipeline corresponds fun _ _ same => ?_
  exact { same with
    tracking := rfl
    tidy := by rintro _ _ ⟨⟩
    tidy' := by rintro _ _ ⟨⟩
    pool := fun room => congrArg ChainPool.clear (same.pool room) }

/-! ### Reloads -/

section Reload

variable {config : Config} {x : Pipeline} (found : s.pipelines.find? p = some x)
include found

theorem reload_of_halt {halt : Halt} {u : Container}
    (ran : Registry.build config x.components s = (.error halt, u)) :
    Pipeline.reload p config s = (.error halt, u) := by
  unfold Pipeline.reload
  rw [Run.get_bind_apply, found]
  exact Run.bind_of_error ran

theorem reload_of_error {e : RegistryError} {u : Container}
    (ran : Registry.build config x.components s = (.ok (.error e), u)) :
    Pipeline.reload p config s = (.ok (.error e), u) := by
  unfold Pipeline.reload
  rw [Run.get_bind_apply, found]
  exact Run.bind_of_ok ran

theorem reload_of_ok {u : Container}
    (ran : Registry.build config x.components s = (.ok (.ok r), u)) :
    Pipeline.reload p config s = (.ok (.ok ()), Pipeline.install p r config
      (if config.security.privilegedExecution != x.executor.isSome then
        u.note (.logged .executionChanged) else u)) := by
  unfold Pipeline.reload
  rw [Run.get_bind_apply, found]
  refine (Run.bind_of_ok ran).trans ?_
  dsimp only
  split <;> rfl

end Reload

theorem reload_of_none {config : Config} (none : s.pipelines.find? p = none) :
    Pipeline.reload p config s = (.ok (.ok ()), s) := by
  unfold Pipeline.reload
  rw [Run.get_bind_apply, none]
  rfl

theorem warn_grown (s : Container) (n : Nat) (counts : Dict String Nat) (new : List Event)
    (warn : Bool) :
    ∃ new', (if warn then (s.grown n counts new).note (.logged .executionChanged)
      else s.grown n counts new) = s.grown n counts new' := by
  split
  · exact ⟨.logged .executionChanged :: new, rfl⟩
  · exact ⟨new, rfl⟩

/-- What a reload leaves behind, given that building grows its container. -/
theorem reload_settles {config : Config} (grown : ∀ x, s.pipelines.find? p = some x →
      ∃ n counts new, s.nextSerial ≤ n ∧
        (Registry.build config x.components s).2 = s.grown n counts new) :
    Settles s (Pipeline.reload p config s).2 := by
  have since := (reload_aside p config s).journal.suffix
  cases found : s.pipelines.find? p with
  | none =>
    rw [reload_of_none found]
    exact .refl s
  | some x =>
    obtain ⟨n, counts, new, le, same⟩ := grown x found
    rcases ran : Registry.build config x.components s with ⟨halt | e | r, u⟩ <;>
      rw [ran] at same <;> obtain rfl : u = s.grown n counts new := same
    · rw [reload_of_halt found ran]
      exact .same rfl rfl le (.inl rfl) ⟨new, rfl⟩ rfl
    · rw [reload_of_error found ran]
      exact .same rfl rfl le (.inl rfl) ⟨new, rfl⟩ rfl
    · have done := reload_of_ok found ran
      -- With or without the warning, the container has only grown until the registry is installed.
      obtain ⟨new', warned⟩ := warn_grown s n counts new
        (config.security.privilegedExecution != x.executor.isSome)
      rw [warned] at done
      obtain ⟨_, _, _, _, frame, pipelines⟩ := install_frame
        (s := s.grown n counts new') found r config
      let y : Pipeline := { x with
        registry := r
        trackLastServiced := config.isolation.trackLastServiced
        pool := x.pool.clear }
      have left : y.LeftBy p config s := by
        rw [Pipeline.LeftBy, done, frame]
        exact ⟨rfl, y.pool, (pipelines p).trans (if_pos rfl)⟩
      rw [done, frame] at since ⊢
      refine ⟨rfl, rfl, le, .inl rfl, since, fun k => ?_⟩
      dsimp only
      rw [pipelines]
      split
      · rename_i here
        rw [here, found]
        refine .some ⟨rfl, rfl, .inr ⟨config, s, left, ?_⟩⟩
        simp only [done, frame, List.suffix_rfl]
      · exact Pipeline.Succeeds.same k _ _

theorem warn_parallel (privileged : Bool) (h : Parallel m old old' i s t) : Parallel m old old' i
    (if privileged != m.executor.isSome then s.note (.logged .executionChanged) else s)
    (if privileged != m.executor'.isSome then t.note (.logged .executionChanged) else t) := by
  rcases m.warned with even | ⟨first, second⟩
  · rw [← even]
    split
    · exact h.note (.same _)
    · exact h
  · generalize (privileged != m.executor.isSome) = warn
    generalize (privileged != m.executor'.isSome) = warn'
    cases warn <;> cases warn'
    · exact h
    · exact h.noteSecond second
    · exact h.noteFirst first
    · exact h.note (.same _)

theorem reload_tandem (corresponds : m.pipeline p q) (config : Config)
    (h : Parallel m old old' i s t) :
    Tandem m old old' i (fun _ => Eq) s t (Pipeline.reload p config s)
      (Pipeline.reload q config t) := by
  rcases rel_cases (h.pipelines corresponds) with ⟨none, none'⟩ | ⟨x, y, some, some', same⟩
  · rw [reload_of_none none, reload_of_none none']
    exact .ok h rfl (.refl s) (.refl t)
  obtain ⟨j, grows, ends⟩ := build_building config same.even h.fits
  obtain ⟨new, new', grown, grown', -⟩ := grows.journal
  have own := same.components
  refine ⟨reload_settles ?_, reload_settles ?_, j, grows.within, ?_⟩
  · intro z found
    obtain rfl := Option.some.inj (some.symm.trans found)
    exact ⟨_, _, new, grows.le, grown⟩
  · intro z found
    obtain rfl := Option.some.inj (some'.symm.trans found)
    rw [own]
    exact ⟨_, _, new', grows.le', grown'⟩
  have after := h.grow grows
  rcases ran : Registry.build config x.components s with ⟨halt | built, u⟩ <;>
    rcases ran' : Registry.build config x.components t with ⟨halt' | built', v⟩ <;>
      rw [ran, ran'] at ends after <;> rw [← own] at ran'
  case ok.ok =>
    cases ends with
    | ok ends =>
      cases ends with
      | error same =>
        rw [reload_of_error some ran, reload_of_error some' ran', same]
        exact ⟨after, .ok rfl⟩
      | @ok r r' like =>
        rw [reload_of_ok some ran, reload_of_ok some' ran', same.executor, same.executor']
        exact ⟨install_parallel corresponds like config (warn_parallel _ after), .ok rfl⟩
  case error.error =>
    rw [reload_of_halt some ran, reload_of_halt some' ran']
    cases ends with
    | error same => exact ⟨after, .error same⟩
  all_goals cases ends

theorem nestedCalls_alongside (levels : Nat) :
    Alongside m old old' (nestedCalls levels) (nestedCalls levels) := by
  -- The calls inside a call have one level less.
  induction levels with
  | zero => exact fun h _ => .halt h .exhausted
  | succ n ih =>
    intro i s t call call' h called
    cases called with
    | proceed => exact doFilter_tandem ih h
    | dispatch dispatcher target corresponds =>
      exact dispatch_tandem ih corresponds dispatcher target h
    | reload config corresponds =>
      refine .bind (reload_tandem corresponds config h) ?_
      rintro j result _ u v - rfl h - -
      exact .pure h (m.result_refl _)

end Dispatches

end ServletFilters
