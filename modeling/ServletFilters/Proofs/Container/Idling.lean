import ServletFilters.Proofs.Container.Passage
import ServletFilters.Proofs.Container.Restoring

/-!
The idle chains of pipelines. Whatever is done to the pools and to the host around them, an idle
chain is empty and no servlet has more of them than the pool's limit, `pools_idle`.
-/

namespace ServletFilters

/-! ### Pools -/

/-- The numbers of the filters and of the servlet that a chain refers to. -/
def Chain.refersTo (c : Chain) : List Nat :=
  c.filters.map (·.serial) ++ c.servlet.toList.map (·.serial)

/-- A chain with nothing in it. -/
structure Chain.Bare (c : Chain) : Prop where
  filters : c.filters = []
  position : c.position = 0
  servlet : c.servlet = none
  servletAsync : c.servletAsync = false

theorem Chain.release_bare (c : Chain) : c.release.Bare := ⟨rfl, rfl, rfl, rfl⟩

theorem Chain.Bare.refersTo {c : Chain} (h : c.Bare) : c.refersTo = [] := by
  rw [Chain.refersTo, h.filters, h.servlet]
  rfl

namespace ChainPool

/-- What can be done to a pool. -/
inductive Deed where
  | acquire (servlet : String)
  | giveBack (servlet : String) (chain : Chain)
  | clear

def apply (p : ChainPool) : Deed → ChainPool
  | .acquire servlet => (p.acquire servlet).2
  | .giveBack servlet chain => p.giveBack servlet chain
  | .clear => p.clear

/-- All idle chains are empty, and each servlet has as many of them at most as are wanted. -/
structure Sound (p : ChainPool) : Prop where
  bare : ∀ servlet, ∀ c ∈ p.chains servlet, c.Bare
  limited : ∀ servlet, p.idleCount servlet ≤ p.maxIdle

theorem chains_insert (p : ChainPool) (servlet : String) (idle : List Chain) (other : String) :
    chains { p with idle := p.idle.insert servlet idle } other =
      if other = servlet then idle else p.chains other := by
  unfold chains
  rw [Dict.find?_insert]
  split <;> rfl

theorem acquire_cases (p : ChainPool) (servlet : String) :
    (p.chains servlet = [] ∧ p.acquire servlet = (none, p)) ∨
      ∃ chain rest, p.chains servlet = chain :: rest ∧
        p.acquire servlet = (some chain, { p with idle := p.idle.insert servlet rest }) := by
  unfold acquire
  cases p.chains servlet with
  | nil => exact .inl ⟨rfl, rfl⟩
  | cons chain rest => exact .inr ⟨chain, rest, rfl, rfl⟩

/-- A chain that is handed out is in the pool no more, and all others stay. -/
theorem acquire_removes (p : ChainPool) (servlet : String) :
    p.chains servlet = (p.acquire servlet).1.toList ++ (p.acquire servlet).2.chains servlet ∧
      ∀ other, other ≠ servlet → (p.acquire servlet).2.chains other = p.chains other := by
  rcases p.acquire_cases servlet with ⟨none, ran⟩ | ⟨chain, rest, idle, ran⟩ <;> rw [ran]
  · exact ⟨rfl, fun _ _ => rfl⟩
  · refine ⟨?_, fun other differs => ?_⟩
    · rw [chains_insert, if_pos rfl]
      exact idle
    · rw [chains_insert, if_neg differs]

theorem maxIdle_apply (p : ChainPool) (deed : Deed) : (p.apply deed).maxIdle = p.maxIdle := by
  cases deed with
  | acquire servlet =>
    rcases p.acquire_cases servlet with ⟨-, ran⟩ | ⟨chain, rest, -, ran⟩ <;>
      exact congrArg (·.2.maxIdle) ran
  | giveBack servlet chain =>
    unfold apply giveBack
    dsimp only
    split <;> rfl
  | clear => rfl

theorem Sound.new (limit : Nat) : Sound { maxIdle := limit } :=
  ⟨by rintro _ _ ⟨⟩, fun _ => Nat.zero_le _⟩

theorem Sound.insert {p : ChainPool} (h : p.Sound) {servlet : String} {idle : List Chain}
    (bare : ∀ c ∈ idle, c.Bare) (limited : idle.length ≤ p.maxIdle) :
    Sound { p with idle := p.idle.insert servlet idle } := by
  constructor
  · intro other
    rw [chains_insert]
    split
    · exact bare
    · exact h.bare other
  · intro other
    rw [idleCount, chains_insert]
    split
    · exact limited
    · exact h.limited other

theorem Sound.apply {p : ChainPool} (h : p.Sound) (deed : Deed) : (p.apply deed).Sound := by
  cases deed with
  | acquire servlet =>
    change (p.acquire servlet).2.Sound
    rcases p.acquire_cases servlet with ⟨-, ran⟩ | ⟨chain, rest, idle, ran⟩ <;> rw [ran]
    · exact h
    · have limited := h.limited servlet
      rw [idleCount, idle, List.length_cons] at limited
      refine h.insert (fun c member => h.bare servlet c ?_) (by omega)
      rw [idle]
      exact List.mem_cons_of_mem _ member
  | giveBack servlet chain =>
    unfold ChainPool.apply giveBack
    dsimp only
    split
    · rename_i room
      refine h.insert (fun c member => ?_) room
      rcases List.mem_cons.1 member with rfl | idle
      · exact chain.release_bare
      · exact h.bare servlet c idle
    · exact h
  | clear => exact .new p.maxIdle

def applyAll (p : ChainPool) (deeds : List Deed) : ChainPool := deeds.foldl apply p

theorem Sound.applyAll {p : ChainPool} (h : p.Sound) (deeds : List Deed) :
    (p.applyAll deeds).Sound := by
  induction deeds generalizing p with
  | nil => exact h
  | cons deed rest ih => exact ih (h.apply deed)

theorem maxIdle_applyAll (p : ChainPool) (deeds : List Deed) :
    (p.applyAll deeds).maxIdle = p.maxIdle := by
  induction deeds generalizing p with
  | nil => rfl
  | cons deed rest ih => exact (ih (p.apply deed)).trans (p.maxIdle_apply deed)

def Vacant (p : ChainPool) : Prop := ∀ servlet, p.chains servlet = []

theorem Vacant.applyAll {p : ChainPool} (h : p.Vacant) {deeds : List Deed}
    (clears : ∀ deed ∈ deeds, deed = .clear) : (p.applyAll deeds).Vacant := by
  induction deeds generalizing p with
  | nil => exact h
  | cons deed rest ih =>
    obtain rfl := clears deed (List.mem_cons_self ..)
    exact ih (p := p.clear) (fun _ => rfl) fun d member => clears d (List.mem_cons_of_mem _ member)

end ChainPool

/-! ### What calls do to pools -/

def Container.pool? (s : Container) (p : Nat) : Option ChainPool := (s.pipelines.find? p).map (·.pool)

/-- Only the pools of those pipelines have changed that were given a new registry: they were cleared. -/
def Reserved (s t : Container) : Prop :=
  ∃ new, t.journal = new ++ s.journal ∧ ∀ p,
    ((∀ r, .installed p r ∉ new) → t.pool? p = s.pool? p) ∧
    ∀ r, .installed p r ∈ new → t.pool? p = (s.pool? p).map ChainPool.clear

theorem Reserved.of_uninstalled {s t : Container} (pipelines : t.pipelines = s.pipelines)
    (journal : Appends (fun e => ∀ p r, e ≠ .installed p r) s t) : Reserved s t := by
  obtain ⟨new, journal, none⟩ := journal
  refine ⟨new, journal, fun p => ⟨fun _ => ?_, fun r member => absurd rfl (none _ member p r)⟩⟩
  rw [Container.pool?, pipelines]
  rfl

theorem Aloof.reserved {s t : Container} (h : Aloof s t) : Reserved s t :=
  .of_uninstalled h.pipelines (h.journal.imp fun e uncharted p r same => by
    rw [same] at uncharted
    cases uncharted)

theorem Reserved.trans {s t u : Container} (h₁ : Reserved s t) (h₂ : Reserved t u) :
    Reserved s u := by
  obtain ⟨first, journal₁, pools₁⟩ := h₁
  obtain ⟨second, journal₂, pools₂⟩ := h₂
  refine ⟨second ++ first, by rw [journal₂, journal₁, List.append_assoc], fun p => ⟨?_, ?_⟩⟩
  · intro none
    rw [(pools₂ p).1 fun r member => none r (List.mem_append_left _ member),
      (pools₁ p).1 fun r member => none r (List.mem_append_right _ member)]
  · intro r member
    -- A pool that is cleared twice is as one that is cleared once.
    have once : ∀ {q : Option ChainPool}, q = s.pool? p ∨ q = (s.pool? p).map ChainPool.clear →
        q.map ChainPool.clear = (s.pool? p).map ChainPool.clear := by
      rintro q (rfl | rfl)
      · rfl
      · cases s.pool? p <;> rfl
    have before : t.pool? p = s.pool? p ∨ t.pool? p = (s.pool? p).map ChainPool.clear := by
      by_cases cleared : ∃ r, .installed p r ∈ first
      · obtain ⟨r, member⟩ := cleared
        exact .inr ((pools₁ p).2 r member)
      · exact .inl ((pools₁ p).1 fun r member => cleared ⟨r, member⟩)
    by_cases cleared : ∃ r, .installed p r ∈ second
    · obtain ⟨r, member⟩ := cleared
      rw [(pools₂ p).2 r member]
      exact once before
    · have same := (pools₂ p).1 fun r member => cleared ⟨r, member⟩
      rcases List.mem_append.1 member with later | earlier
      · exact absurd ⟨r, later⟩ cleared
      · rw [same, (pools₁ p).2 r earlier]

theorem install_journal {p : Nat} {x : Pipeline} {s : Container}
    (found : s.pipelines.find? p = some x) (r : Registry) (config : Config) :
    ∃ later, (Pipeline.install p r config s).journal =
        later ++ .installed p r.serial :: .held r.serial :: s.journal ∧
      ∀ e ∈ later, e.isUncharted = true := by
  unfold Pipeline.install Pipeline.swapRegistry
  rw [found]
  dsimp only
  obtain ⟨_, same⟩ := updatePipeline_frame s p fun x => { x with registry := r }
  obtain ⟨new, journal, uncharted⟩ := (x.registry.letGo_aloof ((r.hold (s.updatePipeline p fun x =>
    { x with registry := r })).note (.installed p r.serial))).journal
  obtain ⟨_, frame⟩ := updatePipeline_frame (x.registry.letGo ((r.hold (s.updatePipeline p fun x =>
    { x with registry := r })).note (.installed p r.serial))) p fun x =>
      { x with trackLastServiced := config.isolation.trackLastServiced, pool := x.pool.clear }
  refine ⟨.logged ⟨.info, "Pipeline registry reloaded", []⟩ :: new, ?_, ?_⟩
  · rw [frame]
    change _ :: (Registry.letGo _ _).journal = _
    rw [journal, same]
    rfl
  · intro e member
    rcases List.mem_cons.1 member with rfl | member
    · rfl
    · exact uncharted e member

theorem install_reserved {p : Nat} {x : Pipeline} {s : Container}
    (found : s.pipelines.find? p = some x) (r : Registry) (config : Config) :
    Reserved s (Pipeline.install p r config s) := by
  obtain ⟨_, _, _, _, frame, pipelines⟩ := install_frame found r config
  obtain ⟨later, journal, uncharted⟩ := install_journal found r config
  have pool : ∀ k, (Pipeline.install p r config s).pool? k =
      if k = p then (s.pool? k).map ChainPool.clear else s.pool? k := by
    intro k
    unfold Container.pool?
    rw [frame]
    dsimp only
    rw [pipelines]
    split
    · rename_i same
      rw [same, found]
      rfl
    · rfl
  refine ⟨later ++ [.installed p r.serial, .held r.serial], ?_, fun k => ⟨fun none => ?_, ?_⟩⟩
  · rw [journal, List.append_assoc]
    rfl
  · have other : k ≠ p := by
      rintro rfl
      exact none r.serial (by simp)
    rw [pool, if_neg other]
  · intro i member
    rcases List.mem_append.1 member with since | now
    · cases uncharted _ since
    · obtain ⟨same, -⟩ : k = p ∧ i = r.serial := by simpa using now
      rw [pool, if_pos same]

theorem reload_reserved (p : Nat) (config : Config) : (Pipeline.reload p config).Within Reserved := by
  intro s
  cases found : s.pipelines.find? p with
  | none =>
    rw [reload_of_none found]
    exact (Aloof.refl s).reserved
  | some x =>
    have aloof := Registry.build_aloof config x.components s
    rcases ran : Registry.build config x.components s with ⟨halt | e | r, u⟩ <;> rw [ran] at aloof
    · rw [reload_of_halt found ran]
      exact aloof.reserved
    · rw [reload_of_error found ran]
      exact aloof.reserved
    · rw [reload_of_ok found ran]
      have ready : Aloof s (if config.security.privilegedExecution != x.executor.isSome then
          u.note (.logged .executionChanged) else u) := by
        split
        · exact aloof.trans (.note u rfl)
        · exact aloof
      exact ready.reserved.trans (install_reserved (ready.pipelines ▸ found) r config)

theorem carried_reserved : Carried Reserved where
  aloof := Aloof.reserved
  trans := Reserved.trans
  visit := by
    intro p r w base s u v entered same inside
    have opened : Reserved s (s.leave u) :=
      .of_uninstalled same (entered.appends (by rintro _ _ ⟨⟩) fun e plain p r same => by
        rw [same] at plain
        cases plain)
    exact opened.trans inside
  reload := reload_reserved

/-! ### What a host does to pools -/

/-- Each pipeline was there before, with the same executor, and deeds have made its pool of the one
that it had; with an executor it was cleared at most. -/
def Managed (s t : Container) : Prop :=
  ∀ p y, t.pipelines.find? p = some y → ∃ x deeds, s.pipelines.find? p = some x ∧
    y.executor = x.executor ∧ y.pool = x.pool.applyAll deeds ∧
    (x.executor.isSome = true → ∀ deed ∈ deeds, deed = .clear)

theorem Managed.of_same {s t : Container} (h : t.pipelines = s.pipelines) : Managed s t :=
  fun p y found => ⟨y, [], h ▸ found, rfl, rfl, by rintro - _ ⟨⟩⟩

theorem Managed.trans {s t u : Container} (h₁ : Managed s t) (h₂ : Managed t u) : Managed s u := by
  intro p z found
  obtain ⟨y, second, found, executor₂, pool₂, cleared₂⟩ := h₂ p z found
  obtain ⟨x, first, found, executor₁, pool₁, cleared₁⟩ := h₁ p y found
  refine ⟨x, first ++ second, found, executor₂.trans executor₁, ?_, fun set deed member => ?_⟩
  · rw [pool₂, pool₁]
    exact (List.foldl_append ..).symm
  · rcases List.mem_append.1 member with member | member
    · exact cleared₁ set deed member
    · exact cleared₂ (executor₁ ▸ set) deed member

theorem Managed.deed {s : Container} {p : Nat} {f : Pipeline → Pipeline} (deed : ChainPool.Deed)
    (does : ∀ x, s.pipelines.find? p = some x →
      (f x).executor = x.executor ∧ (f x).pool = x.pool.apply deed ∧ x.executor = none) :
    Managed s (s.updatePipeline p f) := by
  intro k y found
  rw [find?_updatePipeline] at found
  split at found
  · rename_i same
    obtain ⟨x, there, rfl⟩ := Option.map_eq_some_iff.1 found
    obtain ⟨executor, pool, unset⟩ := does x there
    refine ⟨x, [deed], same ▸ there, executor, pool, fun set => ?_⟩
    rw [unset] at set
    cases set
  · exact Managed.of_same rfl k y found

theorem Reserved.managed {s t : Container} (h : Reserved s t)
    (executing : ∀ p, t.executing p = s.executing p) : Managed s t := by
  obtain ⟨new, -, pools⟩ := h
  intro p y found
  have kept := executing p
  obtain ⟨same, cleared⟩ := pools p
  unfold Container.executing at kept
  unfold Container.pool? at same cleared
  rw [found] at kept same cleared
  cases there : s.pipelines.find? p with
  | none =>
    rw [there] at kept
    cases kept
  | some x =>
    rw [there] at kept same cleared
    refine ⟨x, ?_⟩
    by_cases installed : ∃ r, .installed p r ∈ new
    · obtain ⟨r, member⟩ := installed
      exact ⟨[.clear], rfl, Option.some.inj kept, Option.some.inj (cleared r member), by simp⟩
    · exact ⟨[], rfl, Option.some.inj kept,
        Option.some.inj (same fun r member => installed ⟨r, member⟩), by rintro - _ ⟨⟩⟩

theorem reload_managed (p : Nat) (config : Config) : (Pipeline.reload p config).Within Managed :=
  fun s => (reload_reserved p config s).managed (reload_abides p config s).executing

theorem carried_managed : Carried Managed where
  aloof := fun aloof => .of_same aloof.pipelines
  trans := Managed.trans
  visit := by
    intro p r w base s u v _ same inside k y found
    exact same ▸ inside k y found
  reload := reload_managed

theorem take_managed {p : Nat} {x : Pipeline} {s t : Container} {servlet : String} {pooled : Bool}
    {chain : Chain} (found : s.pipelines.find? p = some x)
    (taken : Pipeline.take p x servlet pooled s = (.ok chain, t)) : Managed s t := by
  unfold Pipeline.take at taken
  split at taken
  · rename_i idle
    have unset : x.executor = none := by simpa using (Bool.and_eq_true_iff.1 idle).2
    unfold Pipeline.acquire at taken
    rw [Run.get_bind_apply, found] at taken
    obtain rfl := congrArg Prod.snd taken
    have acquired : Managed s (s.updatePipeline p fun q => { q with pool := (x.pool.acquire servlet).2 }) := by
      refine .deed (.acquire servlet) fun y there => ?_
      obtain rfl := Option.some.inj (found.symm.trans there)
      exact ⟨rfl, rfl, unset⟩
    exact acquired.trans (.of_same rfl)
  · obtain rfl := congrArg Prod.snd taken
    exact .of_same rfl

theorem dispatchTo_managed {calls : Calls} (called : ∀ call, (calls call).Within Managed) (p : Nat)
    (r : Registry) (w : Wrapper) (state : DispatchState) (pooled : Bool) :
    (Pipeline.dispatchTo calls p r w state pooled).Within Managed := by
  intro s
  rcases dispatchTo_parts calls p r w state pooled s with
    ⟨-, aloof⟩ | ⟨x, chain, t, u, found, taken, -, -, entered, same, ended⟩
  · exact .of_same aloof.pipelines
  have opened : Managed s t :=
    .trans (t := s.updateRequest fun q => { q with dispatch := state }) (.of_same rfl)
      (take_managed found taken)
  have before : Managed s (t.leave (Traversal.doFilter calls u).2) :=
    opened.trans (carried_managed.visit entered same (carried_managed.doFilter called u))
  rcases ended with left | ⟨-, unset, chain', left⟩
  · exact before.trans (.of_same left.pipelines)
  · refine before.trans (.trans (.deed (.giveBack w.name chain') fun y there => ?_)
      (.of_same left.pipelines))
    obtain ⟨x', -, found', executor, -⟩ := before p y there
    obtain rfl := Option.some.inj (found.symm.trans found')
    exact ⟨rfl, rfl, executor.trans unset⟩

theorem close_managed (p : Nat) : (Pipeline.close p).Within Managed := by
  intro s
  unfold Pipeline.close
  rw [Run.modify_apply]
  dsimp only
  cases s.pipelines.find? p with
  | none => exact .of_same rfl
  | some x =>
    have erased : Managed s { s with pipelines := s.pipelines.erase p } := by
      intro k y found
      change (s.pipelines.erase p).find? k = some y at found
      rw [Dict.find?_erase] at found
      split at found
      · cases found
      · exact Managed.of_same rfl k y found
    exact erased.trans (.of_same (x.registry.letGo_aloof _).pipelines)

theorem openWith_pool {config : Config} {components : ComponentFactory} {executor : Option Executor}
    {s : Container} {p : Nat} {y : Pipeline}
    (found : (Host.openWith config components executor s).2.pipelines.find? p = some y) :
    s.pipelines.find? p = some y ∨
      (Host.openWith config components executor s).1 = .ok (.ok p) ∧
        y.pool = { maxIdle := config.pool.maxIdlePerServlet } := by
  obtain ⟨n, counts, new, ended | ⟨r, t, options, limit, -, created⟩⟩ :=
    openWith_cases config components executor s
  · rw [ended] at found
    exact .inl found
  · rw [created] at found
    change (s.pipelines.insert _ _).find? p = some y at found
    rw [Dict.find?_insert] at found
    split at found
    · rename_i here
      cases found
      exact .inr ⟨by rw [created, here], by rw [limit]⟩
    · exact .inl found

namespace Host

/-- What is done to a host: an act, or a deed to the pool of a pipeline. -/
inductive Handling where
  | act (a : Act)
  | pool (pipeline : Nat) (deed : ChainPool.Deed)

def handle (h : Host) : Handling → Host
  | .act a => h.act a
  | .pool p deed =>
    { h with box := h.box.updatePipeline p fun x => { x with pool := x.pool.apply deed } }

def handled (handlings : List Handling) : Host := handlings.foldl handle {}

/-- An act opens a pipeline, or manages those that are there. -/
theorem act_managed (h : Host) (a : Act) :
    (∃ config components executor, a = .openPipeline config components executor) ∨
      Managed h.box (h.act a).box := by
  have called : ∀ outside levels call, (callsAmid outside levels call).Within Managed :=
    fun outside levels => carried_managed.callsAmid outside levels
  cases a with
  | openPipeline config components executor => exact .inl ⟨config, components, executor, rfl⟩
  | close p => exact .inr (close_managed p h.box)
  | request spec => exact .inr (.of_same rfl)
  | response => exact .inr (.of_same rfl)
  | service levels outside p =>
    exact .inr (carried_managed.serviceWith (fun r w state =>
      dispatchTo_managed (called outside levels) p r w state true) h.box)
  | dispatch levels outside p dispatcher target =>
    exact .inr (carried_managed.dispatch (called outside levels) p dispatcher target h.box)
  | reload p config => exact .inr (reload_managed p config h.box)
  | keep p =>
    unfold Host.act
    dsimp only
    split <;> exact .inr (.of_same rfl)
  | letGo place =>
    unfold Host.act
    dsimp only
    split
    · exact .inr (.of_same rfl)
    · exact .inr (.of_same (Registry.letGo_aloof _ h.box).pipelines)
  | obtain place filter =>
    unfold Host.act
    dsimp only
    split
    · exact .inr (.of_same rfl)
    · exact .inr (.of_same (FilterConfig.obtain_aloof _ h.box).pipelines)

/-- A pipeline was opened for a configuration, after what was done before. -/
def Opened (handlings : List Handling) (p : Nat) (config : Config) : Prop :=
  ∃ before components executor, before ++ [.act (.openPipeline config components executor)] <+: handlings ∧
    (openWith config components executor (handled before).box).1 = .ok (.ok p)

/-- The pool of a pipeline is the new one that its opening has given it, or deeds have made it of the
pool before. -/
theorem handle_pool {h : Host} {a : Handling} {p : Nat} {y : Pipeline}
    (found : (h.handle a).box.pipelines.find? p = some y) :
    (∃ config components executor, a = .act (.openPipeline config components executor) ∧
        (openWith config components executor h.box).1 = .ok (.ok p) ∧
        y.pool = { maxIdle := config.pool.maxIdlePerServlet }) ∨
      ∃ x deeds, h.box.pipelines.find? p = some x ∧ y.executor = x.executor ∧
        y.pool = x.pool.applyAll deeds ∧
        (x.executor.isSome = true → (∀ deed, a ≠ .pool p deed) → ∀ deed ∈ deeds, deed = .clear) := by
  have kept : ∀ {t : Container}, Managed h.box t → t.pipelines.find? p = some y →
      ∃ x deeds, h.box.pipelines.find? p = some x ∧ y.executor = x.executor ∧
        y.pool = x.pool.applyAll deeds ∧
        (x.executor.isSome = true → (∀ deed, a ≠ .pool p deed) → ∀ deed ∈ deeds, deed = .clear) := by
    intro t managed found
    obtain ⟨x, deeds, before, executor, pool, cleared⟩ := managed p y found
    exact ⟨x, deeds, before, executor, pool, fun set _ => cleared set⟩
  cases a with
  | act a =>
    rcases h.act_managed a with ⟨config, components, executor, rfl⟩ | managed
    · rcases openWith_pool found with before | new
      · exact .inr (kept (.of_same rfl) before)
      · exact .inl ⟨config, components, executor, rfl, new⟩
    · exact .inr (kept managed found)
  | pool q deed =>
    change (h.box.updatePipeline q _).pipelines.find? p = some y at found
    rw [find?_updatePipeline] at found
    split at found
    · rename_i same
      subst same
      obtain ⟨x, there, rfl⟩ := Option.map_eq_some_iff.1 found
      exact .inr ⟨x, [deed], there, rfl, rfl, fun _ other => absurd rfl (other deed)⟩
    · exact .inr (kept (.of_same rfl) found)

theorem Opened.later {handlings : List Handling} {p : Nat} {config : Config}
    (h : Opened handlings p config) (a : Handling) : Opened (handlings ++ [a]) p config := by
  obtain ⟨before, components, executor, first, opened⟩ := h
  exact ⟨before, components, executor, first.trans (List.prefix_append _ _), opened⟩

/-- By induction on what is done: the last step opens the pipeline or does deeds to its pool. -/
theorem handled_pool (handlings : List Handling) {p : Nat} {x : Pipeline}
    (found : (handled handlings).box.pipelines.find? p = some x) :
    x.pool.Sound ∧
      (∃ config, Opened handlings p config ∧ x.pool.maxIdle = config.pool.maxIdlePerServlet) ∧
      (x.executor.isSome = true → (∀ deed, .pool p deed ∉ handlings) → x.pool.Vacant) := by
  induction handlings using List.reverseRecOn generalizing x with
  | nil => cases found
  | append_singleton earlier last ih =>
    rw [handled, List.foldl_append] at found
    rcases handle_pool found with
      ⟨config, components, executor, rfl, opened, new⟩ | ⟨y, deeds, before, executor, pool, cleared⟩
    · rw [new]
      exact ⟨.new _, ⟨config, ⟨earlier, components, executor, List.prefix_rfl, opened⟩, rfl⟩,
        fun _ _ _ => rfl⟩
    · obtain ⟨sound, ⟨config, opened, limit⟩, vacant⟩ := ih before
      rw [pool, executor]
      refine ⟨sound.applyAll deeds, ⟨config, opened.later last, ?_⟩, ?_⟩
      · rw [ChainPool.maxIdle_applyAll, limit]
      · intro set none
        refine (vacant set fun deed member => none deed (by simp [member])).applyAll (cleared set ?_)
        rintro deed rfl
        exact none deed (by simp)

end Host

/-- Whatever is done to a host and to the pools of its pipelines, each idle chain is empty and refers to
nothing, no servlet has more of them than the pipeline was opened for, and a pipeline with an executor
has none, unless someone puts one in. The same goes for a pool by itself. A chain that is handed out is
idle no more; and the calls of components, dispatches among them, change no pool but by reloads. -/
theorem pools_idle :
    (∀ (handlings : List Host.Handling) (p : Nat) (x : Pipeline),
      (Host.handled handlings).box.pipelines.find? p = some x →
      (∀ servlet, ∀ c ∈ x.pool.chains servlet, c.Bare ∧ c.refersTo = []) ∧
      (∃ config, Host.Opened handlings p config ∧
        x.pool.maxIdle = config.pool.maxIdlePerServlet ∧
        ∀ servlet, x.pool.idleCount servlet ≤ x.pool.maxIdle) ∧
      (x.executor.isSome = true → (∀ deed, .pool p deed ∉ handlings) →
        ∀ servlet, x.pool.chains servlet = [])) ∧
    (∀ (limit : Nat) (deeds : List ChainPool.Deed) (pool : ChainPool),
      pool = ChainPool.applyAll { maxIdle := limit } deeds →
      ∀ servlet, pool.idleCount servlet ≤ limit ∧
        ∀ c ∈ pool.chains servlet, c.Bare ∧ c.refersTo = []) ∧
    (∀ (pool : ChainPool) (servlet : String),
      pool.chains servlet = (pool.acquire servlet).1.toList ++ (pool.acquire servlet).2.chains servlet ∧
        ∀ other, other ≠ servlet → (pool.acquire servlet).2.chains other = pool.chains other) ∧
    ∀ (outside : Outside) (levels : Nat) (s : Container),
      (∀ call, Reserved s (callsAmid outside levels call s).2) ∧
        ∀ p dispatcher target,
          Reserved s (Pipeline.dispatch (callsAmid outside levels) p dispatcher target s).2 := by
  refine ⟨?_, ?_, ChainPool.acquire_removes, ?_⟩
  · intro handlings p x found
    obtain ⟨sound, ⟨config, opened, limit⟩, vacant⟩ := Host.handled_pool handlings found
    refine ⟨fun servlet c idle => ?_, ⟨config, opened, limit, sound.limited⟩, vacant⟩
    exact ⟨sound.bare servlet c idle, (sound.bare servlet c idle).refersTo⟩
  · rintro limit deeds _ rfl servlet
    have sound := (ChainPool.Sound.new limit).applyAll deeds
    refine ⟨?_, fun c idle => ⟨sound.bare servlet c idle, (sound.bare servlet c idle).refersTo⟩⟩
    have limited := sound.limited servlet
    rwa [ChainPool.maxIdle_applyAll] at limited
  · intro outside levels s
    have called := carried_reserved.callsAmid outside levels
    exact ⟨fun call => called call s, fun p dispatcher target =>
      carried_reserved.dispatch called p dispatcher target s⟩

/-- A pipeline that keeps one idle chain for each servlet. Its servlet gives it a new configuration
while it runs, and afterwards someone gives it a chain that is not its own. -/
def pond : List Host.Handling :=
  [.act (.openPipeline
      { filters := [{ name := "gate", className := "gate" }]
        filterMappings := [{ filterName := "gate", urlPatterns := ["/*"] }]
        servlets := [{ name := "page", className := "page", urlPatterns := ["/"] }]
        pool := { maxIdlePerServlet := 1 } }
      { filters := ⟨[("gate", ⟨false, fun _ _ => .ready (.proceed .finish)⟩)]⟩
        servlets := ⟨[("page", ⟨false, fun _ _ => .ready (.reload
          { servlets := [{ name := "page", className := "page", urlPatterns := ["/"] }] } .finish)⟩)]⟩ }
      none),
    .act (.request {}),
    .act (.service 2 (fun _ => []) 4),
    .pool 4 (.giveBack "page" { position := 3, servletAsync := true })]

/-- The chain that went back to the pool has a place for ten filters and refers to none of the registry
that it ran on; there is no room for the other one. -/
theorem pools_idle_pond :
    ∃ x, (Host.handled pond).box.pipelines.find? 4 = some x ∧
      (x.pool.chains "page").map (·.capacity) = [10] ∧
      ∀ c ∈ x.pool.chains "page", c.Bare ∧ c.refersTo = [] := by
  have kept : ((Host.handled pond).box.pipelines.find? 4).map
      (fun x => (x.pool.chains "page").map (·.capacity)) = some [10] := by decide +kernel
  obtain ⟨x, found, capacities⟩ := Option.map_eq_some_iff.1 kept
  exact ⟨x, found, capacities, (pools_idle.1 pond 4 x found).1 "page"⟩

end ServletFilters
