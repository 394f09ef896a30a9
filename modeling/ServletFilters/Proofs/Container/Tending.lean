import ServletFilters.Proofs.Component.Builtins
import ServletFilters.Proofs.Container.Course
import ServletFilters.Proofs.Container.Starts
import ServletFilters.Proofs.Registry.Contents

/-!
Pipelines of built-in components. Such a component makes one call at most, to go on or to dispatch,
`filter_calls` and `servlet_calls`; so a pipeline has its registry and its executor all along,
`doFilter_manned`.
-/

namespace ServletFilters

/-! ### Failures -/

def Fails (out : Except Halt Result) : Prop := ∃ f, out = .ok (.error f)

/-- No executor, or one that runs each step once and fails where the step does. -/
def Transparent (E : Option Executor) : Prop := E = none ∨ E = some .span

theorem PipelineOptions.transparent (config : Config) : Transparent (ofConfig config).executor := by
  unfold ofConfig Transparent
  by_cases privileged : config.security.privilegedExecution = true
  · exact .inr (if_pos privileged)
  · exact .inl (if_neg privileged)

section Failing

variable {s : Container}

theorem bind_fails {x : Run Result} {next : Result → Run Result} (failed : Fails (x s).1)
    (fails : ∀ f t, Fails (next (.error f) t).1) : Fails ((x >>= next) s).1 := by
  obtain ⟨f, failed⟩ := failed
  rcases ran : x s with ⟨out, t⟩
  rw [ran] at failed
  obtain rfl : out = .ok (.error f) := failed
  rw [Run.bind_of_ok ran]
  exact fails f t

variable (transparent : Transparent s.chain.executor)
include transparent

theorem actions_transparent (operation : Operation) (step : Run Result) :
    Traversal.actions operation step s = [s] := by
  unfold Traversal.actions
  rcases transparent with plain | span
  · rw [plain]
  · rw [span]
    refine congrArg (s :: ·) (Run.thence_nil (fun result t => ?_) s)
    rcases result with f | done
    · cases f <;> rfl
    · rfl

theorem privileged_fails (operation : Operation) {step : Run Result} (failed : Fails (step s).1) :
    Fails (Traversal.privileged operation step s).1 := by
  rcases transparent with plain | span
  · rw [privileged_direct plain]
    exact failed
  · unfold Traversal.privileged
    rw [Run.get_bind_apply, span]
    refine bind_fails failed fun f t => ?_
    cases f <;> exact ⟨_, rfl⟩

theorem doFilter_fails {calls : Calls} (failed : Fails (Traversal.step calls s).1) :
    Fails (Traversal.doFilter calls s).1 := by
  unfold Traversal.doFilter
  rw [Run.get_bind_apply]
  cases s.chain.executor with
  | none => exact failed
  | some E =>
    exact bind_fails (privileged_fails transparent .doFilter failed) fun f t => ⟨_, rfl⟩

theorem inner_transparent (calls : Calls) {i : Invocation} {t : Container}
    (ready : Traversal.prepare s = (.ok (.ok i), t)) :
    Traversal.inner calls s = i.made calls t := by
  have kept := prepare_executor s
  rw [ready] at kept
  unfold Traversal.inner Traversal.invocations
  rw [actions_transparent transparent, List.flatMap_singleton, Run.thence_of_ok ready]
  dsimp only
  rw [actions_transparent (s := t) (kept ▸ transparent)]
  exact List.flatMap_singleton _ _

theorem inner_refused (calls : Calls) {f : Failure} {t : Container}
    (refused : Traversal.prepare s = (.ok (.error f), t)) :
    Traversal.inner calls s = [] ∧ Fails (Traversal.doFilter calls s).1 := by
  constructor
  · unfold Traversal.inner Traversal.invocations
    rw [actions_transparent transparent, List.flatMap_singleton, Run.thence_of_ok refused]
    rfl
  · refine doFilter_fails transparent ?_
    rw [step_eq, Run.bind_of_ok refused]
    exact ⟨f, rfl⟩

theorem invocation_fails {calls : Calls} {i : Invocation} {t : Container}
    (ready : Traversal.prepare s = (.ok (.ok i), t)) (failed : Fails (i.run calls t).1) :
    Fails (Traversal.doFilter calls s).1 := by
  have kept := prepare_executor s
  rw [ready] at kept
  refine doFilter_fails transparent ?_
  rw [step_eq, Run.bind_of_ok ready, call_apply]
  obtain ⟨f, failed⟩ := privileged_fails (s := t) (kept ▸ transparent) i.stage.operation failed
  rw [failed]
  exact ⟨_, rfl⟩

end Failing

/-! ### Depth -/

theorem downgrade_depth (declined : Bool) (s : Container) :
    (Traversal.downgrade declined s).2.request.depth = s.request.depth := by
  unfold Traversal.downgrade
  rw [Run.modify_apply]
  split <;> rfl

theorem makeComponent_frame (announced : Bool) (name : String) (make : Nat → Making)
    (s : Container) : ∃ nextSerial constructions journal,
      (makeComponent announced name make s).2 = { s with nextSerial, constructions, journal } := by
  have finished : ∀ (m : Making) (u : Container), ∃ nextSerial journal,
      (m.finish announced name u).2 = { u with nextSerial, journal } := by
    intro m u
    cases m <;> exact ⟨_, _, rfl⟩
  unfold makeComponent
  rw [Run.get_bind_apply]
  cases announced with
  | true =>
    obtain ⟨_, _, frame⟩ := finished (make (s.nextCount name))
      ({ s with constructions := s.constructions.insert name (s.nextCount name) }.note
        (.constructing name (s.nextCount name)))
    exact ⟨_, _, _, frame⟩
  | false =>
    obtain ⟨_, _, frame⟩ := finished (make (s.nextCount name)) s
    exact ⟨_, _, _, frame⟩

/-- Obtaining a filter takes numbers, may write an instance down, and leaves the rest as it is. -/
theorem FilterConfig.obtain_frame (f : FilterConfig) (s : Container) :
    ∃ nextSerial constructions instances journal,
      (f.obtain s).2 = { s with nextSerial, constructions, instances, journal } := by
  have make : ∃ nextSerial constructions journal,
      (f.make s).2 = { s with nextSerial, constructions, journal } := by
    unfold FilterConfig.make
    cases f.source with
    | given c => exact ⟨_, _, _, rfl⟩
    | made cls => exact makeComponent_frame cls.announced f.name (cls.make f.definition) s
  unfold FilterConfig.obtain
  rw [Run.get_bind_apply]
  cases s.instances.find? f.serial with
  | some c => exact ⟨_, _, _, _, rfl⟩
  | none =>
    dsimp only
    obtain ⟨_, _, _, frame⟩ := make
    rcases made : f.make s with ⟨halt | failure | c, t⟩ <;> rw [made] at frame <;>
      obtain rfl : t = _ := frame
    · rw [Run.bind_of_error made]
      exact ⟨_, _, _, _, rfl⟩
    · rw [Run.bind_of_ok made]
      exact ⟨_, _, _, _, rfl⟩
    · rw [Run.bind_of_ok made]
      exact ⟨_, _, _, _, rfl⟩

theorem FilterConfig.obtain_request (f : FilterConfig) (s : Container) :
    (f.obtain s).2.request = s.request := by
  obtain ⟨_, _, _, _, frame⟩ := f.obtain_frame s
  rw [frame]

theorem prepare_depth (s : Container) :
    (Traversal.prepare s).2.request.depth = s.request.depth := by
  cases next : s.chain.filters[s.chain.position]? with
  | some f =>
    rw [prepare_filter next]
    have same := f.obtain_request s.advance
    unfold Traversal.prepareFilter
    rcases given : f.obtain s.advance with ⟨halt | failure | c, t⟩ <;> rw [given] at same
    · rw [Run.bind_of_error given]
      exact congrArg Request.depth same
    · rw [Run.bind_of_ok given]
      exact congrArg Request.depth same
    · rw [Run.bind_of_ok given]
      exact (downgrade_depth _ t).trans (congrArg Request.depth same)
  | none =>
    rw [prepare_servlet next]
    unfold Traversal.prepareServlet
    rw [Run.get_bind_apply]
    cases (s.note (.advanced s.nesting none)).chain.servlet with
    | none => rfl
    | some c =>
      dsimp only
      split
      · exact downgrade_depth _ _
      · exact downgrade_depth _ _

/-! ### What a pipeline has -/

/-- The component is one that the filter's class has made for it. -/
def FilterConfig.Makes (f : FilterConfig) (c : Component) : Prop :=
  ∃ cls n, f.source = .made cls ∧ cls.make f.definition n = .ready c.program

/-- The pipeline has this registry and a transparent executor, there is no other pipeline, and what is
there of the registry's filters was made by their classes. -/
structure Equipped (p : Nat) (r : Registry) (s : Container) : Prop where
  current : s.current p = some r
  executing : ∃ E, s.executing p = some E ∧ Transparent E
  only : ∀ {k}, s.executing k ≠ none → k = p
  stock : ∀ f ∈ r.filters.values, ∀ c, s.instances.find? f.serial = some c → f.Makes c

/-- The chain has filters of the registry, and ends at one of its servlets. -/
structure Manned (p : Nat) (r : Registry) (s : Container) : Prop extends Equipped p r s where
  filters : ∀ f ∈ s.chain.filters, f ∈ r.filters.values
  servlet : ∀ c, s.chain.servlet = some c → ∃ w ∈ r.wrappers, w.servlet = c
  executor : Transparent s.chain.executor

section Having

variable {p : Nat} {r : Registry} {s t : Container}

theorem Equipped.ebbs (h : Equipped p r s) (ebbs : Ebbs s t) : Equipped p r t := by
  obtain ⟨E, executing, transparent⟩ := h.executing
  refine ⟨(ebbs.current p).trans h.current, ⟨E, (ebbs.executing p).trans executing, transparent⟩, ?_, ?_⟩
  · exact fun there => h.only (ebbs.executing _ ▸ there)
  · exact fun f member c found => h.stock f member c (ebbs.instances found)

theorem Manned.ebbs (h : Manned p r s) (ebbs : Ebbs s t) : Manned p r t := by
  obtain ⟨equipped, filters, servlet, executor⟩ := h
  rw [← ebbs.chain] at filters servlet executor
  exact ⟨equipped.ebbs ebbs, filters, servlet, executor⟩

theorem Manned.note (h : Manned p r s) (e : Event) : Manned p r (s.note e) :=
  ⟨⟨h.current, h.executing, h.only, h.stock⟩, h.filters, h.servlet, h.executor⟩

theorem Manned.advance (h : Manned p r s) : Manned p r s.advance :=
  ⟨⟨h.current, h.executing, h.only, h.stock⟩, h.filters, h.servlet, h.executor⟩

theorem Manned.edit (h : Manned p r s) (edit : ChainAction.Edit s t) : Manned p r t := by
  cases edit with
  | rewind => exact ⟨⟨h.current, h.executing, h.only, h.stock⟩, h.filters, h.servlet, h.executor⟩
  | empty =>
    exact ⟨⟨h.current, h.executing, h.only, h.stock⟩, by rintro f ⟨⟩, by rintro c ⟨⟩, h.executor⟩

/-- A pipeline can only be addressed from a request that is attached to it. -/
theorem Equipped.attached (h : Equipped p r s) {q : Nat} (attached : s.attachedPipeline? = some q) :
    q = p := by
  refine h.only ?_
  obtain ⟨-, there⟩ := Option.filter_eq_some_iff.1 attached
  obtain ⟨x, found⟩ := Option.isSome_iff_exists.1 there
  rw [Container.executing, found]
  rintro ⟨⟩

theorem FilterConfig.make_makes_it {f : FilterConfig} {cls : FilterClass} {c : Component}
    (source : f.source = .made cls) (given : f.make s = (.ok (.ok c), t)) : f.Makes c := by
  unfold FilterConfig.make at given
  rw [source] at given
  obtain ⟨n, ready, -⟩ := makeComponent_program given
  exact ⟨cls, n, source, ready⟩

theorem Equipped.obtain (sound : r.Sound) (h : Equipped p r s) {f : FilterConfig}
    (member : f ∈ r.filters.values) :
    Equipped p r (f.obtain s).2 ∧ ∀ c, (f.obtain s).1 = .ok (.ok c) → f.Makes c := by
  rcases f.obtain_cases s with
    ⟨c, found, given⟩ | ⟨c, t, -, made, given⟩ | ⟨out, t, given, quiet, none⟩ <;> rw [given]
  · refine ⟨⟨h.current, h.executing, h.only, h.stock⟩, ?_⟩
    rintro d ⟨⟩
    exact h.stock f member c found
  · obtain ⟨cls, source⟩ := sound.made f member
    have makes : f.Makes c := FilterConfig.make_makes_it source made
    have quiet := f.make_quiet s
    rw [made] at quiet
    obtain ⟨current, executing, only, stock⟩ := h.ebbs quiet.ebbs
    refine ⟨⟨current, executing, only, fun g other d found => ?_⟩, ?_⟩
    · change (t.instances.insert f.serial c).find? g.serial = some d at found
      rw [Dict.find?_insert] at found
      split at found
      · rename_i same
        obtain rfl := List.inj_on_of_nodup_map sound.declares.distinct other member same
        exact Option.some.inj found ▸ makes
      · exact stock g other d found
    · rintro d ⟨⟩
      exact makes
  · exact ⟨h.ebbs quiet.ebbs, fun c made => absurd made (none c)⟩

theorem Manned.obtain (sound : r.Sound) (h : Manned p r s) {f : FilterConfig}
    (member : f ∈ r.filters.values) : Manned p r (f.obtain s).2 := by
  have chain := f.obtain_chain s
  obtain ⟨equipped, filters, servlet, executor⟩ := h
  rw [← chain] at filters servlet executor
  exact ⟨(equipped.obtain sound member).1, filters, servlet, executor⟩

theorem manned_way (sound : r.Sound) :
    Way (Manned p r) (fun _ _ => True) (fun _ _ => True) where
  refl := fun _ => trivial
  trans := fun _ _ => trivial
  quiet := fun h quiet => ⟨h.ebbs quiet.ebbs, trivial⟩
  ready_of_rel := fun _ _ => trivial
  edit := fun h edit => ⟨h.edit edit, trivial⟩
  advance := fun h _ => ⟨h.advance, trivial⟩
  exhaust := fun h _ => ⟨h.note _, trivial⟩
  obtain := fun h member => ⟨h.obtain sound (h.filters _ member), trivial, fun _ _ => trivial⟩
  servlet := fun _ _ => trivial

end Having

/-! ### What built-in components call -/

/-- A built-in class can make the filter of the entry. -/
def Config.FilterEntry.Makeable (e : Config.FilterEntry) : Prop :=
  ∃ cls program, ComponentFactory.builtin.filters.find? e.className = some cls ∧
    ∀ n, cls.make (.ofEntry e) n = .ready program

theorem makeable_cases {e : Config.FilterEntry} {cls : FilterClass}
    (known : ComponentFactory.builtin.filters.find? e.className = some cls) :
    (e.Makeable ∧ ∃ program, ∀ n, cls.make (.ofEntry e) n = .ready program) ∨
      (¬ e.Makeable ∧ ∃ message, ∀ n, cls.make (.ofEntry e) n = .refused (.servlet message)) := by
  rcases Builtin.filter_make known (.ofEntry e) with ⟨program, ready⟩ | ⟨message, refused⟩
  · exact .inl ⟨⟨cls, program, known, ready⟩, program, ready⟩
  · refine .inr ⟨?_, message, refused⟩
    rintro ⟨cls', program, known', ready⟩
    obtain rfl := Option.some.inj (known.symm.trans known')
    have both := (ready 0).symm.trans (refused 0)
    cases both

section Calling

variable {config : Config} {p : Nat} {r : Registry} {s : Container} {f : FilterConfig}
  {e : Config.FilterEntry}

theorem FilterConfig.Makes.makeable {c : Component} (own : f.ComesFrom .builtin e) (h : f.Makes c) :
    e.Makeable := by
  obtain ⟨definition, cls, known, source⟩ := own
  obtain ⟨cls', n, source', ready⟩ := h
  obtain rfl := FilterSource.made.inj (source.symm.trans source')
  rcases makeable_cases known with ⟨makeable, -⟩ | ⟨-, failure, refused⟩
  · exact makeable
  · rw [definition, refused n] at ready
    cases ready

theorem Equipped.obtain_builtin (h : Equipped p r s) (member : f ∈ r.filters.values)
    (own : f.ComesFrom .builtin e) :
    (e.Makeable ∧ ∃ c t, f.obtain s = (.ok (.ok c), t)) ∨
      (¬ e.Makeable ∧ ∃ message t, f.obtain s = (.ok (.error (.servlet message)), t)) := by
  unfold FilterConfig.obtain
  rw [Run.get_bind_apply]
  cases found : s.instances.find? f.serial with
  | some c => exact .inl ⟨(h.stock f member c found).makeable own, c, _, rfl⟩
  | none =>
    obtain ⟨definition, cls, known, source⟩ := own
    obtain ⟨n, -, ends⟩ := makeComponent_ends cls.announced f.name (cls.make f.definition) s
    have make : f.make s = makeComponent cls.announced f.name (cls.make f.definition) s := by
      unfold FilterConfig.make
      rw [source]
    rw [← make, definition] at ends
    rcases made : f.make s with ⟨out, t⟩
    rw [made] at ends
    rcases makeable_cases known with ⟨makeable, program, ready⟩ | ⟨unmakeable, message, refused⟩
    · rw [ready n] at ends
      obtain ⟨_, ⟨⟩, -⟩ | ⟨_, ⟨⟩, -⟩ | ⟨c, -, -, rfl⟩ := ends
      exact .inl ⟨makeable, c, _, Run.bind_of_ok made⟩
    · rw [refused n] at ends
      obtain ⟨_, ⟨⟩, rfl⟩ | ⟨_, ⟨⟩, -⟩ | ⟨_, ⟨⟩, -⟩ := ends
      exact .inr ⟨unmakeable, message, _, Run.bind_of_ok made⟩

theorem Config.FilterEntry.admits_of_fixed {q r : Request} (h : q.fixed = r.fixed) :
    e.Admits q ↔ e.Admits r := by
  unfold Config.FilterEntry.Admits
  rw [show q.headers = r.headers from (congrArg Request.headers h :)]

theorem Manned.prepare_builtin (sound : r.Sound) (h : Manned p r s)
    (next : s.chain.filters[s.chain.position]? = some f) (own : f.ComesFrom .builtin e) :
    (e.Makeable ∧ ∃ c t,
        Traversal.prepare s = (.ok (.ok { stage := .filter, component := c }), t) ∧ f.Makes c ∧
          t.chain = s.advance.chain ∧ t.request.fixed = s.request.fixed) ∨
      (¬ e.Makeable ∧ ∃ failure t, Traversal.prepare s = (.ok (.error failure), t)) := by
  have member := h.filters f (List.mem_of_getElem? next)
  rw [prepare_filter next]
  rcases h.advance.obtain_builtin member own with
    ⟨makeable, c, t, given⟩ | ⟨unmakeable, message, t, given⟩
  · have chain := f.obtain_chain s.advance
    have request := f.obtain_request s.advance
    obtain ⟨-, makes⟩ := h.advance.toEquipped.obtain sound member
    rw [given] at chain request makes
    obtain ⟨u, quiet, prepared⟩ := prepareFilter_ok given
    exact .inl ⟨makeable, c, u, prepared, makes c rfl, quiet.chain.trans chain,
      quiet.request.trans (congrArg Request.fixed request)⟩
  · exact .inr ⟨unmakeable, .servlet message, t, Run.bind_of_ok given⟩

variable (contents : r.Contents config .builtin) (h : Manned p r s)
include contents h

/-- The next filter fails if it cannot be made. Otherwise it goes on once, if the request has what it
asks for, and calls nothing if not. -/
theorem filter_calls (next : s.chain.filters[s.chain.position]? = some f) (calls : Calls) :
    ∃ e ∈ config.filters, f.ComesFrom .builtin e ∧
      ((¬ e.Makeable ∧ Fails (Traversal.doFilter calls s).1 ∧ Traversal.inner calls s = []) ∨
        (e.Makeable ∧ ¬ e.Admits s.request ∧ Traversal.inner calls s = []) ∨
        (e.Makeable ∧ e.Admits s.request ∧ ∃ w, Traversal.inner calls s = [(.proceed, w)] ∧
          w.chain = s.advance.chain ∧ w.request.depth = s.request.depth ∧
          (Fails (calls .proceed w).1 → Fails (Traversal.doFilter calls s).1))) := by
  obtain ⟨e, listed, own⟩ := contents.entry f (h.filters f (List.mem_of_getElem? next))
  refine ⟨e, listed, own, ?_⟩
  have depth := prepare_depth s
  rcases h.prepare_builtin contents.sound next own with
    ⟨makeable, c, t, ready, makes, chain, fixed⟩ | ⟨unmakeable, failure, t, refused⟩
  · rw [ready] at depth
    rw [inner_transparent h.executor calls ready]
    obtain ⟨definition, cls, known, source⟩ := own
    obtain ⟨cls', n, source', made⟩ := makes
    obtain rfl := FilterSource.made.inj (source.symm.trans source')
    rw [definition] at made
    have same : e.Admits t.request ↔ e.Admits s.request := Config.FilterEntry.admits_of_fixed fixed
    rcases Builtin.filter_goesOn calls c known made (t.invoke .filter c) with
      ⟨admits, w, goesOn⟩ | ⟨refuses, none⟩
    · refine .inr (.inr ⟨makeable, same.1 admits, w, goesOn.made, goesOn.quiet.chain.trans chain,
        goesOn.depth.trans depth, fun ⟨failure, failed⟩ => ?_⟩)
      exact invocation_fails h.executor ready ⟨failure, goesOn.fails failed⟩
    · exact .inr (.inl ⟨makeable, fun admits => refuses (same.2 admits), none⟩)
  · obtain ⟨none, failed⟩ := inner_refused h.executor calls refused
    exact .inl ⟨unmakeable, failed, none⟩

/-- Behind the last filter, the servlet makes one dispatch in the pipeline, or none. -/
theorem servlet_calls (next : s.chain.filters[s.chain.position]? = none) (calls : Calls) :
    Traversal.inner calls s = [] ∨ ∃ w dispatcher target,
      Traversal.inner calls s = [(.dispatch p dispatcher target, w)] ∧
        w.request.depth = s.request.depth := by
  have depth := prepare_depth s
  have kept := (manned_way contents.sound).prepare h
  have ready := prepare_servlet next
  rcases prepareServlet_cases (s.note (.advanced s.nesting none)) with
    ⟨-, refused⟩ | ⟨c, t, bound, quiet, given⟩
  · exact .inl (inner_refused h.executor calls (ready.trans refused)).1
  · rw [ready, given] at depth kept
    rw [inner_transparent h.executor calls (ready.trans given)]
    obtain ⟨w, member, rfl⟩ := h.servlet c bound
    obtain ⟨-, entry, cls, n, known, made⟩ := contents.servlet w member
    rcases Builtin.servlet_made calls w.servlet known made (t.invoke .servlet w.servlet) with
      none | ⟨v, call, sends⟩
    · exact .inl none
    · obtain ⟨q, dispatcher, target, rfl, attached⟩ := sends.attached
      have equipped := (kept.1.1.note _).ebbs sends.quiet.ebbs
      obtain rfl := equipped.attached attached
      exact .inr ⟨v, dispatcher, target, sends.made, sends.depth.trans depth⟩

end Calling

/-! ### What is kept -/

section Keeping

variable {config : Config} {p : Nat} {r : Registry} {s t u : Container} {w : Wrapper} {base : Chain}

theorem Entered.manned (entered : Entered p r w base t u) (h : Equipped p r t) (served : w ∈ r.wrappers)
    (transparent : Transparent base.executor) : Manned p r u := by
  obtain ⟨filters, servlet⟩ := populated_members r w t.request.dispatch base
  have executor := populated_executor r w t.request.dispatch base
  have start : Manned p r ({ t with
      chain := base.populated r w t.request.dispatch
      nesting := t.nesting + 1 }.note
        (.traversed (t.nesting + 1) p r.serial w.name t.request.dispatch)) := by
    refine ⟨⟨h.current, h.executing, h.only, h.stock⟩, filters, fun c bound => ?_, ?_⟩
    · exact ⟨w, served, Option.some.inj (servlet.symm.trans bound)⟩
    · rw [← executor] at transparent
      exact transparent
  exact start.ebbs entered.quiet.ebbs

theorem locate_serves {target : Target} {path : Option String}
    (located : Pipeline.locate r target = (some w, path)) : r.Serves w := by
  cases target with
  | path text => exact .inl ⟨_, congrArg Prod.fst located⟩
  | named servlet => exact .inr ⟨servlet, congrArg Prod.fst located⟩

theorem dispatch_enters (sound : r.Sound) (calls : Calls) (h : Equipped p r s)
    (dispatcher : Dispatcher) (target : Target) :
    (Pipeline.dispatchStarts p dispatcher target s = [] ∧
        Ebbs s (Pipeline.dispatch calls p dispatcher target s).2) ∨
      ∃ w ∈ r.wrappers, ∃ base t u, Pipeline.dispatchStarts p dispatcher target s = [u] ∧
        Ebbs s t ∧ Equipped p r t ∧ Transparent base.executor ∧ s.request.depth < maxDispatchDepth ∧
        t.request.depth = s.request.depth + 1 ∧ Entered p r w base t u ∧
        Ebbs (t.leave (Traversal.doFilter calls u).2)
          (Pipeline.dispatch calls p dispatcher target s).2 := by
  rcases dispatch_cases calls p dispatcher target s with
    ⟨none, ebbs, -⟩ |
      ⟨x, w, path, base, t, u, found, located, own, starts, before, shallow, request, entered, -, after⟩
  · exact .inl ⟨none, ebbs⟩
  · obtain rfl : x.registry = r := Option.some.inj ((current_eq found).symm.trans h.current)
    obtain ⟨E, executing, transparent⟩ := h.executing
    obtain rfl : x.executor = E := Option.some.inj ((executing_eq found).symm.trans executing)
    exact .inr ⟨w, sound.mem_of_serves (locate_serves located), base, t, u, starts, before,
      h.ebbs before, own ▸ transparent, shallow, congrArg Request.depth request, entered, after⟩

theorem Equipped.leave (h : Equipped p r u) : Equipped p r (t.leave u) :=
  ⟨h.current, h.executing, h.only, h.stock⟩

theorem Manned.leave (h : Manned p r t) (inner : Equipped p r u) : Manned p r (t.leave u) :=
  ⟨inner.leave, h.filters, h.servlet, h.executor⟩

theorem dispatch_manned (sound : r.Sound) {calls : Calls}
    (kept : ∀ u, Manned p r u → Manned p r (Traversal.doFilter calls u).2) (h : Manned p r s)
    (dispatcher : Dispatcher) (target : Target) :
    Manned p r (Pipeline.dispatch calls p dispatcher target s).2 := by
  rcases dispatch_enters sound calls h.toEquipped dispatcher target with
    ⟨-, ebbs⟩ | ⟨w, served, base, t, u, -, before, equipped, transparent, -, -, entered, after⟩
  · exact h.ebbs ebbs
  · have inside := kept u (entered.manned equipped served transparent)
    exact ((h.ebbs before).leave inside.toEquipped).ebbs after

/-- A traversal of built-in components keeps what its pipeline has, by induction on the levels that are
left. -/
theorem doFilter_manned (contents : r.Contents config .builtin) (levels : Nat) :
    ∀ s, Manned p r s → Traversal.Keeps (Manned p r) (fun _ _ => True) (fun _ _ => True)
      (nestedCalls levels) s := by
  have sound := contents.sound
  -- Only that calls keep what the pipeline has is asked of them, and only of those that are made.
  have step : ∀ {calls : Calls} {s}, Manned p r s →
      (∀ c ∈ Traversal.inner calls s, Manned p r c.2 → Manned p r (calls c.1 c.2).2) →
      Traversal.Keeps (Manned p r) (fun _ _ => True) (fun _ _ => True) calls s :=
    fun h kept => (manned_way sound).doFilter h (fun c _ here _ _ => ⟨here.note _, trivial⟩)
      fun c member here _ => ⟨kept c member here, trivial⟩
  induction levels with
  | zero => exact fun s h => step h fun c _ here => here
  | succ n ih =>
    refine fun s h => step h fun c member here => ?_
    cases next : s.chain.filters[s.chain.position]? with
    | some f =>
      obtain ⟨e, -, -, ⟨-, -, none⟩ | ⟨-, -, none⟩ | ⟨-, -, w, once, -⟩⟩ :=
        filter_calls contents h next (nestedCalls (n + 1))
      · rw [none] at member
        cases member
      · rw [none] at member
        cases member
      · rw [once] at member
        obtain rfl := List.mem_singleton.1 member
        exact (ih w here).ends.1
    | none =>
      rcases servlet_calls contents h next (nestedCalls (n + 1)) with
        none | ⟨w, dispatcher, target, once, -⟩
      · rw [none] at member
        cases member
      · rw [once] at member
        obtain rfl := List.mem_singleton.1 member
        exact dispatch_manned sound (fun u h => (ih u h).ends.1) here dispatcher target

end Keeping

end ServletFilters
