import ServletFilters.Proofs.Container.Occasions
import ServletFilters.Proofs.Container.Tending
import ServletFilters.Proofs.Container.Tenure

/-!
Filters guard servlets. In a pipeline of built-in components a servlet is called only when all filters
that resolution selects for the visit were made and found on the request what they ask for, and where
one cannot be made the visit fails or was answered before, `service_guarded`.
-/

namespace ServletFilters

open Config

/-- Resolution selects the filter of an entry for the visit. -/
def Visit.Selects (config : Config) (visit : Visit) (e : FilterEntry) : Prop :=
  e ∈ config.filters ∧ MappingEntry.Selects config.filterMappings visit.state.dispatcher
    visit.state.path visit.servlet e.name

/-- The rank of the filter of an entry among those that are selected for the visit. -/
def Visit.rank (config : Config) (visit : Visit) (e : FilterEntry) : Nat × Nat :=
  MappingEntry.rank config.filterMappings visit.state.dispatcher visit.state.path visit.servlet e.name

/-- The filter can be made and lets the request pass. -/
def FilterConfig.Passes (config : Config) (request : Request) (f : FilterConfig) : Prop :=
  ∃ e ∈ config.filters, f.ComesFrom .builtin e ∧ e.Makeable ∧ e.Admits request

/-- The chain runs for this visit, and it has come only past filters that let the request pass. -/
structure Visiting (config : Config) (p : Nat) (r : Registry) (visit : Visit) (s : Container) : Prop
    extends Manned p r s where
  going : visitAt s.nesting s.journal = some visit
  pipeline : visit.pipeline = p
  listed : s.chain.filters = Chain.declared r
    (resolve r.mappings visit.state.dispatcher visit.state.path (some visit.servlet))
  ends : ∃ w ∈ r.wrappers, w.name = visit.servlet ∧ s.chain.servlet = some w.servlet
  passed : ∀ f ∈ s.chain.filters.take s.chain.position, f.Passes config s.request

/-- The levels suffice for the rest of the chain, and for as many dispatches as may go on inside it. -/
def Enough (config : Config) (levels : Nat) (s : Container) : Prop :=
  (maxDispatchDepth - s.request.depth) * (config.filters.length + 1) +
    (config.filters.length - s.chain.position) + 1 ≤ levels

section Visits

variable {config : Config} {p : Nat} {r : Registry} {visit : Visit} {s t u w : Container}

theorem entry_unique (distinct : (config.filters.map (·.name)).Nodup) {f : FilterConfig}
    {e e' : FilterEntry} (listed : e ∈ config.filters) (listed' : e' ∈ config.filters)
    (own : f.ComesFrom .builtin e) (own' : f.ComesFrom .builtin e') : e' = e := by
  refine List.inj_on_of_nodup_map distinct listed' listed ?_
  exact congrArg FilterDefinition.name (own'.1.symm.trans own.1)

theorem FilterConfig.passes_of_fixed {q r : Request} (h : q.fixed = r.fixed) {f : FilterConfig} :
    f.Passes config q ↔ f.Passes config r := by
  unfold FilterConfig.Passes
  simp only [FilterEntry.admits_of_fixed h]

theorem Entered.visiting (contents : r.Contents config .builtin) {w : Wrapper} {base : Chain}
    (entered : Entered p r w base t u) (h : Equipped p r t) (served : w ∈ r.wrappers)
    (transparent : Transparent base.executor) :
    Visiting config p r ⟨p, r.serial, w.name, t.request.dispatch⟩ u := by
  have chain : u.chain = base.populated r w t.request.dispatch := entered.quiet.chain
  refine ⟨entered.manned h served transparent, entered.amid.2.2.2, rfl, ?_,
    ⟨w, served, rfl, ?_⟩, ?_⟩
  · rw [chain]
    exact populated_filters contents.sound.declares w _ base
  · rw [chain]
    exact (populated_members r w _ base).2
  · rw [chain, populated_position]
    rintro f ⟨⟩

theorem Visiting.selected (contents : r.Contents config .builtin)
    (distinct : (config.filters.map (·.name)).Nodup) (h : Visiting config p r visit s)
    {e : FilterEntry} (selected : visit.Selects config e) :
    ∃ f ∈ s.chain.filters, f.ComesFrom .builtin e := by
  obtain ⟨listed, selects⟩ := selected
  obtain ⟨f, found, own⟩ := contents.find? distinct listed
  refine ⟨f, ?_, own⟩
  rw [h.listed]
  exact List.mem_filterMap.2
    ⟨e.name, ((resolve_ranked contents.mappings _ _ _).2.1 e.name).2 selects, found⟩

/-- The filters of the chain are selected for the visit. -/
theorem Visiting.selects (contents : r.Contents config .builtin) (h : Visiting config p r visit s)
    {f : FilterConfig} (member : f ∈ s.chain.filters) :
    ∃ e, visit.Selects config e ∧ f.ComesFrom .builtin e := by
  obtain ⟨e, listed, own⟩ := contents.entry f (h.filters f member)
  refine ⟨e, ⟨listed, ?_⟩, own⟩
  have named : f.name = e.name := congrArg FilterDefinition.name own.1
  rw [h.listed] at member
  obtain ⟨name, there, found⟩ := List.mem_filterMap.1 member
  obtain rfl : f.name = name := contents.sound.declares.named found
  exact ((resolve_ranked contents.mappings _ _ _).2.1 _).1 (named ▸ there)

theorem Visiting.names (contents : r.Contents config .builtin) (h : Visiting config p r visit s) :
    (s.chain.filters.map (·.name)).Sublist
      (resolve r.mappings visit.state.dispatcher visit.state.path (some visit.servlet)) := by
  rw [h.listed, declared_names contents.sound.declares]
  exact List.filter_sublist

theorem Visiting.length_le (contents : r.Contents config .builtin)
    (h : Visiting config p r visit s) : s.chain.filters.length ≤ config.filters.length := by
  have nodup := (nodup_firsts _).sublist (h.names contents)
  have subset : s.chain.filters.map (·.name) ⊆ config.filters.map (·.name) := by
    intro name mapped
    obtain ⟨f, member, rfl⟩ := List.mem_map.1 mapped
    obtain ⟨e, listed, own⟩ := contents.entry f (h.filters f member)
    exact List.mem_map.2 ⟨e, listed, (congrArg FilterDefinition.name own.1).symm⟩
  simpa using (List.subperm_of_subset nodup subset).length_le

/-- A filter that comes before another one in the chain was selected with a smaller rank. -/
theorem Visiting.before (contents : r.Contents config .builtin) (h : Visiting config p r visit s)
    {i j : Nat} (lt : i < j) {f g : FilterConfig} {e d : FilterEntry}
    (first : s.chain.filters[i]? = some f) (second : s.chain.filters[j]? = some g)
    (listed : e ∈ config.filters) (own : f.ComesFrom .builtin e) (own' : g.ComesFrom .builtin d) :
    visit.Selects config e ∧ MappingEntry.Before (visit.rank config e) (visit.rank config d) := by
  obtain ⟨-, members, ranked⟩ := resolve_ranked contents.mappings visit.state.dispatcher
    visit.state.path visit.servlet
  have named : ∀ {f : FilterConfig} {e : FilterEntry}, f.ComesFrom .builtin e → f.name = e.name :=
    fun own => congrArg FilterDefinition.name own.1
  have sorted := ranked.sublist (h.names contents)
  obtain ⟨hi, rfl⟩ := List.getElem?_eq_some_iff.1 first
  obtain ⟨hj, rfl⟩ := List.getElem?_eq_some_iff.1 second
  constructor
  · refine ⟨listed, (members e.name).1 ?_⟩
    exact (h.names contents).subset (List.mem_map.2 ⟨_, List.getElem_mem hi, named own⟩)
  · have := List.pairwise_iff_getElem.1 sorted i j (by simpa using hi) (by simpa using hj) lt
    rw [List.getElem_map, List.getElem_map, named own, named own'] at this
    exact this

theorem Visiting.behind (h : Visiting config p r visit s) {f : FilterConfig} {e : FilterEntry}
    (next : s.chain.filters[s.chain.position]? = some f) (listed : e ∈ config.filters)
    (own : f.ComesFrom .builtin e) (makeable : e.Makeable) (admits : e.Admits s.request)
    (chain : w.chain = s.advance.chain) (manned : Manned p r w) (abides : Abides s w) :
    Visiting config p r visit w := by
  have filters : w.chain.filters = s.chain.filters := (congrArg Chain.filters chain :)
  have position : w.chain.position = s.chain.position + 1 := (congrArg Chain.position chain :)
  have servlet : w.chain.servlet = s.chain.servlet := (congrArg Chain.servlet chain :)
  refine ⟨manned, ?_, h.pipeline, filters.trans h.listed, servlet ▸ h.ends, fun g member => ?_⟩
  · rw [abides.nesting, abides.visits _ (Nat.le_refl _), h.going]
  · rw [filters, position, List.take_add_one, next] at member
    rcases List.mem_append.1 member with before | last
    · exact (FilterConfig.passes_of_fixed abides.request).2 (h.passed g before)
    · obtain rfl := List.mem_singleton.1 last
      exact ⟨e, listed, own, makeable, (FilterEntry.admits_of_fixed abides.request).2 admits⟩

theorem inner_abides {n : Nat} {c : Call × Container}
    (made : c ∈ Traversal.inner (nestedCalls n) s) : Abides s c.2 := by
  rw [← callsAmid_nothing] at made
  exact ((doFilter_abides (fun _ => []) n s).inner c made).2

/-- The next filter lets the request pass and goes on, and the visit with it. -/
structure Proceeds (config : Config) (p : Nat) (r : Registry) (visit : Visit) (s w : Container) :
    Prop where
  visiting : Visiting config p r visit w
  abides : Abides s w
  chain : w.chain = s.advance.chain
  depth : w.request.depth = s.request.depth

theorem Visiting.next (contents : r.Contents config .builtin) (h : Visiting config p r visit s)
    {f : FilterConfig} (next : s.chain.filters[s.chain.position]? = some f) (n : Nat) :
    ∃ e ∈ config.filters, f.ComesFrom .builtin e ∧
      ((¬ e.Makeable ∧ Fails (Traversal.doFilter (nestedCalls n) s).1 ∧
          Traversal.inner (nestedCalls n) s = []) ∨
        (e.Makeable ∧ ¬ e.Admits s.request ∧ Traversal.inner (nestedCalls n) s = []) ∨
        (e.Makeable ∧ ∃ w, Traversal.inner (nestedCalls n) s = [(.proceed, w)] ∧
          Proceeds config p r visit s w ∧ (Fails (nestedCalls n .proceed w).1 →
            Fails (Traversal.doFilter (nestedCalls n) s).1))) := by
  obtain ⟨e, listed, own, calls⟩ := filter_calls contents h.toManned next (nestedCalls n)
  refine ⟨e, listed, own, calls.imp_right fun others => others.imp_right ?_⟩
  rintro ⟨makeable, admits, w, once, chain, depth, fails⟩
  have made : (Call.proceed, w) ∈ Traversal.inner (nestedCalls n) s :=
    once ▸ List.mem_singleton_self _
  have manned := ((doFilter_manned contents n s h.toManned).inner _ made).1
  have abides := inner_abides made
  have behind := h.behind next listed own makeable admits chain manned abides
  exact ⟨makeable, w, once, ⟨behind, abides, chain, depth⟩, fails⟩

theorem Enough.of_le {n : Nat} (enough : 33 * (config.filters.length + 1) ≤ n)
    (first : s.chain.position = 0) : Enough config n s := by
  have below := Nat.mul_le_mul_right (config.filters.length + 1)
    (Nat.sub_le maxDispatchDepth s.request.depth)
  unfold Enough
  unfold maxDispatchDepth at below ⊢
  omega

theorem Enough.deepen {n : Nat} (room : Enough config (n + 1) s)
    (shallow : s.request.depth < maxDispatchDepth) (depth : t.request.depth = s.request.depth + 1)
    (position : t.chain.position = 0) : Enough config n t := by
  unfold Enough at room ⊢
  rw [depth, position]
  rw [show maxDispatchDepth - s.request.depth = maxDispatchDepth - (s.request.depth + 1) + 1 by omega,
    Nat.succ_mul] at room
  omega

/-- The visit that goes on, or another one, comes to this call to go on, and there are still levels
enough for it. -/
structure Onward (config : Config) (p : Nat) (r : Registry) (n : Nat) (s : Container) (call : Call)
    (t : Container) : Prop where
  visiting : ∃ visit, Visiting config p r visit t
  request : t.request.fixed = s.request.fixed
  levels : Enough config (n + 1) s → Enough config n t
  first : call = .proceed ∨ t.chain.position = 0

/-- Going on takes one level and one place of the chain. -/
theorem Visiting.onward_filter (contents : r.Contents config .builtin)
    (h : Visiting config p r visit s) {f : FilterConfig}
    (next : s.chain.filters[s.chain.position]? = some f) {n : Nat} {call : Call}
    (made : (call, w) ∈ Traversal.inner (nestedCalls (n + 1)) s) (start : t ∈ call.starts w) :
    Onward config p r n s call t := by
  have place := (List.getElem?_eq_some_iff.1 next).1
  have bound := h.length_le contents
  obtain ⟨e, -, -, ⟨-, -, none⟩ | ⟨-, -, none⟩ | ⟨-, v, once, proceeds, -⟩⟩ :=
    h.next contents next (n + 1)
  · rw [none] at made
    cases made
  · rw [none] at made
    cases made
  · rw [once] at made
    obtain ⟨rfl, rfl⟩ := Prod.mk.inj (List.mem_singleton.1 made)
    obtain rfl := List.mem_singleton.1 start
    refine ⟨⟨visit, proceeds.visiting⟩, proceeds.abides.request, ?_, .inl rfl⟩
    unfold Enough
    rw [proceeds.depth, proceeds.chain]
    change _ → _ + (config.filters.length - (s.chain.position + 1)) + 1 ≤ n
    omega

/-- A dispatch takes one level, and all places are ahead again, but there is one dispatch less to
come. -/
theorem Visiting.onward_servlet (contents : r.Contents config .builtin)
    (h : Visiting config p r visit s) (next : s.chain.filters[s.chain.position]? = none) {n : Nat}
    {call : Call} (made : (call, w) ∈ Traversal.inner (nestedCalls (n + 1)) s)
    (start : t ∈ call.starts w) : Onward config p r n s call t := by
  have manned := ((doFilter_manned contents (n + 1) s h.toManned).inner _ made).1
  have abides := inner_abides made
  rcases servlet_calls contents h.toManned next (nestedCalls (n + 1)) with
    none | ⟨v, dispatcher, target, once, depth⟩
  · rw [none] at made
    cases made
  rw [once] at made
  obtain ⟨rfl, rfl⟩ := Prod.mk.inj (List.mem_singleton.1 made)
  have start : t ∈ Pipeline.dispatchStarts p dispatcher target w := start
  rcases dispatch_enters contents.sound (nestedCalls n) manned.toEquipped dispatcher target with
    ⟨none, -⟩ | ⟨x, served, base, v, u, starts, ebbs, equipped, transparent, shallow, deeper, entered, -⟩
  · rw [none] at start
    cases start
  rw [starts] at start
  obtain rfl := List.mem_singleton.1 start
  obtain ⟨names, request⟩ := entered.request
  have position : t.chain.position = 0 :=
    (congrArg Chain.position entered.quiet.chain).trans (populated_position r x _ base)
  have further : t.request.depth = s.request.depth + 1 := by
    rw [request, ← depth, ← deeper]
  exact ⟨⟨_, entered.visiting contents equipped served transparent⟩,
    (entered.amid.1.request.trans ebbs.request).trans abides.request,
    fun room => room.deepen (depth ▸ shallow) further position, .inr position⟩

theorem Visiting.onward (contents : r.Contents config .builtin) (h : Visiting config p r visit s)
    {n : Nat} {call : Call} (made : (call, w) ∈ Traversal.inner (nestedCalls (n + 1)) s)
    (start : t ∈ call.starts w) : Onward config p r n s call t := by
  cases next : s.chain.filters[s.chain.position]? with
  | some f => exact h.onward_filter contents next made start
  | none => exact h.onward_servlet contents next made start

theorem Leads.visiting (contents : r.Contents config .builtin) {n m : Nat} {g : Container}
    (leads : Leads (fun _ => []) n s m g) (h : Visiting config p r visit s) :
    g.request.fixed = s.request.fixed ∧ (Enough config n s → Enough config m g) ∧
      ∃ visit, Visiting config p r visit g := by
  induction leads generalizing visit with
  | here => exact ⟨rfl, id, visit, h⟩
  | @inside n s call w t m g made start _ ih =>
    rw [callsAmid_nothing] at made
    have onward := h.onward contents made start
    obtain ⟨visit, there⟩ := onward.visiting
    obtain ⟨fixed, enough, rest⟩ := ih there
    exact ⟨fixed.trans onward.request, fun room => enough (onward.levels room), rest⟩

/-- The filter in this slot is the entry's and does not find on the request what it asks for, and those
before it let the request pass. -/
structure Stopped (config : Config) (s : Container) (i : Nat) (d : FilterEntry) : Prop where
  listed : d ∈ config.filters
  slot : ∃ g, s.chain.filters[i]? = some g ∧ g.ComesFrom .builtin d
  makeable : d.Makeable
  refuses : ¬ d.Admits s.request
  before : ∀ g ∈ s.chain.filters.take i, g.Passes config s.request

theorem Stopped.of_fixed {i : Nat} {d : FilterEntry} (h : Stopped config w i d)
    (filters : w.chain.filters = s.chain.filters) (fixed : w.request.fixed = s.request.fixed) :
    Stopped config s i d := by
  obtain ⟨listed, slot, makeable, refuses, before⟩ := h
  rw [filters] at slot before
  refine ⟨listed, slot, makeable, fun admits => refuses ((FilterEntry.admits_of_fixed fixed).2 admits),
    fun g member => (FilterConfig.passes_of_fixed fixed).1 (before g member)⟩

/-- If there is a filter ahead that cannot be made, the visit fails, or it is stopped before that. -/
theorem Visiting.stops (contents : r.Contents config .builtin)
    (distinct : (config.filters.map (·.name)).Nodup) {f : FilterConfig} {e : FilterEntry}
    (listed : e ∈ config.filters) (own : f.ComesFrom .builtin e) (unmakeable : ¬ e.Makeable) (k : Nat) :
    ∀ m s, Visiting config p r visit s → s.chain.filters[s.chain.position + k]? = some f → k ≤ m →
      Fails (Traversal.doFilter (nestedCalls m) s).1 ∨
        ∃ i < s.chain.position + k, ∃ d, Stopped config s i d := by
  induction k with
  | zero =>
    intro m s h ahead _
    obtain ⟨d, listed', own', ⟨-, fails, -⟩ | ⟨makeable, -⟩ | ⟨makeable, -⟩⟩ := h.next contents ahead m
    · exact .inl fails
    · exact absurd (entry_unique distinct listed listed' own own' ▸ makeable) unmakeable
    · exact absurd (entry_unique distinct listed listed' own own' ▸ makeable) unmakeable
  | succ k ih =>
    intro m s h ahead room
    obtain ⟨m, rfl⟩ : ∃ n, m = n + 1 := ⟨m - 1, by omega⟩
    have place := (List.getElem?_eq_some_iff.1 ahead).1
    have next := List.getElem?_eq_getElem (l := s.chain.filters) (i := s.chain.position) (by omega)
    obtain ⟨d, listed', own', ⟨-, fails, -⟩ | ⟨makeable, refuses, -⟩ | ⟨-, w, -, proceeds, fails⟩⟩ :=
      h.next contents next (m + 1)
    · exact .inl fails
    · exact .inr ⟨s.chain.position, by omega, d, listed', ⟨_, next, own'⟩, makeable, refuses, h.passed⟩
    · -- The filter ahead is a place nearer, and what fails there fails here.
      have filters : w.chain.filters = s.chain.filters := (congrArg Chain.filters proceeds.chain :)
      have position : w.chain.position = s.chain.position + 1 :=
        (congrArg Chain.position proceeds.chain :)
      have ahead : w.chain.filters[w.chain.position + k]? = some f := by
        rw [filters, position, Nat.add_right_comm]
        exact ahead
      rcases ih m w proceeds.visiting ahead (by omega) with failed | ⟨i, before, d, stopped⟩
      · exact .inl (fails failed)
      · exact .inr ⟨i, by omega, d, stopped.of_fixed filters proceeds.abides.request⟩

/-- The filter of the entry answers the visit itself: it does not find on the request what it asks for,
and all filters before it let the request pass. -/
structure Visit.AnsweredBy (config : Config) (visit : Visit) (request : Request) (d : FilterEntry) :
    Prop where
  selected : visit.Selects config d
  makeable : d.Makeable
  refuses : ¬ d.Admits request
  before : ∀ e, visit.Selects config e →
    MappingEntry.Before (visit.rank config e) (visit.rank config d) → e.Makeable ∧ e.Admits request

/-- Where the filter of a selected entry cannot be made, the visit fails, unless a filter before that
one answers it. -/
def Visit.Guarded (config : Config) (visit : Visit) (request : Request) (fails : Prop) : Prop :=
  ∀ e, visit.Selects config e → ¬ e.Makeable → fails ∨ ∃ d,
    visit.AnsweredBy config request d ∧
      MappingEntry.Before (visit.rank config d) (visit.rank config e)

theorem Visit.Guarded.imp {q request : Request} {fails further : Prop}
    (h : visit.Guarded config q fails) (fixed : q.fixed = request.fixed) (weaker : fails → further) :
    visit.Guarded config request further := by
  intro e selected unmakeable
  refine (h e selected unmakeable).imp weaker ?_
  rintro ⟨d, answered, before⟩
  refine ⟨d, ⟨answered.selected, answered.makeable, ?_, fun c selected smaller => ?_⟩, before⟩
  · exact fun admits => answered.refuses ((FilterEntry.admits_of_fixed fixed).2 admits)
  · exact (answered.before c selected smaller).imp id (FilterEntry.admits_of_fixed fixed).1

theorem Visiting.guarded (contents : r.Contents config .builtin)
    (distinct : (config.filters.map (·.name)).Nodup) (h : Visiting config p r visit s)
    (first : s.chain.position = 0) {m : Nat} (room : Enough config m s) :
    visit.Guarded config s.request (Fails (Traversal.doFilter (nestedCalls m) s).1) := by
  intro e selected unmakeable
  obtain ⟨f, member, own⟩ := h.selected contents distinct selected
  obtain ⟨j, there⟩ := List.mem_iff_getElem?.1 member
  have place := (List.getElem?_eq_some_iff.1 there).1
  have bound := h.length_le contents
  unfold Enough at room
  rcases h.stops contents distinct selected.1 own unmakeable j m s (by rw [first, Nat.zero_add, there])
    (by omega) with failed | ⟨i, before, d, listed, ⟨g, there', own'⟩, makeable, refuses, passed⟩
  · exact .inl failed
  rw [first, Nat.zero_add] at before
  obtain ⟨selected', smaller⟩ := h.before contents before there' there listed own' own
  refine .inr ⟨d, ⟨selected', makeable, refuses, fun c selected'' smaller' => ?_⟩, smaller⟩
  obtain ⟨g', member', own''⟩ := h.selected contents distinct selected''
  obtain ⟨k, there''⟩ := List.mem_iff_getElem?.1 member'
  -- The filter of a smaller rank cannot come later in the chain.
  have earlier : k < i := by
    rcases Nat.lt_trichotomy k i with lt | rfl | gt
    · exact lt
    · obtain rfl := Option.some.inj (there'.symm.trans there'')
      obtain rfl := entry_unique distinct listed selected''.1 own' own''
      exact absurd smaller' (MappingEntry.before_asymm smaller')
    · exact absurd smaller' (MappingEntry.before_asymm
        (h.before contents gt there' there'' listed own' own'').2)
  obtain ⟨hk, rfl⟩ := List.getElem?_eq_some_iff.1 there''
  obtain ⟨c', listed', own''', passes⟩ := passed _ (List.mem_take_iff_getElem.2 ⟨k, by omega, rfl⟩)
  obtain rfl := entry_unique distinct selected''.1 listed' own'' own'''
  exact passes

/-- A component is called as the servlet of the visit that goes on, past all of its filters. -/
theorem Visiting.servlet_called (contents : r.Contents config .builtin)
    (distinct : (config.filters.map (·.name)).Nodup) (h : Visiting config p r visit s) {n : Nat}
    {i : Invocation} (called : (i, w) ∈ Traversal.invocations (nestedCalls n) s)
    (stage : i.stage = .servlet) : visitAt w.nesting w.journal = some visit ∧
      visit.servlet = i.component.name ∧
      ∀ e, visit.Selects config e → e.Makeable ∧ e.Admits s.request := by
  have abides : Abides s w := by
    rw [← callsAmid_nothing] at called
    exact ((doFilter_abides (fun _ => []) n s).invocations _ called).1.2
  refine ⟨by rw [abides.nesting, abides.visits _ (Nat.le_refl _), h.going], ?_⟩
  obtain ⟨t, acts, u, ready, -⟩ := mem_invocations.1 called
  rw [actions_transparent h.executor] at acts
  obtain rfl := List.mem_singleton.1 acts
  cases next : t.chain.filters[t.chain.position]? with
  | some f =>
    obtain ⟨e, -, own⟩ := contents.entry f (h.filters f (List.mem_of_getElem? next))
    rcases h.prepare_builtin contents.sound next own with
      ⟨-, c, v, prepared, -⟩ | ⟨-, failure, v, refused⟩
    · rw [ready] at prepared
      obtain rfl := value_eq prepared
      cases stage
    · rw [ready] at refused
      cases refused
  | none =>
    rw [prepare_servlet next] at ready
    rcases prepareServlet_cases (t.note (.advanced t.nesting none)) with
      ⟨-, refused⟩ | ⟨c, v, bound, -, prepared⟩
    · rw [ready] at refused
      cases refused
    · rw [ready] at prepared
      obtain rfl := value_eq prepared
      obtain ⟨x, served, name, ends⟩ := h.ends
      obtain rfl := Option.some.inj (ends.symm.trans bound)
      refine ⟨name.symm.trans (contents.servlet x served).1.symm, fun e selected => ?_⟩
      obtain ⟨f, member, own⟩ := h.selected contents distinct selected
      rw [← List.take_of_length_le (List.getElem?_eq_none_iff.1 next)] at member
      obtain ⟨d, listed, own', makeable, admits⟩ := h.passed f member
      obtain rfl := entry_unique distinct selected.1 listed own own'
      exact ⟨makeable, admits⟩

end Visits

/-! ### Servicing a request -/

section Servicing

variable {start config : Config} {executor : Option Executor} {p : Nat} {r : Registry} {w : Wrapper}
  {s t : Container} {x : Pipeline}

theorem Tenure.equipped (h : Tenure start .builtin executor p s) (transparent : Transparent executor)
    (found : s.pipelines.find? p = some x) : Equipped p x.registry s := by
  obtain ⟨y, found', -, executed, -⟩ := h.pipeline
  obtain rfl := Option.some.inj (found.symm.trans found')
  refine ⟨current_eq found, ⟨executor, ?_, transparent⟩, fun {k} there => ?_, fun f member c made => ?_⟩
  · rw [Container.executing, found, Option.map_some, executed]
  · cases other : s.pipelines.find? k with
    | none => exact absurd (by rw [Container.executing, other]; rfl) there
    | some z => exact h.only other
  · obtain ⟨i, _, _, self, like⟩ := h.like_self found
    obtain ⟨cls, source, -, -, paired⟩ := (List.forall₂_same.1 like.registry.filters.values f member).made
    have instances := self.instances paired
    rw [made] at instances
    cases instances with
    | both _ origin =>
      obtain ⟨n, ready⟩ := origin.made
      exact ⟨cls, n, source, ready⟩

/-- What holds between the traversals for a request: the pipeline has what it had, and its idle chains
are tidy, as it goes the same way as itself. -/
structure Between (executor : Option Executor) (p : Nat) (r : Registry) (w : Wrapper)
    (s t : Container) : Prop where
  equipped : Equipped p r t
  request : t.request.fixed = s.request.fixed
  self : ∃ i old old', Parallel (.pooling True executor (· = p)) old old' i t t ∧
    r.Like (.pooling True executor (· = p)) i r ∧ w.Like (.pooling True executor (· = p)) w

theorem Between.takeAsync (h : Between executor p r w s t) :
    Between executor p r w s (t.updateRequest fun r => { r with asyncStarted := false }) := by
  obtain ⟨i, old, old', self, like⟩ := h.self
  exact ⟨h.equipped.ebbs (Quiet.updateRequest t rfl).ebbs, h.request, i, old, old',
    self.updateRequest (fun _ _ _ => rfl) (fun _ => rfl) fun _ => rfl, like⟩

/-- A chain that the pipeline lends for a traversal has the pipeline's executor, or none if it was
idle. -/
theorem Between.lent (h : Between executor p r w s t) {y : Pipeline}
    (found : t.pipelines.find? p = some y) {pooled : Bool} {base : Chain}
    (lends : y.Lends pooled base) : Transparent base.executor := by
  obtain ⟨E, executing, transparent⟩ := h.equipped.executing
  obtain rfl : y.executor = E := Option.some.inj ((executing_eq found).symm.trans executing)
  rcases lends with own | ⟨-, -, servlet, c, idle, own⟩
  · exact own ▸ transparent
  · obtain ⟨i, _, _, self, -⟩ := h.self
    have same := self.pipelines (p := p) (q := p) ⟨rfl, rfl⟩
    rw [found] at same
    cases same with
    | some like =>
      obtain ⟨-, _, _, rfl⟩ := like.tidy servlet c idle
      exact .inl own

theorem Between.visit (contents : r.Contents config .builtin) (served : w ∈ r.wrappers)
    (h : Between executor p r w s t) (levels : Nat) (state : DispatchState) :
    Between executor p r w s (Pipeline.dispatchTo (nestedCalls levels) p r w state true t).2 ∧
      ∀ u ∈ Pipeline.starts p r w state true t, u.request.fixed = s.request.fixed ∧
        u.chain.position = 0 ∧ ∃ visit, Visiting config p r visit u := by
  obtain ⟨i, old, old', self, like, alike⟩ := h.self
  rcases dispatchTo_cases (nestedCalls levels) p r w state true t with
    ⟨absent, -⟩ | ⟨y, base, v, u, found, lends, starts, quiet, request, entered, -, after⟩
  · have current := h.equipped.current
    rw [Container.current, absent] at current
    cases current
  have transparent := h.lent found lends
  have equipped := h.equipped.ebbs quiet.ebbs
  have manned := entered.manned equipped served transparent
  have inside := (doFilter_manned contents levels u manned).ends.1
  refine ⟨⟨inside.toEquipped.leave.ebbs after.ebbs, ?_, ?_⟩, fun u' member => ?_⟩
  · rw [← callsAmid_nothing]
    exact (dispatchTo_abides (callsAmid_abides (fun _ => []) levels) p r w state true t).1.request.trans
      h.request
  · have corresponds : (Margin.pooling True executor (· = p)).pipeline p p := ⟨rfl, rfl⟩
    obtain ⟨j, within, later, -⟩ := (dispatchTo_tandem (nestedCalls_alongside levels) corresponds like
      alike state true self).ends
    exact ⟨j, old, old', later, like.mono within, alike⟩
  · rw [starts] at member
    obtain rfl := List.mem_singleton.1 member
    refine ⟨(entered.amid.1.request.trans quiet.request).trans h.request, ?_,
      _, entered.visiting contents equipped served transparent⟩
    exact (congrArg Chain.position entered.quiet.chain).trans (populated_position r w _ base)

theorem Tenure.between (h : Tenure start .builtin executor p s) (transparent : Transparent executor)
    (found : s.pipelines.find? p = some x) {path : String}
    (mapped : x.registry.mapServlet path = some w) :
    Between executor p x.registry w s (x.registry.hold (s.attach p)) := by
  obtain ⟨i, old, old', self, like⟩ := h.like_self found
  have alike : w.Like (.pooling True executor (· = p)) w := by
    have same := mapServlet_like like.registry path
    rw [mapped] at same
    cases same with
    | some alike => exact alike
  have corresponds : (Margin.pooling True executor (· = p)).pipeline p p := ⟨rfl, rfl⟩
  refine ⟨(h.equipped transparent found).ebbs ?_, rfl, i, old, old',
    (self.attach corresponds).hold like.registry, like.registry, alike⟩
  exact (Quiet.updateRequest s rfl).ebbs.trans (x.registry.hold_ebbs _)

theorem serviceStarts_visiting (h : Tenure start .builtin executor p s)
    (transparent : Transparent executor) (found : s.pipelines.find? p = some x)
    (contents : x.registry.Contents config .builtin) {levels : Nat} {u : Container}
    (member : u ∈ Pipeline.serviceStarts (nestedCalls levels) p s) :
    u.request.fixed = s.request.fixed ∧ u.chain.position = 0 ∧
      ∃ visit, Visiting config p x.registry visit u := by
  rcases serviceWith_traverses (nestedCalls levels) p s with
    ⟨none, -⟩ | ⟨y, w, found', mapped, starts, -⟩
  · rw [none] at member
    cases member
  obtain rfl := Option.some.inj (found.symm.trans found')
  rw [starts] at member
  have served := contents.sound.mem_of_serves (.inl ⟨_, mapped⟩)
  have begun := h.between transparent found mapped
  have visit := fun dispatcher t (between : Between executor p x.registry w s t) =>
    between.visit contents served levels { dispatcher, path := some s.request.path }
  obtain ⟨-, met⟩ := traverse_reaches (fun t h => h.takeAsync) begun
    fun dispatcher t between _ => (visit dispatcher t between).1
  obtain ⟨dispatcher, t, between, start⟩ := met u member
  exact (visit dispatcher t between).2 u start

theorem service_fails {levels : Nat} {u : Container}
    (member : u ∈ Pipeline.serviceStarts (nestedCalls levels) p s)
    (failed : Fails (Traversal.doFilter (nestedCalls levels) u).1) :
    ∃ f, (Pipeline.service levels p s).1 = .ok (.error (.chain f)) := by
  obtain ⟨f, failed⟩ := failed
  unfold Pipeline.service
  rcases serviceWith_traverses (nestedCalls levels) p s with ⟨none, -⟩ | ⟨y, w, -, -, starts, result, -⟩
  · rw [none] at member
    cases member
  · rw [starts] at member
    rw [result, traverse_fails member failed]
    exact ⟨f, rfl⟩

/-- A pipeline of built-in components services a request. Where it calls a servlet, all filters that
resolution selects for the visit were made, and those that require a header have found it; and where
one cannot be made, the visit fails or was answered by such a filter before. -/
theorem service_guarded {start config : Config} {p levels : Nat} {uses : List Use} {s : Container}
    {x : Pipeline} (opened : (Pipeline.openFor start .builtin (.ofConfig start) {}).1 = .ok (.ok p))
    (used : s = uses.foldl (Container.use p) (.opened start .builtin (.ofConfig start)))
    (found : s.pipelines.find? p = some x) (runs : x.Runs config) (valid : config.defects = []) :
    (∀ level c name depth past,
      Added (.invoked level .servlet c name depth) past s (Pipeline.service levels p s).2 →
      ∃ visit, visitAt level past = some visit ∧ visit.pipeline = p ∧ visit.servlet = name ∧
        ∀ e, visit.Selects config e → e.Makeable ∧ e.Admits s.request) ∧
    (33 * (config.filters.length + 1) ≤ levels →
      ∀ begin ∈ Pipeline.serviceStarts (nestedCalls levels) p s,
        (∃ visit, visitAt begin.nesting begin.journal = some visit ∧ visit.pipeline = p ∧
          visit.Guarded config s.request
            (∃ f, (Pipeline.service levels p s).1 = .ok (.error (.chain f)))) ∧
        ∀ m g call w t, Leads (fun _ => []) levels begin (m + 1) g →
          (call, w) ∈ Traversal.inner (nestedCalls (m + 1)) g → call ≠ .proceed → t ∈ call.starts w →
          ∃ visit, visitAt t.nesting t.journal = some visit ∧ visit.pipeline = p ∧
            visit.Guarded config s.request (Fails (nestedCalls (m + 1) call w).1)) := by
  have tenure := (tenure_opened opened).uses uses
  rw [← used] at tenure
  have contents : x.registry.Contents config .builtin := by
    obtain ⟨⟨t, u, built⟩, -⟩ := runs
    rw [tenure.own found] at built
    exact Registry.build_contents built
  have distinct := distinct_of_defects valid
  have transparent : Transparent (PipelineOptions.ofConfig start).executor := by
    unfold PipelineOptions.ofConfig Transparent
    cases start.security.privilegedExecution
    · exact .inl rfl
    · exact .inr rfl
  have starts : ∀ {u}, u ∈ Pipeline.serviceStarts (nestedCalls levels) p s → _ :=
    fun member => serviceStarts_visiting tenure transparent found contents member
  constructor
  · intro level c name depth past added
    have called := serviceWith_called (fun _ => []) levels p s
    rw [callsAmid_nothing] at called
    obtain ⟨u, member, called⟩ := called.fits added rfl
    obtain ⟨m, g, i, v, leads, acts, rfl, told⟩ := called rfl
    obtain ⟨fixed, -, visit, visiting⟩ := starts member
    obtain ⟨fixed', -, visit, visiting⟩ := leads.visiting contents visiting
    rw [callsAmid_nothing] at acts
    obtain ⟨rfl, stage, rfl, rfl, rfl⟩ := Event.invoked.inj told
    obtain ⟨going, named, passed⟩ := visiting.servlet_called contents distinct acts stage.symm
    refine ⟨visit, going, visiting.pipeline, named, fun e selected => ?_⟩
    obtain ⟨makeable, admits⟩ := passed e selected
    exact ⟨makeable, (FilterEntry.admits_of_fixed (fixed'.trans fixed)).1 admits⟩
  · intro enough u member
    obtain ⟨fixed, first, visit, visiting⟩ := starts member
    have room : Enough config levels u := Enough.of_le enough first
    refine ⟨⟨visit, visiting.going, visiting.pipeline, ?_⟩, ?_⟩
    · exact (visiting.guarded contents distinct first room).imp fixed (service_fails member)
    · intro m g call w t leads made other there
      obtain ⟨fixed', further, visit, visiting⟩ := leads.visiting contents visiting
      have onward := visiting.onward contents made there
      obtain ⟨visit, visiting⟩ := onward.visiting
      refine ⟨visit, visiting.going, visiting.pipeline, ?_⟩
      have guarded := visiting.guarded contents distinct (onward.first.resolve_left other)
        (onward.levels (further room))
      refine guarded.imp (onward.request.trans (fixed'.trans fixed)) fun failed => ?_
      cases call with
      | proceed => exact absurd rfl other
      | reload q c => cases there
      | dispatch q dispatcher target =>
        rw [← dispatch_fst there] at failed
        exact failed

end Servicing

/-- Two servlets, one of which forwards to the other; all requests need a header, and forwarded ones a
filter that cannot be made. -/
def vaultConfig : Config where
  filters :=
    [{ name := "auth", className := "require-header", initParams := ⟨[("header", "X-Auth")]⟩ },
      { name := "audit", className := "response-header" }]
  filterMappings :=
    [{ filterName := "auth", urlPatterns := ["/*"] },
      { filterName := "audit", servletNames := ["vault"], dispatchers := ["FORWARD"] }]
  servlets :=
    [{ name := "vault", className := "static-text", urlPatterns := ["/vault"] },
      { name := "door", className := "forwarding", urlPatterns := ["/door"]
        initParams := ⟨[("target", "/vault")]⟩ }]

def vaultWith (uri : String) : Container :=
  [.request { uri, headers := [("x-auth", "1")] }].foldl (Container.use 6)
    (.opened vaultConfig .builtin (.ofConfig vaultConfig))

/-- The number of the servlet that an event tells to be called, with its name. -/
def Event.servlet? : Event → Option (Nat × String)
  | .invoked _ .servlet c name _ => some (c, name)
  | _ => none

theorem service_guarded_vault :
    (∃ level c depth past, Added (.invoked level .servlet c "vault" depth) past (vaultWith "/vault")
        (Pipeline.service 99 6 (vaultWith "/vault")).2 ∧
      ∃ visit, visitAt level past = some visit ∧
        ∀ e, visit.Selects vaultConfig e → e.Makeable ∧ e.Admits (vaultWith "/vault").request) ∧
    ∃ begin ∈ Pipeline.serviceStarts (nestedCalls 99) 6 (vaultWith "/door"),
      ∃ visit, visitAt begin.nesting begin.journal = some visit ∧
        visit.Guarded vaultConfig (vaultWith "/door").request
          (∃ f, (Pipeline.service 99 6 (vaultWith "/door")).1 = .ok (.error (.chain f))) := by
  have opened : (Pipeline.openFor vaultConfig .builtin (.ofConfig vaultConfig) {}).1 = .ok (.ok 6) := by
    decide +kernel
  have valid : vaultConfig.defects = [] := by decide
  obtain ⟨x, found, runs⟩ := opened_runs opened
  have runs : x.Runs vaultConfig := runs
  have guarded := fun uri => @service_guarded vaultConfig vaultConfig 6 99 _ (vaultWith uri) x opened
    rfl found runs valid
  constructor
  · let s := vaultWith "/vault"
    let t := (Pipeline.service 99 6 s).2
    have told : (t.journal.take 2).map Event.servlet? = [none, some (3, "vault")] := by decide +kernel
    obtain ⟨e, rest, first, -, told⟩ := List.map_eq_cons_iff.1 told
    obtain ⟨e', rest, rfl, called, told⟩ := List.map_eq_cons_iff.1 told
    obtain rfl := List.map_eq_nil_iff.1 told
    have journal : t.journal = [e] ++ e' :: t.journal.drop 2 :=
      (List.take_append_drop 2 t.journal).symm.trans (congrArg (· ++ t.journal.drop 2) first)
    have grows := (serviceWith_called (fun _ => []) 99 6 s).grows
    rw [callsAmid_nothing] at grows
    have since : s.journal <:+ t.journal.drop 2 :=
      List.suffix_of_suffix_length_le grows (List.drop_suffix 2 _) (by decide +kernel)
    cases e' with
    | invoked level stage c name depth =>
      cases stage with
      | filter => cases called
      | servlet =>
        obtain ⟨-, rfl⟩ := Prod.mk.inj (Option.some.inj called)
        have added : Added (.invoked level .servlet c "vault" depth) (t.journal.drop 2) s t :=
          ⟨since, [e], journal⟩
        obtain ⟨visit, going, -, -, passed⟩ := (guarded "/vault").1 level c "vault" depth _ added
        exact ⟨level, c, depth, _, added, visit, going, passed⟩
    | _ => cases called
  · have visits : (Pipeline.serviceStarts (nestedCalls 99) 6 (vaultWith "/door")).map
        (fun u => (visitAt u.nesting u.journal).map (·.servlet)) = [some "door"] := by decide +kernel
    obtain ⟨begin, rest, starts, -⟩ := List.map_eq_cons_iff.1 visits
    have member : begin ∈ Pipeline.serviceStarts (nestedCalls 99) 6 (vaultWith "/door") :=
      starts ▸ List.mem_cons_self ..
    obtain ⟨⟨visit, going, -, stops⟩, -⟩ := (guarded "/door").2 (by decide) begin member
    exact ⟨begin, member, visit, going, stops⟩

end ServletFilters
