import Mathlib.Data.List.Nodup
import ServletFilters.Proofs.Container.Changes
import ServletFilters.Proofs.Routing.Selection

/-!
Populating a chain. `populate_apply` says what is left of the chain that was there, and
`populate_selects` ties the chain to the mapping entries of the configuration.
-/

namespace ServletFilters

open Config

/-- The chain populated for a servlet and for a way in which the request came. -/
def Chain.populated (registry : Registry) (wrapper : Wrapper) (d : DispatchState) (c : Chain) :
    Chain :=
  (Chain.declared registry (resolve registry.mappings d.dispatcher d.path (some wrapper.name))).foldl
    Chain.addFilter (c.release.setServlet wrapper.servlet wrapper.asyncSupported)

/-- The line that is logged for a mapped name that no filter has. -/
def Chain.skipLine (servlet name : String) : LogEntry where
  level := .warn
  message := "Filter mapping references an undefined filter, skipping"
  fields := [("filter", .text name), ("servlet", .text servlet)]

theorem reportUndeclared_apply (registry : Registry) (servlet : String) (names : List String)
    (s : Container) :
    Chain.reportUndeclared registry servlet names s = (.ok (), { s with
      journal := ((names.filter fun name => (registry.filters.find? name).isNone).map
        fun name => Event.logged (Chain.skipLine servlet name)).reverse ++ s.journal }) := by
  unfold Chain.reportUndeclared
  induction names.filter fun name => (registry.filters.find? name).isNone generalizing s with
  | nil => rfl
  | cons name rest ih =>
    rw [List.map_cons, List.reverse_cons, List.append_assoc]
    exact ih (s.note (.logged (Chain.skipLine servlet name)))

/-- What populating a chain writes down, newest first. -/
def Chain.populating (registry : Registry) (wrapper : Wrapper) (d : DispatchState) (c : Chain) :
    List Event :=
  if registry.mappings.isEmpty then []
  else .measured (.chainBuilt (c.populated registry wrapper d).filters.length) ::
    (((resolve registry.mappings d.dispatcher d.path (some wrapper.name)).filter
        fun name => (registry.filters.find? name).isNone).map
      fun name => Event.logged (Chain.skipLine wrapper.name name)).reverse

/-- Populating replaces the chain, and changes nothing else but the journal. -/
theorem populate_eq (registry : Registry) (wrapper : Wrapper) (s : Container) :
    Chain.populate registry wrapper s = (.ok (),
      { s with
        chain := s.chain.populated registry wrapper s.request.dispatch
        journal := s.chain.populating registry wrapper s.request.dispatch ++ s.journal }) := by
  unfold Chain.populate
  rw [Run.modify_bind_apply, Chain.populating]
  cases mapped : registry.mappings with
  | nil =>
    rw [Chain.populated, mapped]
    rfl
  | cons m rest =>
    have reported := reportUndeclared_apply registry wrapper.name
      (resolve (m :: rest) s.request.dispatch.dispatcher s.request.dispatch.path
        (some wrapper.name))
      (s.updateChain fun c => c.release.setServlet wrapper.servlet wrapper.asyncSupported)
    simp only [List.isEmpty_cons, Bool.not_false, if_true, Run.get_bind_apply]
    rw [Chain.populated, mapped]
    exact Run.bind_of_ok reported

/-- What populating writes down is plain. -/
theorem populate_apply (registry : Registry) (wrapper : Wrapper) (s : Container) :
    ∃ new, Chain.populate registry wrapper s = (.ok (),
        { s with
          chain := s.chain.populated registry wrapper s.request.dispatch
          journal := new ++ s.journal }) ∧
      ∀ e ∈ new, e.isPlain = true := by
  refine ⟨_, populate_eq registry wrapper s, fun e member => ?_⟩
  unfold Chain.populating at member
  split at member
  · cases member
  · rcases List.mem_cons.1 member with rfl | member
    · rfl
    · obtain ⟨name, -, rfl⟩ := List.mem_map.1 (List.mem_reverse.1 member)
      rfl

/-! ### The filters of a populated chain -/

theorem foldl_addFilter_frame (fs : List FilterConfig) (c : Chain) :
    ∃ filters capacity, fs.foldl Chain.addFilter c = { c with filters, capacity } := by
  induction fs generalizing c with
  | nil => exact ⟨c.filters, c.capacity, rfl⟩
  | cons f rest ih =>
    obtain ⟨filters, capacity, folded⟩ := ih (c.addFilter f)
    refine ⟨filters, capacity, ?_⟩
    rw [List.foldl_cons, folded, Chain.addFilter]
    split <;> rfl

theorem mem_foldl_addFilter {fs : List FilterConfig} {c : Chain} {f : FilterConfig}
    (h : f ∈ (fs.foldl Chain.addFilter c).filters) : f ∈ c.filters ∨ f ∈ fs := by
  induction fs generalizing c with
  | nil => exact .inl h
  | cons g rest ih =>
    rcases ih h with h | h
    · unfold Chain.addFilter at h
      split at h
      · exact .inl h
      · rcases List.mem_append.1 h with h | h
        · exact .inl h
        · exact .inr (List.mem_cons.2 (.inl (List.mem_singleton.1 h)))
    · exact .inr (List.mem_cons_of_mem _ h)

/-- A populated chain holds filters of its registry only, and ends at its servlet. -/
theorem populated_members (registry : Registry) (wrapper : Wrapper) (d : DispatchState) (c : Chain) :
    (∀ f ∈ (c.populated registry wrapper d).filters, f ∈ registry.filters.values) ∧
      (c.populated registry wrapper d).servlet = some wrapper.servlet := by
  constructor
  · intro f member
    rcases mem_foldl_addFilter member with h | h
    · cases h
    · obtain ⟨name, -, found⟩ := List.mem_filterMap.1 h
      exact Dict.mem_values_of_find? found
  · obtain ⟨_, _, frame⟩ := foldl_addFilter_frame _ (c.release.setServlet wrapper.servlet
      wrapper.asyncSupported)
    exact congrArg Chain.servlet frame

theorem populated_servletAsync (registry : Registry) (wrapper : Wrapper) (d : DispatchState)
    (c : Chain) : (c.populated registry wrapper d).servletAsync = wrapper.asyncSupported := by
  obtain ⟨_, _, frame⟩ := foldl_addFilter_frame _ (c.release.setServlet wrapper.servlet
    wrapper.asyncSupported)
  exact congrArg Chain.servletAsync frame

theorem populated_position (registry : Registry) (wrapper : Wrapper) (d : DispatchState) (c : Chain) :
    (c.populated registry wrapper d).position = 0 := by
  obtain ⟨_, _, frame⟩ := foldl_addFilter_frame _ (c.release.setServlet wrapper.servlet
    wrapper.asyncSupported)
  exact (congrArg Chain.position frame :)

theorem populated_executor (registry : Registry) (wrapper : Wrapper) (d : DispatchState) (c : Chain) :
    (c.populated registry wrapper d).executor = c.executor := by
  obtain ⟨_, _, frame⟩ := foldl_addFilter_frame _ (c.release.setServlet wrapper.servlet
    wrapper.asyncSupported)
  exact (congrArg Chain.executor frame :)

theorem foldl_addFilter_filters {fs : List FilterConfig} {c : Chain}
    (distinct : ((c.filters ++ fs).map (·.serial)).Nodup) :
    (fs.foldl Chain.addFilter c).filters = c.filters ++ fs := by
  induction fs generalizing c with
  | nil => simp
  | cons f rest ih =>
    have absent : ¬ (c.filters.any fun g => g.serial == f.serial) = true := by
      simp only [List.map_append, List.map_cons, List.nodup_append, List.mem_map, List.mem_cons,
        List.any_eq_true, beq_iff_eq, not_exists, not_and] at distinct ⊢
      intro g member
      exact distinct.2.2 _ ⟨g, member, rfl⟩ _ (.inl rfl)
    have added : (c.addFilter f).filters = c.filters ++ [f] := by
      rw [Chain.addFilter, if_neg absent]
    rw [List.foldl_cons, ih, added, List.append_assoc, List.singleton_append]
    rw [added, List.append_assoc, List.singleton_append]
    exact distinct

theorem declared_distinct {registry : Registry} (sound : registry.filters.Declares)
    {names : List String} (nodup : names.Nodup) :
    ((Chain.declared registry names).map (·.serial)).Nodup := by
  have inject := List.inj_on_of_nodup_map sound.distinct
  unfold Chain.declared
  induction names with
  | nil => simp
  | cons name rest ih =>
    obtain ⟨absent, nodup⟩ := List.nodup_cons.1 nodup
    cases found : registry.filters.find? name with
    | none => simpa [found] using ih nodup
    | some f =>
      rw [List.filterMap_cons_some found, List.map_cons, List.nodup_cons]
      refine ⟨?_, ih nodup⟩
      intro twice
      obtain ⟨g, member, serial⟩ := List.mem_map.1 twice
      obtain ⟨other, later, stands⟩ := List.mem_filterMap.1 member
      obtain rfl := inject (Dict.mem_values_of_find? stands) (Dict.mem_values_of_find? found) serial
      exact absent ((sound.named found).symm.trans (sound.named stands) ▸ later)

theorem populated_filters {registry : Registry} (sound : registry.filters.Declares)
    (wrapper : Wrapper) (d : DispatchState) (c : Chain) :
    (c.populated registry wrapper d).filters =
      Chain.declared registry (resolve registry.mappings d.dispatcher d.path (some wrapper.name)) :=
  foldl_addFilter_filters (declared_distinct sound (nodup_firsts _))

theorem declared_names {registry : Registry} (sound : registry.filters.Declares)
    (names : List String) :
    (Chain.declared registry names).map (·.name) =
      names.filter fun name => (registry.filters.find? name).isSome := by
  unfold Chain.declared
  induction names with
  | nil => rfl
  | cons name rest ih =>
    cases found : registry.filters.find? name with
    | none => simpa [found] using ih
    | some f => simpa [found, sound.named found] using ih

/-- A list in which each name is before those that follow it, in an order without cycles, is the
only such list of its members. -/
theorem sorted_unique {before : String → String → Prop} {l m : List String}
    (asymm : ∀ a b, before a b → ¬ before b a) (sorted : l.Pairwise before) (hl : l.Nodup) :
    m = l ↔ m.Nodup ∧ (∀ x, x ∈ m ↔ x ∈ l) ∧
      ∀ x ∈ m, ∀ y ∈ m, m.idxOf x < m.idxOf y ↔ before x y := by
  constructor
  · rintro rfl
    refine ⟨hl, fun _ => Iff.rfl, ?_⟩
    have earlier : ∀ x ∈ m, ∀ y ∈ m, m.idxOf x < m.idxOf y → before x y := by
      intro x hx y hy h
      have := List.pairwise_iff_getElem.1 sorted _ _ (List.idxOf_lt_length_iff.2 hx)
        (List.idxOf_lt_length_iff.2 hy) h
      simpa only [List.getElem_idxOf] using this
    intro x hx y hy
    refine ⟨earlier x hx y hy, ?_⟩
    intro h
    rcases Nat.lt_trichotomy (m.idxOf x) (m.idxOf y) with lt | eq | gt
    · exact lt
    · obtain rfl := (List.idxOf_inj hx).1 eq
      exact absurd h (asymm _ _ h)
    · exact absurd h (asymm _ _ (earlier y hy x hx gt))
  · rintro ⟨hm, members, order⟩
    have perm : m.Perm l := (List.perm_ext_iff_of_nodup hm hl).2 members
    have sorted' : m.Pairwise before := by
      rw [List.pairwise_iff_getElem]
      intro i j hi hj h
      refine (order _ (List.getElem_mem hi) _ (List.getElem_mem hj)).1 ?_
      rwa [hm.idxOf_getElem, hm.idxOf_getElem]
    exact perm.eq_of_pairwise (fun a b _ _ hab hba => absurd hba (asymm a b hab)) sorted' sorted

/-- Populating any chain, whatever it held before, leaves it at its first filter, with the
servlet at its end and with the one list of filter names that has each selected and declared
name once and in the order of the ranks. -/
theorem populate_selects {entries : List MappingEntry} {registry : Registry}
    (compiled : entries.mapM FilterMapping.ofEntry = .ok registry.mappings)
    (declares : registry.filters.Declares) (wrapper : Wrapper) (s : Container) :
    ∃ t, Chain.populate registry wrapper s = (.ok (), t) ∧
      t.chain.position = 0 ∧ t.chain.servlet = some wrapper.servlet ∧
      t.chain.servletAsync = wrapper.asyncSupported ∧
      (∀ f ∈ t.chain.filters, registry.filters.find? f.name = some f) ∧
      ∀ names : List String, names = t.chain.filterNames ↔
        names.Nodup ∧
        (∀ x, x ∈ names ↔ (registry.filters.find? x).isSome ∧ MappingEntry.Selects entries
          s.request.dispatch.dispatcher s.request.dispatch.path wrapper.name x) ∧
        ∀ x ∈ names, ∀ y ∈ names, names.idxOf x < names.idxOf y ↔ MappingEntry.Before
          (MappingEntry.rank entries s.request.dispatch.dispatcher s.request.dispatch.path
            wrapper.name x)
          (MappingEntry.rank entries s.request.dispatch.dispatcher s.request.dispatch.path
            wrapper.name y) := by
  obtain ⟨new, run, -⟩ := populate_apply registry wrapper s
  obtain ⟨nodup, members, ranked⟩ := resolve_ranked compiled s.request.dispatch.dispatcher
    s.request.dispatch.path wrapper.name
  generalize resolved : resolve registry.mappings s.request.dispatch.dispatcher
    s.request.dispatch.path (some wrapper.name) = names at nodup members ranked
  obtain ⟨_, _, frame⟩ := foldl_addFilter_frame (Chain.declared registry names)
    (s.chain.release.setServlet wrapper.servlet wrapper.asyncSupported)
  rw [← resolved] at frame
  have filters : (s.chain.populated registry wrapper s.request.dispatch).filters =
      Chain.declared registry names := by
    rw [Chain.populated, resolved]
    exact foldl_addFilter_filters (declared_distinct declares nodup)
  refine ⟨_, run, congrArg Chain.position frame, congrArg Chain.servlet frame,
    congrArg Chain.servletAsync frame, ?_, ?_⟩
  · intro f member
    rw [filters] at member
    obtain ⟨name, -, found⟩ := List.mem_filterMap.1 member
    rwa [declares.named found]
  · intro given
    have sublist : (names.filter fun name => (registry.filters.find? name).isSome).Sublist names :=
      List.filter_sublist
    have listed : (s.chain.populated registry wrapper s.request.dispatch).filterNames =
        names.filter fun name => (registry.filters.find? name).isSome := by
      rw [Chain.filterNames, filters, declared_names declares]
    rw [listed, sorted_unique (fun _ _ => MappingEntry.before_asymm)
        (ranked.sublist sublist) (nodup.sublist sublist)]
    simp only [List.mem_filter, members, and_comm]

/-- Entries that name a filter by servlet before others name it and another by path. -/
def shopEntries : List MappingEntry :=
  [{ filterName := "audit", servletNames := ["shop"] },
    { filterName := "absent", urlPatterns := ["*"] },
    { filterName := "log", urlPatterns := ["/cart/*"], dispatchers := [" request "] },
    { filterName := "log", urlPatterns := ["/old", "*"], servletNames := ["*"] },
    { filterName := "audit", urlPatterns := ["/cart/*"], dispatchers := ["Error"] }]

def passing (serial : Nat) (name : String) : FilterConfig where
  serial
  definition := { name, className := "pass" }
  source := .made { make := fun _ _ => .ready (.proceed .finish) }

/-- The registry of the entries, with two of the three filters. -/
def shopRegistry : Registry where
  serial := 9
  mappings := ((shopEntries.mapM FilterMapping.ofEntry).toOption).getD []
  filters := ⟨[("log", passing 1 "log"), ("audit", passing 2 "audit")]⟩

/-- A chain that has run half-way for another servlet is populated anew. -/
theorem populate_selects_shop :
    shopEntries.mapM FilterMapping.ofEntry = .ok shopRegistry.mappings ∧
      shopRegistry.filters.Declares ∧
      ∃ t, Chain.populate shopRegistry { name := "shop", className := "s", servlet := default }
          { chain := { filters := [passing 2 "audit", passing 3 "old"], position := 1 }
            request := { dispatch := { dispatcher := .request, path := some "/cart/1" } } } =
            (.ok (), t) ∧
        t.chain.position = 0 ∧ t.chain.filterNames = ["log", "audit"] := by
  have compiled : shopEntries.mapM FilterMapping.ofEntry = .ok shopRegistry.mappings := by decide
  have declares : shopRegistry.filters.Declares := by
    have own : ∀ e ∈ shopRegistry.filters.entries, e.2.name = e.1 := by decide
    exact ⟨fun found => own _ (Dict.mem_entries_of_find? found), by decide⟩
  refine ⟨compiled, declares, ?_⟩
  obtain ⟨t, run, position, -⟩ := populate_selects compiled declares
    { name := "shop", className := "s", servlet := default }
    { chain := { filters := [passing 2 "audit", passing 3 "old"], position := 1 }
      request := { dispatch := { dispatcher := .request, path := some "/cart/1" } } }
  refine ⟨t, run, position, ?_⟩
  obtain rfl : _ = t := congrArg Prod.snd run
  decide

end ServletFilters
