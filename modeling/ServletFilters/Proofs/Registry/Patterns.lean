import ServletFilters.Proofs.Registry.Making
import ServletFilters.Proofs.Routing.Matching
import ServletFilters.Proofs.Routing.Selection

/-!
One pattern on the two sides. The patterns of a mapping are compiled, those of a servlet are kept as
the configuration has them. `selects_iff_maps` says for which patterns and paths the two agree: the
star, which selects everything in a mapping, is a path like any other for a servlet.
-/

namespace ServletFilters

open Config (MappingEntry ServletEntry)

theorem UrlPattern.accepts_star (path : String) : accepts "*" path = true ↔ path = "*" := by
  have literal : accepts? "*".toList path.toList = some true ↔ "*".toList = path.toList :=
    accepts?_literal rfl rfl
  rw [accepts?_eq_some, Option.some.injEq] at literal
  rw [literal, String.toList_inj, eq_comm]

theorem FilterMapping.ofEntry_words {e : MappingEntry} {m : FilterMapping}
    (h : FilterMapping.ofEntry e = .ok m) :
    m.filterName = e.filterName ∧ m.urls = .ofWords e.urlPatterns ∧
      m.servlets = .ofWords e.servletNames := by
  unfold FilterMapping.ofEntry at h
  cases parsed : e.dispatchers.mapM Dispatcher.parse with
  | error error =>
    rw [parsed] at h
    cases h
  | ok kinds =>
    rw [parsed] at h
    cases h
    exact ⟨rfl, rfl, rfl⟩

/-- A mapping selects the paths that one of its patterns accepts, and with the star all paths. -/
theorem FilterMapping.selectsPath_iff {e : MappingEntry} {m : FilterMapping}
    (h : FilterMapping.ofEntry e = .ok m) (path : String) :
    m.selectsPath (some path) = true ↔
      "*" ∈ e.urlPatterns ∨ ∃ p ∈ e.urlPatterns, UrlPattern.accepts p path = true := by
  rw [FilterMapping.selectsPath, (ofEntry_words h).2.1, Selection.any_ofWords]
  simp

/-- What is resolved for a path if there is a single mapping, without servlet names. -/
theorem resolve_single {e : MappingEntry} {m : FilterMapping}
    (h : FilterMapping.ofEntry e = .ok m) (names : e.servletNames = []) {d : Dispatcher}
    (applies : m.appliesTo d = true) (path servlet : Option String) :
    resolve [m] d path servlet = if m.selectsPath path then [e.filterName] else [] := by
  obtain ⟨name, -, servlets⟩ := FilterMapping.ofEntry_words h
  have unnamed : m.selectsServlet servlet = false := by
    unfold FilterMapping.selectsServlet
    rw [servlets, names]
    cases servlet <;> rfl
  by_cases selected : m.selectsPath path = true
  · simp [resolve, applies, selected, unnamed, name, firsts]
  · simp [resolve, applies, selected, unnamed, firsts]

/-- A path is mapped to the only servlet if one of its patterns accepts it. -/
theorem Registry.mapServlet_single {r : Registry} {w : Wrapper} (only : r.wrappers = [w])
    (undeclared : r.defaultServlet = none) (path : String) :
    r.mapServlet path =
      if w.urlPatterns.any (UrlPattern.accepts · path) then some w else none := by
  rw [Registry.mapServlet, only, undeclared, Option.or_none, List.find?_singleton]

section Agreement

variable {config : Config} {components : ComponentFactory} {entry : MappingEntry}
  {servlet : ServletEntry} {m : FilterMapping} {r : Registry} {s t : Container} {pattern : String}

/-- A mapping of one pattern and a registry whose only servlet has the same pattern: the mapping
selects a path just if the path is mapped to the servlet, unless the pattern is the star and the
path is another one. -/
theorem selects_iff_maps (compiled : FilterMapping.ofEntry entry = .ok m)
    (patterns : entry.urlPatterns = [pattern]) (names : entry.servletNames = [])
    (built : Registry.build config components s = (.ok (.ok r), t))
    (only : config.servlets = [servlet]) (declares : servlet.urlPatterns = [pattern])
    (undeclared : config.defaultServlet = none) :
    ∃ w, r.wrappers = [w] ∧ w.name = servlet.name ∧ ∀ path,
      r.mapServlet path = (if UrlPattern.accepts pattern path then some w else none) ∧
      (∀ d name, m.appliesTo d = true →
        (resolve [m] d (some path) name = [entry.filterName] ↔ m.selectsPath (some path) = true)) ∧
      (m.selectsPath (some path) = true ↔ r.mapServlet path = some w ∨ pattern = "*") ∧
      ((m.selectsPath (some path) = true ↔ r.mapServlet path = some w) ↔
        (pattern = "*" → path = "*")) := by
  obtain ⟨u, made, chosen⟩ := Registry.build_servlets built
  have declared := made.declared
  rw [only] at declared
  obtain ⟨w, rest, ⟨name, urls⟩, others, wrappers⟩ := List.forall₂_cons_right_iff.1 declared
  rw [List.forall₂_nil_right_iff.1 others] at wrappers
  rw [undeclared] at chosen
  have noDefault : r.defaultServlet = none := (Except.ok.inj chosen).symm
  refine ⟨w, wrappers, name, fun path => ?_⟩
  have found : r.mapServlet path =
      if UrlPattern.accepts pattern path then some w else none := by
    rw [Registry.mapServlet_single wrappers noDefault, urls, declares, List.any_cons, List.any_nil,
      Bool.or_false]
  have maps : r.mapServlet path = some w ↔ UrlPattern.accepts pattern path = true := by
    rw [found]
    split
    · rename_i accepted
      exact iff_of_true rfl accepted
    · rename_i refused
      exact iff_of_false (by rintro ⟨⟩) refused
  have selects : m.selectsPath (some path) = true ↔ r.mapServlet path = some w ∨ pattern = "*" := by
    rw [FilterMapping.selectsPath_iff compiled, patterns, maps]
    simp only [List.mem_singleton, exists_eq_left]
    exact or_comm.trans (or_congr_right eq_comm)
  refine ⟨found, fun d servletName applies => ?_, selects, ?_⟩
  · rw [resolve_single compiled names applies]
    split
    · rename_i selected
      exact iff_of_true rfl selected
    · rename_i passed
      exact iff_of_false (List.cons_ne_nil _ _).symm passed
  · rw [selects, maps]
    by_cases star : pattern = "*"
    · subst star
      rw [UrlPattern.accepts_star]
      simp
    · simp [star]

/-- A site of one servlet whose pattern is the star. -/
def starSite : Config where
  filters := [{ name := "log", className := "request-log" }]
  filterMappings := [{ filterName := "log", urlPatterns := ["*"] }]
  servlets := [{ name := "all", className := "echo", urlPatterns := ["*"] }]

/-- The site has no defects; its filter is selected for a path that its servlet does not get. -/
theorem selects_iff_maps_star :
    starSite.defects = [] ∧ ∃ m r t, FilterMapping.ofEntry starSite.filterMappings[0] = .ok m ∧
      Registry.build starSite .builtin {} = (.ok (.ok r), t) ∧
      m.selectsPath (some "/x") = true ∧ r.mapServlet "/x" = none := by
  have valid : starSite.defects = [] := by decide
  obtain ⟨-, -, succeeds⟩ :=
    Registry.build_ends ComponentFactory.builtin (Config.valid_of_defects valid) {}
  obtain ⟨r, ok, -⟩ := succeeds rfl rfl
  have built : Registry.build starSite .builtin {} =
      (.ok (.ok r), (Registry.build starSite .builtin {}).2) := Prod.ext ok rfl
  have compiled : FilterMapping.ofEntry starSite.filterMappings[0] =
      .ok ⟨"log", .ofList [], .everything, .listed []⟩ := rfl
  refine ⟨valid, _, r, _, compiled, built, rfl, ?_⟩
  obtain ⟨w, -, -, agree⟩ := selects_iff_maps compiled rfl rfl built rfl rfl rfl
  exact (agree "/x").1

end Agreement

end ServletFilters
