import ServletFilters.CommandLine.Answer
import ServletFilters.Proofs.Container.Starts
import ServletFilters.Proofs.Registry.Gates

/-!
What the command line says about chains, `resolveLines_predicts`. The numbered lines for a request are
the filters of the chain in which any pipeline with this configuration runs such a request, and the
others are the names that it passes over when it populates that chain.
-/

namespace ServletFilters

/-! ### Populated chains -/

/-- The names that apply to a servlet and a way in which requests come. -/
def Registry.mapped (r : Registry) (w : Wrapper) (d : DispatchState) : List String :=
  resolve r.mappings d.dispatcher d.path (some w.name)

/-- The name that was passed over for a servlet, if the event says so. -/
def Event.skipped? (servlet : String) : Event → Option String
  | .logged entry =>
    match entry.fields with
    | [("filter", .text name), _] => if entry = Chain.skipLine servlet name then some name else none
    | _ => none
  | _ => none

/-- A chain is populated between the two states: it has these filters, and these names are passed
over. -/
structure Populates (servlet : String) (names skipped : List String) (s u : Container) : Prop where
  filters : u.chain.filterNames = names
  skipped : ∃ new, u.journal = new ++ s.journal ∧
    new.reverse.filterMap (Event.skipped? servlet) = skipped

theorem Populates.after {servlet : String} {names skipped : List String} {s t u : Container}
    {new : List Event} (h : Populates servlet names skipped t u) (journal : t.journal = new ++ s.journal)
    (silent : ∀ e ∈ new, e.skipped? servlet = none) : Populates servlet names skipped s u := by
  obtain ⟨later, written, said⟩ := h.skipped
  refine ⟨h.filters, later ++ new, by rw [written, journal, List.append_assoc], ?_⟩
  have nothing : new.reverse.filterMap (Event.skipped? servlet) = [] :=
    List.filterMap_eq_nil_iff.2 fun e member => silent e (List.mem_reverse.1 member)
  rw [List.reverse_append, List.filterMap_append, nothing, List.nil_append, said]

section Visits

variable {r : Registry}

theorem skipped?_skipLine (servlet name : String) :
    (Event.logged (Chain.skipLine servlet name)).skipped? servlet = some name := by
  simp [Event.skipped?, Chain.skipLine]

/-- The names that are passed over are those that no filter has. -/
theorem populating_skipped (w : Wrapper) (d : DispatchState) (c : Chain) :
    (c.populating r w d).reverse.filterMap (Event.skipped? w.name) =
      (r.mapped w d).filter fun name => (r.filters.find? name).isNone := by
  unfold Chain.populating
  split
  · rename_i none
    rw [Registry.mapped, List.isEmpty_iff.1 none]
    rfl
  · have each : (Event.skipped? w.name ∘ fun name => Event.logged (Chain.skipLine w.name name)) = some :=
      funext (skipped?_skipLine w.name)
    rw [List.reverse_cons, List.reverse_reverse, List.filterMap_append, List.filterMap_map, each,
      List.filterMap_some]
    exact List.append_nil _

theorem populate_populates (declares : r.filters.Declares) (w : Wrapper) (s : Container) :
    ∃ t, Chain.populate r w s = (.ok (), t) ∧
      Populates w.name ((r.mapped w s.request.dispatch).filter fun name => (r.filters.find? name).isSome)
        ((r.mapped w s.request.dispatch).filter fun name => (r.filters.find? name).isNone) s t := by
  refine ⟨_, populate_eq r w s, ?_, _, rfl, populating_skipped w _ _⟩
  rw [Chain.filterNames]
  dsimp only
  rw [populated_filters declares, declared_names declares, Registry.mapped]

theorem enter_populates (declares : r.filters.Declares) (p : Nat) (w : Wrapper) (s : Container) :
    Populates w.name ((r.mapped w s.request.dispatch).filter fun name => (r.filters.find? name).isSome)
      ((r.mapped w s.request.dispatch).filter fun name => (r.filters.find? name).isNone) s
      (Pipeline.enter p r w s).2 := by
  let event : Event := .traversed s.nesting p r.serial w.name s.request.dispatch
  obtain ⟨t, run, populates⟩ := populate_populates declares w (s.note event)
  have entered : Pipeline.enter p r w s = Pipeline.recordNonAsync w t := Run.bind_of_ok run
  have written : (s.note event).journal = [event] ++ s.journal := rfl
  rw [entered]
  refine Populates.after ⟨populates.filters, populates.skipped⟩ written fun e member => ?_
  obtain rfl := List.mem_singleton.1 member
  rfl

theorem take_silent (p : Nat) (x : Pipeline) (servlet : String) (pooled : Bool) (s : Container) :
    ∃ chain t new, Pipeline.take p x servlet pooled s = (.ok chain, t) ∧ t.request = s.request ∧
      t.journal = new ++ s.journal ∧ ∀ e ∈ new, e.skipped? servlet = none := by
  obtain ⟨chain, ran | ⟨pool, hit, ran⟩⟩ := take_apply p x servlet pooled s
  · exact ⟨chain, s, [], ran, rfl, rfl, by rintro e ⟨⟩⟩
  · obtain ⟨pipelines, updated⟩ := updatePipeline_frame s p fun q => { q with pool }
    rw [updated] at ran
    refine ⟨chain, _, [.measured (.poolAcquired hit)], ran, rfl, rfl, fun e member => ?_⟩
    obtain rfl := List.mem_singleton.1 member
    rfl

/-- A visit populates the chain that it starts. -/
theorem starts_populates (declares : r.filters.Declares) {p : Nat} {s : Container} (w : Wrapper)
    (d : DispatchState) (pooled : Bool) (there : (s.pipelines.find? p).isSome) :
    ∃ u, Pipeline.starts p r w d pooled s = [u] ∧
      Populates w.name ((r.mapped w d).filter fun name => (r.filters.find? name).isSome)
        ((r.mapped w d).filter fun name => (r.filters.find? name).isNone) s u := by
  obtain ⟨x, found⟩ := Option.isSome_iff_exists.1 there
  obtain ⟨chain, t, new, taken, request, journal, silent⟩ := take_silent p x w.name pooled
    (s.updateRequest fun r => { r with dispatch := d })
  have populates := enter_populates declares p w { t with chain, nesting := t.nesting + 1 }
  rw [show ({ t with chain, nesting := t.nesting + 1 } : Container).request.dispatch = d from
    congrArg Request.dispatch request] at populates
  refine ⟨_, ?_, populates.after journal silent⟩
  unfold Pipeline.starts
  rw [found]
  dsimp only
  rw [Run.thence_of_ok taken]

/-- A dispatch that finds its servlet populates the chain that it starts. -/
theorem dispatchStarts_populates (declares : r.filters.Declares) {p : Nat} {x : Pipeline}
    {s : Container} (found : s.pipelines.find? p = some x) (current : x.registry = r)
    (shallow : s.request.depth < maxDispatchDepth) (dispatcher : Dispatcher) {target : Target}
    {w : Wrapper} {path : Option String} (located : Pipeline.locate r target = (some w, path)) :
    ∃ u, Pipeline.dispatchStarts p dispatcher target s = [u] ∧
      Populates w.name
        ((r.mapped w { dispatcher, path }).filter fun name => (r.filters.find? name).isSome)
        ((r.mapped w { dispatcher, path }).filter fun name => (r.filters.find? name).isNone) s u := by
  subst current
  have there : ((x.registry.hold s.deepen).pipelines.find? p).isSome :=
    Option.isSome_iff_exists.2 ⟨x, found⟩
  obtain ⟨u, starts, populates⟩ := starts_populates declares w { dispatcher, path } false there
  have held : (x.registry.hold s.deepen).journal = [.held x.registry.serial] ++ s.journal := rfl
  refine ⟨u, ?_, populates.after held fun e member => ?_⟩
  · unfold Pipeline.dispatchStarts
    have nested : ¬ maxDispatchDepth < s.deepen.request.depth := Nat.not_lt_of_le shallow
    rw [if_neg nested, found]
    dsimp only
    rw [located]
    exact starts
  · obtain rfl := List.mem_singleton.1 member
    rfl

end Visits

namespace CommandLine

/-! ### Lines -/

def beginsWithDigit (line : String) : Bool := line.toList.head?.any Char.isDigit

/-- Lines that number these names from one, and list the skipped ones without a number. -/
structure Lists (names skipped lines : List String) : Prop where
  numbered : lines.filter beginsWithDigit =
    (names.zipIdx 1).map fun e => toString e.2 ++ ". " ++ e.1
  others : (lines.filter fun line => !beginsWithDigit line) =
    if names = [] ∧ skipped = [] then ["(no filters)"]
    else skipped.map fun name => "-  " ++ name ++ " (undefined, skipped)"

theorem beginsWithDigit_number (n : Nat) (name : String) :
    beginsWithDigit (toString n ++ ". " ++ name) = true := by
  unfold beginsWithDigit
  rw [String.toList_append, String.toList_append, Nat.toString_eq_ofList_toDigits, String.toList_ofList,
    List.append_assoc]
  cases digits : Nat.toDigits 10 n with
  | nil => exact absurd digits Nat.toDigits_ne_nil
  | cons c rest =>
    have member : c ∈ Nat.toDigits 10 n := digits ▸ List.mem_cons_self ..
    exact Nat.isDigit_of_mem_toDigits (by decide) (by decide) member

theorem beginsWithDigit_skipped (name : String) :
    beginsWithDigit ("-  " ++ name ++ " (undefined, skipped)") = false := by
  unfold beginsWithDigit
  rw [String.toList_append, String.toList_append]
  rfl

theorem numbered_filter (isFilter : String → Bool) (n : Nat) (names : List String) :
    (numbered isFilter n names).filter beginsWithDigit =
        ((names.filter isFilter).zipIdx n).map (fun e => toString e.2 ++ ". " ++ e.1) ∧
      ((numbered isFilter n names).filter fun line => !beginsWithDigit line) =
        (names.filter fun name => !isFilter name).map
          fun name => "-  " ++ name ++ " (undefined, skipped)" := by
  induction names generalizing n with
  | nil => exact ⟨rfl, rfl⟩
  | cons name rest ih =>
    unfold numbered
    cases known : isFilter name with
    | true =>
      obtain ⟨own, others⟩ := ih (n + 1)
      have digit := beginsWithDigit_number n name
      simp only [if_true, List.filter_cons, digit, known, Bool.not_true, Bool.false_eq_true, if_false,
        own, others, List.zipIdx_cons, List.map_cons, and_self]
    | false =>
      obtain ⟨own, others⟩ := ih n
      have dash := beginsWithDigit_skipped name
      simp only [if_true, List.filter_cons, dash, known, Bool.not_false, Bool.false_eq_true, if_false,
        own, others, List.map_cons, and_self]

theorem chainLines_lists (config : Config) (names : List String) :
    Lists (names.filter fun name => config.filters.any fun f => f.name == name)
      (names.filter fun name => !config.filters.any fun f => f.name == name)
      (chainLines config names) := by
  unfold chainLines
  cases names with
  | nil => exact ⟨rfl, rfl⟩
  | cons name rest =>
    obtain ⟨own, others⟩ :=
      numbered_filter (fun name => config.filters.any fun f => f.name == name) 1 (name :: rest)
    refine ⟨own, others.trans (if_neg ?_).symm⟩
    rintro ⟨none, none'⟩
    have all := List.filter_eq_nil_iff.1 none name (List.mem_cons_self ..)
    have any := List.filter_eq_nil_iff.1 none' name (List.mem_cons_self ..)
    simp [all] at any

/-- The command line knows a filter of a name if a registry of the configuration has one. -/
theorem any_filter_iff {config : Config} {components : ComponentFactory} {count : String → Nat}
    {r : Registry} (faithful : r.Faithful config components count) (name : String) :
    (config.filters.any fun f => f.name == name) = (r.filters.find? name).isSome := by
  rw [Bool.eq_iff_iff, List.any_eq_true]
  constructor
  · rintro ⟨e, listed, same⟩
    obtain ⟨f, found, -⟩ := faithful.filter e listed
    rw [← eq_of_beq same, found]
    rfl
  · intro there
    obtain ⟨e, listed, same⟩ := faithful.onlyFilters name there
    exact ⟨e, listed, beq_iff_eq.2 same⟩

/-- The servlet that a path is mapped to has the same name in all registries of a configuration. -/
theorem mapServlet_name {config : Config} {components : ComponentFactory} {count : String → Nat}
    {r : Registry} (faithful : r.Faithful config components count) (path : String) :
    (r.mapServlet path).map (·.name) =
      ((config.servlets.find? (·.accepts path)).map (·.name)).or config.defaultServlet := by
  cases first : config.servlets.find? (·.accepts path) with
  | some e =>
    obtain ⟨w, found, from_⟩ := faithful.servlet e (List.mem_of_find?_eq_some first)
    rw [faithful.mapped path e first, found]
    exact congrArg some from_.name
  | none =>
    rw [faithful.fallback path first]
    cases given : config.defaultServlet with
    | none => rfl
    | some name =>
      obtain ⟨w, found⟩ := Option.isSome_iff_exists.1 (faithful.default name given)
      rw [Option.bind_some, found]
      exact congrArg some (by simpa using List.find?_some found)

end CommandLine

/-! ### What is asked for -/

/-- The servlet that the command line is asked about: the one of this name, else the one for the path. -/
def Registry.asked (r : Registry) (path servlet : Option String) : Option Wrapper :=
  match servlet with
  | some name => r.findWrapper name
  | none => path.bind r.mapServlet

/-- The path and the servlet with which the command line is asked about a dispatch. -/
def Target.options : Target → Option String × Option String
  | .path text => (some text, none)
  | .named servlet => (none, some servlet)

theorem splitUri_of_plain {path : String} (plain : '?' ∉ path.toList) :
    Request.splitUri path = (path, none) := by
  rw [Request.splitUri, Text.cut_eq_none.2 plain]

theorem locate_of_options {r : Registry} {target : Target} {path servlet : Option String} {w : Wrapper}
    (options : target.options = (path, servlet)) (plain : ∀ p, path = some p → '?' ∉ p.toList)
    (asked : r.asked path servlet = some w) : Pipeline.locate r target = (some w, path) := by
  cases target with
  | path text =>
    cases options
    rw [Pipeline.locate, splitUri_of_plain (plain text rfl)]
    exact congrArg (·, some text) asked
  | named name =>
    cases options
    exact congrArg (·, none) asked

namespace CommandLine

variable {config : Config} {components : ComponentFactory} {s t : Container} {r : Registry}

theorem registryOf?_faithful (valid : config.Valid) (h : registryOf? config = some r) :
    r.Faithful config .builtin (Container.nextCount {}) := by
  unfold registryOf? at h
  split at h
  · rename_i registry ok
    obtain rfl := Option.some.inj h
    exact Registry.build_faithful valid ok
  · cases h

/-- The servlet that lines are about is the one that a running registry has. -/
theorem servletFor_eq (valid : config.Valid) (known : (registryOf? config).isSome)
    (faithful : r.Faithful config components s.nextCount) {path servlet : Option String} {w : Wrapper}
    (asked : r.asked path servlet = some w) :
    servletFor config path servlet = some (some w.name) := by
  cases servlet with
  | some name =>
    have named : w.name = name := by simpa using List.find?_some asked
    rw [servletFor, named]
  | none =>
    cases path with
    | none => cases asked
    | some path =>
      obtain ⟨r', built⟩ := Option.isSome_iff_exists.1 known
      have same := (mapServlet_name (registryOf?_faithful valid built) path).trans
        (mapServlet_name faithful path).symm
      have asked : r.mapServlet path = some w := asked
      rw [servletFor, built, Option.map_some, same, asked]
      rfl

/-- The lines for a request list the filters that apply and are declared, and the other names that
apply. -/
theorem resolveLines_eq (valid : config.Valid) (known : (registryOf? config).isSome)
    (built : Registry.build config components s = (.ok (.ok r), t)) (d : Dispatcher)
    {path servlet : Option String} {w : Wrapper} (asked : r.asked path servlet = some w) :
    ∃ lines, resolveLines config path servlet d =
        some ((d.name ++ " " ++ path.getD "-" ++ " → " ++ w.name) :: lines.map ("  " ++ ·)) ∧
      Lists
        ((r.mapped w { dispatcher := d, path }).filter fun name => (r.filters.find? name).isSome)
        ((r.mapped w { dispatcher := d, path }).filter fun name => (r.filters.find? name).isNone)
        lines := by
  have faithful := Registry.build_faithful valid (congrArg Prod.fst built)
  have lists := chainLines_lists config (r.mapped w { dispatcher := d, path })
  simp only [any_filter_iff faithful, Option.not_isSome] at lists
  refine ⟨_, ?_, lists⟩
  rw [resolveLines, (Registry.build_contents built).mappings,
    servletFor_eq valid known faithful asked]
  rfl

end CommandLine

/-- For a configuration without defects, buildable with the classes that are always known: the lines
for a request number the filters of the chain that is populated for such a request in a registry of
the configuration, in a visit, and in a dispatch, and list the names that are passed over there. A
line is what is printed at a time; if there is a line break in a name, it takes up more than one. -/
theorem resolveLines_predicts {config : Config} (valid : config.defects = [])
    (known : (CommandLine.registryOf? config).isSome) {components : ComponentFactory}
    {s t : Container} {r : Registry}
    (built : Registry.build config components s = (.ok (.ok r), t)) (d : Dispatcher)
    {path servlet : Option String} (plain : ∀ p, path = some p → '?' ∉ p.toList) {w : Wrapper}
    (asked : r.asked path servlet = some w) :
    ∃ lines names skipped,
      CommandLine.resolveLines config path servlet d =
          some ((d.name ++ " " ++ path.getD "-" ++ " → " ++ w.name) :: lines.map ("  " ++ ·)) ∧
        CommandLine.Lists names skipped lines ∧
        (∀ s : Container, s.request.dispatch = { dispatcher := d, path } →
          ∃ u, Chain.populate r w s = (.ok (), u) ∧ Populates w.name names skipped s u) ∧
        (∀ (p : Nat) (pooled : Bool) (s : Container), (s.pipelines.find? p).isSome →
          ∃ u, Pipeline.starts p r w { dispatcher := d, path } pooled s = [u] ∧
            Populates w.name names skipped s u) ∧
        ∀ (p : Nat) (x : Pipeline) (target : Target) (s : Container),
          s.pipelines.find? p = some x → x.registry = r → target.options = (path, servlet) →
          s.request.depth < maxDispatchDepth →
          ∃ u, Pipeline.dispatchStarts p d target s = [u] ∧
            Populates w.name names skipped s u ∧
            ∀ calls, (Pipeline.dispatch calls p d target s).1 = (Traversal.doFilter calls u).1 := by
  have valid := Config.valid_of_defects valid
  have declares := (Registry.build_contents built).sound.declares
  obtain ⟨lines, printed, lists⟩ := CommandLine.resolveLines_eq valid known built d asked
  refine ⟨lines, _, _, printed, lists, fun s dispatched => ?_, fun p pooled s there => ?_,
    fun p x target s found current options shallow => ?_⟩
  · have populates := populate_populates declares w s
    rw [dispatched] at populates
    exact populates
  · exact starts_populates declares w { dispatcher := d, path } pooled there
  · obtain ⟨u, starts, populates⟩ := dispatchStarts_populates declares found current shallow d
      (locate_of_options options plain asked)
    exact ⟨u, starts, populates, fun calls => dispatch_fst (starts ▸ List.mem_singleton_self u)⟩

/-- A shop of which the mappings name a filter that is not declared. -/
def haunted : Config where
  filters :=
    [{ name := "log", className := "request-log" },
      { name := "tag", className := "response-header",
        initParams := ⟨[("name", "x-tag"), ("value", "1")]⟩ }]
  filterMappings :=
    [{ filterName := "tag", servletNames := ["shop"] },
      { filterName := "ghost", urlPatterns := ["*"] },
      { filterName := "log", urlPatterns := ["/cart/*"] }]
  servlets := [{ name := "shop", className := "echo", urlPatterns := ["/cart/*"] }]

/-- Both filters are numbered, and the ghost is not. -/
theorem resolveLines_predicts_haunted :
    haunted.defects = [] ∧ (CommandLine.registryOf? haunted).isSome ∧
      ∃ r t w lines, Registry.build haunted .builtin {} = (.ok (.ok r), t) ∧
        r.asked (some "/cart/1") none = some w ∧
        CommandLine.resolveLines haunted (some "/cart/1") none .request =
          some ("REQUEST /cart/1 → shop" :: lines.map ("  " ++ ·)) ∧
        CommandLine.Lists ["log", "tag"] ["ghost"] lines := by
  have valid : haunted.defects = [] := by decide
  have built : Registry.build haunted .builtin {} = (.ok (.ok _), _) := rfl
  have plain : ∀ p, some "/cart/1" = some p → '?' ∉ p.toList := by
    rintro p ⟨⟩
    decide
  obtain ⟨lines, names, skipped, printed, lists, populated, -⟩ :=
    @resolveLines_predicts haunted valid rfl _ _ _ _ built .request (some "/cart/1") none plain _ rfl
  obtain ⟨u, run, filters, new, journal, said⟩ :=
    populated { request := { dispatch := { path := some "/cart/1" } } } rfl
  obtain rfl := congrArg Prod.snd run
  have written := journal.trans (List.append_nil new)
  obtain rfl : ["log", "tag"] = names := filters
  obtain rfl : ["ghost"] = skipped := by
    rw [← said, ← written]
    rfl
  exact ⟨valid, rfl, _, _, _, lines, rfl, rfl, printed, lists⟩

end ServletFilters
