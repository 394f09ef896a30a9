import Mathlib.Data.List.Find
import ServletFilters.Component.Builtin.Servlets
import ServletFilters.Proofs.Registry.Contents

/-!
The checks of a configuration agree with each other, `Registry.build_gates`. Where a configuration has
no defects, only unknown classes and servlets that cannot be made keep its registry from being
built, and a registry that is built has what the configuration declares, in order.
-/

namespace ServletFilters

open Config (FilterEntry MappingEntry ServletEntry)

section Servlets

variable (components : ComponentFactory) (count : String → Nat)

/-- How the servlet of an entry is made, if its class is known; `count` says the how-manieth of its
name it is. -/
def Config.ServletEntry.making? (e : ServletEntry) : Option Making :=
  (components.servlets.find? e.className).map fun cls => cls.make e (count e.name)

def Config.ServletEntry.isReady (e : ServletEntry) : Bool :=
  match e.making? components count with
  | some (.ready _) => true
  | _ => false

/-- How building ends at a servlet that is not ready. -/
inductive Config.ServletEntry.Stops (e : ServletEntry) : Except Halt (Except RegistryError α) → Prop
  | unknown (h : e.making? components count = none) :
    Stops e (.ok (.error (.unknownServletClass e.name e.className)))
  | refused {failure : Failure} (h : e.making? components count = some (.refused failure)) :
    Stops e (.ok (.error (.servletInit e.name failure)))
  | panicked {message : String} (h : e.making? components count = some (.panicked message)) :
    Stops e (.error (.panic message))

/-- The servlet in its place is the one that an entry declares. -/
structure Wrapper.ComesFrom (w : Wrapper) (e : ServletEntry) : Prop where
  name : w.name = e.name
  className : w.className = e.className
  asyncSupported : w.asyncSupported = e.asyncSupported
  urlPatterns : w.urlPatterns = e.urlPatterns
  servlet : e.making? components count = some (.ready w.servlet.program)
  named : w.servlet.name = e.name

end Servlets

section Parts

variable {components : ComponentFactory}

theorem Config.ServletEntry.making?_of_known {count : String → Nat} {e : ServletEntry} {cls : ServletClass}
    (known : components.servlets.find? e.className = some cls) :
    e.making? components count = some (cls.make e (count e.name)) := by
  rw [making?, known, Option.map_some]

theorem Config.ServletEntry.not_isReady_iff {count : String → Nat} {e : ServletEntry} :
    ¬ e.isReady components count ↔ ∀ p, e.making? components count ≠ some (.ready p) := by
  unfold isReady
  split
  · rename_i p ready
    exact ⟨fun h => absurd rfl h, fun h => absurd ready (h p)⟩
  · rename_i other
    exact ⟨fun _ => other, by rintro _ ⟨⟩⟩

/-- At a servlet of a known class, building ends as the class says. -/
theorem Config.ServletEntry.Stops.of_known {count : String → Nat} {e : ServletEntry}
    {out : Except Halt (Except RegistryError α)} (h : e.Stops components count out)
    (known : e.making? components count ≠ none) :
    (∃ failure, e.making? components count = some (.refused failure) ∧
        out = .ok (.error (.servletInit e.name failure))) ∨
      ∃ message, e.making? components count = some (.panicked message) ∧
        out = .error (.panic message) := by
  cases h with
  | unknown h => exact absurd h known
  | refused h => exact .inl ⟨_, h, rfl⟩
  | panicked h => exact .inr ⟨_, h, rfl⟩

/-- At a servlet that is made if its class is known, building ends with its class. -/
theorem Config.ServletEntry.Stops.of_unknown {count : String → Nat} {e : ServletEntry}
    {out : Except Halt (Except RegistryError α)} (h : e.Stops components count out)
    (unknown : components.servlets.find? e.className = none) :
    out = .ok (.error (.unknownServletClass e.name e.className)) := by
  have none : e.making? components count = none := by rw [making?, unknown, Option.map_none]
  cases h with
  | unknown _ => rfl
  | refused h => cases none.symm.trans h
  | panicked h => cases none.symm.trans h

/-- Declaring filters ends at the first entry whose class is unknown; nothing is made. -/
theorem declareFilters_ends (components : ComponentFactory) (entries : List FilterEntry)
    (filters : Dict String FilterConfig) (s : Container) :
    let out := Registry.declareFilters components entries filters s
    let stop := entries.find? fun e => (components.filters.find? e.className).isNone
    out.2.nextCount = s.nextCount ∧
      (∀ e, stop = some e → out.1 = .ok (.error (.unknownFilterClass e.name e.className))) ∧
      (stop = none → ∃ all, out.1 = .ok (.ok all)) := by
  induction entries generalizing filters s with
  | nil => exact ⟨rfl, by rintro e ⟨⟩, fun _ => ⟨filters, rfl⟩⟩
  | cons entry rest ih =>
    unfold Registry.declareFilters
    cases known : components.filters.find? entry.className with
    | none =>
      rw [List.find?_cons_of_pos (by rw [known]; rfl)]
      refine ⟨rfl, ?_, by rintro ⟨⟩⟩
      rintro e ⟨⟩
      rfl
    | some cls =>
      rw [List.find?_cons_of_neg (by rw [known]; exact Bool.false_ne_true)]
      exact ih (filters.insert entry.name ⟨s.nextSerial, .ofEntry entry, .made cls⟩) (freshSerial s).2

/-- Making servlets ends at the first entry that is not ready. -/
theorem makeWrappers_ends (components : ComponentFactory) {count : String → Nat}
    (entries : List ServletEntry) (s : Container) (distinct : (entries.map (·.name)).Nodup)
    (counts : ∀ e ∈ entries, s.nextCount e.name = count e.name) :
    let out := (Registry.makeWrappers components entries s).1
    let stop := entries.find? fun e => !e.isReady components count
    (∀ e, stop = some e → e.Stops components count out) ∧
      (stop = none → ∃ ws, out = .ok (.ok ws) ∧
        List.Forall₂ (Wrapper.ComesFrom components count) ws entries) := by
  induction entries generalizing s with
  | nil => exact ⟨by rintro e ⟨⟩, fun _ => ⟨[], rfl, .nil⟩⟩
  | cons entry rest ih =>
    have own := counts entry (List.mem_cons_self ..)
    obtain ⟨apart, distinct⟩ := List.nodup_cons.1 distinct
    -- Where the entry is not ready, the rest does not count.
    have stopped : ∀ {out : Except Halt (Except RegistryError (List Wrapper))},
        entry.Stops components count out →
          (∀ e, (entry :: rest).find? (fun e => !e.isReady components count) = some e →
            e.Stops components count out) ∧
          ((entry :: rest).find? (fun e => !e.isReady components count) = none →
            ∃ ws, out = .ok (.ok ws) ∧
              List.Forall₂ (Wrapper.ComesFrom components count) ws (entry :: rest)) := by
      intro out stops
      have unready : ¬ entry.isReady components count := by
        rw [Config.ServletEntry.not_isReady_iff]
        rintro p ready
        cases stops with
        | unknown h => cases h.symm.trans ready
        | refused h => cases h.symm.trans ready
        | panicked h => cases h.symm.trans ready
      rw [List.find?_cons_of_pos (by simpa using unready)]
      refine ⟨?_, by rintro ⟨⟩⟩
      rintro e ⟨⟩
      exact stops
    unfold Registry.makeWrappers
    cases known : components.servlets.find? entry.className with
    | none => exact stopped (.unknown (by rw [Config.ServletEntry.making?, known, Option.map_none]))
    | some cls =>
      dsimp only
      have making : entry.making? components count = some (cls.make entry (count entry.name)) :=
        Config.ServletEntry.making?_of_known known
      obtain ⟨⟨-, ends⟩, kept⟩ :=
        makeComponent_counted cls.announced entry.name (cls.make entry) s
      rw [own] at ends
      rcases made : makeComponent cls.announced entry.name (cls.make entry) s with
        ⟨outcome, t⟩
      rw [made] at ends kept
      obtain ⟨failure, refused, rfl⟩ | ⟨message, panicked, rfl⟩ | ⟨servlet, ready, named, rfl⟩ := ends
      · rw [Run.bind_of_ok made]
        exact stopped (.refused (making.trans (congrArg some refused)))
      · rw [Run.bind_of_error made]
        exact stopped (.panicked (making.trans (congrArg some panicked)))
      · rw [Run.bind_of_ok made]
        dsimp only
        have ready := making.trans (congrArg some ready)
        rw [List.find?_cons_of_neg (by rw [Config.ServletEntry.isReady, ready]; simp)]
        obtain ⟨stops, succeeds⟩ := ih t distinct fun e listed =>
          (kept e.name fun same => apart (List.mem_map.2 ⟨e, listed, same⟩)).trans
            (counts e (List.mem_cons_of_mem _ listed))
        rcases ran : Registry.makeWrappers components rest t with ⟨halt | error | ws, u⟩ <;>
          rw [ran] at stops succeeds
        · rw [Run.bind_of_error ran]
          refine ⟨fun e first => ?_, fun none => ?_⟩
          · cases stops e first with
            | panicked h => exact .panicked h
          · obtain ⟨ws, ⟨⟩, -⟩ := succeeds none
        · rw [Run.bind_of_ok ran]
          refine ⟨fun e first => ?_, fun none => ?_⟩
          · cases stops e first with
            | unknown h => exact .unknown h
            | refused h => exact .refused h
          · obtain ⟨ws, ⟨⟩, -⟩ := succeeds none
        · rw [Run.bind_of_ok ran]
          refine ⟨fun e first => (by cases stops e first), fun none => ?_⟩
          obtain ⟨_, ⟨⟩, others⟩ := succeeds none
          exact ⟨_, rfl, .cons ⟨rfl, rfl, rfl, rfl, ready, named⟩ others⟩

/-! ### Configurations without defects -/

theorem names_of_servletDefects {seen : List String} {entries : List ServletEntry}
    (h : Config.servletDefects seen entries = []) :
    (entries.map (·.name)).Nodup ∧ ∀ e ∈ entries, e.name ∉ seen := by
  induction entries generalizing seen with
  | nil => exact ⟨List.nodup_nil, by rintro w ⟨⟩⟩
  | cons entry rest ih =>
    simp only [Config.servletDefects, List.append_eq_nil_iff] at h
    obtain ⟨distinct, unseen⟩ := ih h.2
    have fresh : entry.name ∉ seen := fun twice => by simp [twice] at h
    refine ⟨List.nodup_cons.2 ⟨fun twice => ?_, distinct⟩, fun e listed => ?_⟩
    · obtain ⟨e, listed, same⟩ := List.mem_map.1 twice
      exact unseen e listed (same ▸ List.mem_cons_self ..)
    · rcases List.mem_cons.1 listed with rfl | listed
      · exact fresh
      · exact fun before => unseen e listed (List.mem_cons_of_mem _ before)

theorem mapM_of_isOk {f : α → Except ε β} {l : List α} (h : ∀ a ∈ l, (f a).isOk) :
    ∃ bs, l.mapM f = .ok bs ∧ List.Forall₂ (fun b a => f a = .ok b) bs l := by
  induction l with
  | nil => exact ⟨[], rfl, .nil⟩
  | cons a rest ih =>
    obtain ⟨bs, mapped, each⟩ := ih fun a listed => h a (List.mem_cons_of_mem _ listed)
    have ok := h a (List.mem_cons_self ..)
    cases made : f a with
    | error e =>
      rw [made] at ok
      cases ok
    | ok b =>
      refine ⟨b :: bs, ?_, .cons made each⟩
      rw [List.mapM_cons, made, mapped]
      rfl

theorem FilterMapping.ofEntry_isOk {e : MappingEntry} (valid : e.defects = []) :
    (FilterMapping.ofEntry e).isOk := by
  simp only [MappingEntry.defects, List.append_eq_nil_iff, List.map_eq_nil_iff,
    List.filter_eq_nil_iff] at valid
  obtain ⟨kinds, parsed, -⟩ := mapM_of_isOk (f := Dispatcher.parse) (l := e.dispatchers)
    fun d listed => by simpa using valid.2 d listed
  rw [FilterMapping.ofEntry, parsed]
  rfl

/-- What the checks of a configuration without defects have established. -/
structure Config.Valid (config : Config) : Prop where
  filters : (config.filters.map (·.name)).Nodup
  servlets : (config.servlets.map (·.name)).Nodup
  mappings : ∃ ms, config.filterMappings.mapM FilterMapping.ofEntry = .ok ms ∧
    List.Forall₂ (fun m e => FilterMapping.ofEntry e = .ok m) ms config.filterMappings
  default : ∀ name, config.defaultServlet = some name → ∃ e ∈ config.servlets, e.name = name

theorem Config.valid_of_defects {config : Config} (h : config.defects = []) : config.Valid := by
  have filters := distinct_of_defects h
  unfold Config.defects at h
  simp only [List.append_eq_nil_iff, List.flatMap_eq_nil_iff] at h
  obtain ⟨⟨⟨-, mappings⟩, servlets⟩, default⟩ := h
  refine ⟨filters, (names_of_servletDefects servlets).1,
    mapM_of_isOk fun e listed => FilterMapping.ofEntry_isOk (mappings e listed), ?_⟩
  intro name given
  rw [Config.defaultDefects, given] at default
  dsimp only at default
  split at default
  · rename_i declared
    obtain ⟨e, listed, same⟩ := List.any_eq_true.1 declared
    exact ⟨e, listed, by simpa using same⟩
  · cases default

/-! ### Registries that are built -/

theorem find?_rel {R : α → β → Prop} {p : α → Bool} {q : β → Bool} {as : List α} {bs : List β}
    (h : List.Forall₂ R as bs) (same : ∀ a b, R a b → p a = q b) :
    Option.Rel R (as.find? p) (bs.find? q) := by
  induction h with
  | nil => exact .none
  | cons head rest ih =>
    rename_i a b as bs
    cases tested : q b with
    | true =>
      rw [List.find?_cons_of_pos tested, List.find?_cons_of_pos ((same a b head).trans tested)]
      exact .some head
    | false =>
      rw [List.find?_cons_of_neg (by rw [same a b head, tested]; exact Bool.false_ne_true),
        List.find?_cons_of_neg (by rw [tested]; exact Bool.false_ne_true)]
      exact ih

theorem chooseDefault_eq {ws : List Wrapper} {name : Option String}
    (known : ∀ n, name = some n → ∃ w ∈ ws, w.name = n) :
    Registry.chooseDefault ws name = .ok (name.bind fun n => ws.find? fun w => w.name == n) := by
  cases name with
  | none => rfl
  | some n =>
    obtain ⟨w, listed, same⟩ := known n rfl
    unfold Registry.chooseDefault
    cases found : ws.find? fun w => w.name == n with
    | some w => simp [found]
    | none =>
      have absent := List.find?_eq_none.1 found w listed
      simp [same] at absent

/-- Whether a pattern of the entry accepts a path. -/
def Config.ServletEntry.accepts (e : ServletEntry) (path : String) : Bool :=
  e.urlPatterns.any fun p => UrlPattern.accepts p path

/-- A registry that has what a configuration declares: each filter and each servlet under its name,
mappings and servlets in order, and the default servlet for what no servlet is mapped to. -/
structure Registry.Faithful (config : Config) (components : ComponentFactory) (count : String → Nat)
    (r : Registry) : Prop where
  filter : ∀ e ∈ config.filters, ∃ f, r.filters.find? e.name = some f ∧ f.ComesFrom components e
  onlyFilters : ∀ name, (r.filters.find? name).isSome → ∃ e ∈ config.filters, e.name = name
  mappings :
    List.Forall₂ (fun m e => FilterMapping.ofEntry e = .ok m) r.mappings config.filterMappings
  servlets : List.Forall₂ (Wrapper.ComesFrom components count) r.wrappers config.servlets
  servlet : ∀ e ∈ config.servlets, ∃ w, r.findWrapper e.name = some w ∧
    w.ComesFrom components count e
  mapped : ∀ path e, config.servlets.find? (·.accepts path) = some e →
    r.mapServlet path = r.findWrapper e.name
  fallback : ∀ path, config.servlets.find? (·.accepts path) = none →
    r.mapServlet path = config.defaultServlet.bind r.findWrapper
  default : ∀ name, config.defaultServlet = some name → (r.findWrapper name).isSome

section Faithful

variable {config : Config} {count : String → Nat} {ws : List Wrapper}

theorem names_of_comesFrom {entries : List ServletEntry}
    (h : List.Forall₂ (Wrapper.ComesFrom components count) ws entries) :
    ws.map (·.name) = entries.map (·.name) := by
  induction h with
  | nil => rfl
  | cons head rest ih => exact congrArg₂ List.cons head.name ih

theorem find?_entry (valid : config.Valid) {e : ServletEntry} (listed : e ∈ config.servlets) :
    (config.servlets.find? fun other => other.name == e.name) = some e := by
  cases found : config.servlets.find? fun other => other.name == e.name with
  | none =>
    have absent := List.find?_eq_none.1 found e listed
    simp at absent
  | some other =>
    have named : other.name = e.name := by simpa using List.find?_some found
    exact congrArg some (List.inj_on_of_nodup_map valid.servlets (List.mem_of_find?_eq_some found)
      listed named)

/-- The servlet of an entry is found under its name. -/
theorem find?_comesFrom (valid : config.Valid)
    (servlets : List.Forall₂ (Wrapper.ComesFrom components count) ws config.servlets)
    {e : ServletEntry} (listed : e ∈ config.servlets) :
    ∃ w, (ws.find? fun w => w.name == e.name) = some w ∧ w.ComesFrom components count e := by
  have rel := find?_rel (p := fun w => w.name == e.name) (q := fun other => other.name == e.name)
    servlets fun w other from_ => by rw [from_.name]
  rw [find?_entry valid listed] at rel
  generalize ws.find? (fun w => w.name == e.name) = found at rel
  cases rel with
  | some from_ => exact ⟨_, rfl, from_⟩

/-- The first servlet with a pattern for a path is the one of the first such entry. -/
theorem accepts_rel
    (servlets : List.Forall₂ (Wrapper.ComesFrom components count) ws config.servlets)
    (path : String) :
    Option.Rel (Wrapper.ComesFrom components count)
      (ws.find? fun w => w.urlPatterns.any fun p => UrlPattern.accepts p path)
      (config.servlets.find? (·.accepts path)) :=
  find?_rel servlets fun w e from_ => by rw [from_.urlPatterns, Config.ServletEntry.accepts]

theorem Registry.faithful_of_contents (valid : config.Valid) {r : Registry}
    (contents : r.Contents config components)
    (servlets : List.Forall₂ (Wrapper.ComesFrom components count) r.wrappers config.servlets)
    (default : r.defaultServlet = config.defaultServlet.bind r.findWrapper) :
    r.Faithful config components count where
  filter := fun e listed => contents.find? valid.filters listed
  onlyFilters := fun name there => by
    obtain ⟨f, found⟩ := Option.isSome_iff_exists.1 there
    obtain ⟨e, listed, own⟩ := contents.entry f (Dict.mem_values_of_find? found)
    exact ⟨e, listed, (congrArg FilterDefinition.name own.1).symm.trans
      (contents.sound.declares.named found)⟩
  mappings := by
    obtain ⟨ms, compiled, each⟩ := valid.mappings
    obtain rfl := Except.ok.inj (compiled.symm.trans contents.mappings)
    exact each
  servlets := servlets
  servlet := fun e listed => find?_comesFrom valid servlets listed
  mapped := fun path e first => by
    have rel := accepts_rel servlets path
    rw [first] at rel
    obtain ⟨w, named, from_⟩ := find?_comesFrom valid servlets (List.mem_of_find?_eq_some first)
    rw [Registry.findWrapper, named, Registry.mapServlet]
    cases found : r.wrappers.find? fun w => w.urlPatterns.any fun p => UrlPattern.accepts p path with
    | none =>
      rw [found] at rel
      cases rel
    | some w' =>
      rw [found] at rel
      cases rel with
      | some from' =>
        have distinct : (r.wrappers.map (·.name)).Nodup :=
          names_of_comesFrom servlets ▸ valid.servlets
        exact congrArg some (List.inj_on_of_nodup_map distinct (List.mem_of_find?_eq_some found)
          (List.mem_of_find?_eq_some named) (from'.name.trans from_.name.symm))
  fallback := fun path none => by
    have rel := accepts_rel servlets path
    rw [none] at rel
    rw [Registry.mapServlet, ← default]
    cases found : r.wrappers.find? fun w => w.urlPatterns.any fun p => UrlPattern.accepts p path with
    | none => rfl
    | some w =>
      rw [found] at rel
      cases rel
  default := fun name given => by
    obtain ⟨e, listed, rfl⟩ := valid.default name given
    obtain ⟨w, found, -⟩ := find?_comesFrom valid servlets listed
    exact Option.isSome_iff_exists.2 ⟨w, found⟩

end Faithful

/-- Building ends at the first filter of an unknown class, else at the first servlet that is not
ready, else with a registry that is faithful. -/
theorem Registry.build_ends (components : ComponentFactory) {config : Config} (valid : config.Valid)
    (s : Container) :
    let out := (Registry.build config components s).1
    let unknown := config.filters.find? fun e => (components.filters.find? e.className).isNone
    let unready := config.servlets.find? fun e => !e.isReady components s.nextCount
    (∀ e, unknown = some e → out = .ok (.error (.unknownFilterClass e.name e.className))) ∧
      (unknown = none → ∀ e, unready = some e → e.Stops components s.nextCount out) ∧
      (unknown = none → unready = none →
        ∃ r, out = .ok (.ok r) ∧ r.Faithful config components s.nextCount) := by
  have whole : ∀ r t, Registry.build config components s = (.ok (.ok r), t) →
      r.Contents config components := fun r t => Registry.build_contents
  obtain ⟨counts, stops, succeeds⟩ := declareFilters_ends components config.filters {} s
  obtain ⟨mappings, compiled, -⟩ := valid.mappings
  rcases declared : Registry.declareFilters components config.filters {} s with ⟨outcome, t⟩
  rw [declared] at counts stops succeeds
  dsimp only at counts stops succeeds
  unfold Registry.build at whole ⊢
  dsimp only
  cases unknown : config.filters.find? fun e => (components.filters.find? e.className).isNone with
  | some e =>
    obtain rfl := stops e unknown
    rw [Run.bind_of_ok declared]
    exact ⟨fun _ same => Option.some.inj same ▸ rfl, by rintro ⟨⟩, by rintro ⟨⟩⟩
  | none =>
    obtain ⟨filters, rfl⟩ := succeeds unknown
    rw [Run.bind_of_ok declared] at whole ⊢
    dsimp only at whole ⊢
    rw [compiled] at whole ⊢
    dsimp only at whole ⊢
    refine ⟨by rintro e ⟨⟩, fun _ => ?_, fun _ => ?_⟩
    all_goals
      obtain ⟨stops, succeeds⟩ := makeWrappers_ends components config.servlets t
        valid.servlets fun e _ => congrFun counts e.name
      rcases made : Registry.makeWrappers components config.servlets t with ⟨outcome, u⟩
      rw [made] at stops succeeds
    · intro e first
      cases stops e first with
      | unknown h =>
        rw [Run.bind_of_ok made]
        exact .unknown h
      | refused h =>
        rw [Run.bind_of_ok made]
        exact .refused h
      | panicked h =>
        rw [Run.bind_of_error made]
        exact .panicked h
    · intro ready
      obtain ⟨ws, rfl, servlets⟩ := succeeds ready
      have known : ∀ n, config.defaultServlet = some n → ∃ w ∈ ws, w.name = n := by
        intro n given
        obtain ⟨e, listed, rfl⟩ := valid.default n given
        obtain ⟨w, found, from_⟩ := find?_comesFrom valid servlets listed
        exact ⟨w, List.mem_of_find?_eq_some found, from_.name⟩
      rw [Run.bind_of_ok made] at whole ⊢
      dsimp only at whole ⊢
      rw [chooseDefault_eq known] at whole ⊢
      exact ⟨_, rfl, Registry.faithful_of_contents valid (whole _ _ rfl) servlets rfl⟩

end Parts

section Gates

variable {config : Config} {components : ComponentFactory}

theorem checkClasses_of_filter {e : FilterEntry}
    (h : (config.filters.find? fun e => (components.filters.find? e.className).isNone) = some e) :
    components.checkClasses config = .error (.unknownFilterClass e.name e.className) := by
  rw [ComponentFactory.checkClasses, h]

theorem checkClasses_of_servlet {e : ServletEntry}
    (filters : (config.filters.find? fun e => (components.filters.find? e.className).isNone) = none)
    (h : (config.servlets.find? fun e => (components.servlets.find? e.className).isNone) = some e) :
    components.checkClasses config = .error (.unknownServletClass e.name e.className) := by
  rw [ComponentFactory.checkClasses, filters]
  dsimp only
  rw [h]

theorem checkClasses_of_known
    (filters : (config.filters.find? fun e => (components.filters.find? e.className).isNone) = none)
    (servlets :
      (config.servlets.find? fun e => (components.servlets.find? e.className).isNone) = none) :
    components.checkClasses config = .ok () := by
  rw [ComponentFactory.checkClasses, filters]
  dsimp only
  rw [servlets]

theorem checkClasses_eq_ok (h : components.checkClasses config = .ok ()) :
    (config.filters.find? fun e => (components.filters.find? e.className).isNone) = none ∧
      ∀ e ∈ config.servlets, ∃ cls, components.servlets.find? e.className = some cls := by
  cases filters : config.filters.find? fun e => (components.filters.find? e.className).isNone with
  | some e => cases (checkClasses_of_filter filters).symm.trans h
  | none =>
    cases servlets : config.servlets.find? fun e => (components.servlets.find? e.className).isNone with
    | some e => cases (checkClasses_of_servlet filters servlets).symm.trans h
    | none =>
      refine ⟨rfl, fun e listed => Option.ne_none_iff_exists'.1 ?_⟩
      simpa using List.find?_eq_none.1 servlets e listed

/-- Where all servlets of known classes can be made, the first one that is not ready is the first
one of an unknown class. -/
theorem find?_isReady {count : String → Nat}
    (ready : ∀ e ∈ config.servlets, e.making? components count ≠ none → e.isReady components count) :
    (config.servlets.find? fun e => !e.isReady components count) =
      config.servlets.find? fun e => (components.servlets.find? e.className).isNone := by
  refine List.find?_congr fun e listed => ?_
  cases known : components.servlets.find? e.className with
  | none => simp [Config.ServletEntry.isReady, Config.ServletEntry.making?, known]
  | some cls =>
    have made : e.making? components count ≠ none := by
      rw [Config.ServletEntry.making?_of_known known]
      exact Option.some_ne_none _
    simp [ready e listed made]

/-- A registry that is built is faithful. -/
theorem Registry.build_faithful {s : Container} {r : Registry} (valid : config.Valid)
    (ok : (Registry.build config components s).1 = .ok (.ok r)) :
    r.Faithful config components s.nextCount := by
  obtain ⟨unknown, unready, built⟩ := Registry.build_ends components valid s
  cases filters : config.filters.find? fun e => (components.filters.find? e.className).isNone with
  | some e => cases (unknown e filters).symm.trans ok
  | none =>
    cases stop : config.servlets.find? fun e => !e.isReady components s.nextCount with
    | some e =>
      have stops := unready filters e stop
      rw [ok] at stops
      cases stops
    | none =>
      obtain ⟨r', ok', faithful⟩ := built filters stop
      obtain rfl := Except.ok.inj (Except.ok.inj (ok'.symm.trans ok))
      exact faithful

/-- The entry of the servlet for a path: the first with a pattern for it, else the default servlet. -/
def Config.servletFor (config : Config) (path : String) : Option ServletEntry :=
  (config.servlets.find? (·.accepts path)).or
    (config.defaultServlet.bind fun name => config.servlets.find? (·.name == name))

section Serving

variable {count : String → Nat} {r : Registry}

theorem Registry.Faithful.mapServlet_rel (h : r.Faithful config components count) (path : String) :
    Option.Rel (Wrapper.ComesFrom components count) (r.mapServlet path) (config.servletFor path) := by
  unfold Config.servletFor
  cases first : config.servlets.find? (·.accepts path) with
  | some e =>
    obtain ⟨w, named, from_⟩ := h.servlet e (List.mem_of_find?_eq_some first)
    rw [h.mapped path e first, named]
    exact .some from_
  | none =>
    rw [h.fallback path first]
    cases config.defaultServlet with
    | none => exact .none
    | some name => exact find?_rel h.servlets fun w e from_ => by rw [from_.name]

theorem Registry.Faithful.serves (h : r.Faithful config components count) (path : String)
    {e : ServletEntry} (served : config.servletFor path = some e) :
    ∃ w, r.mapServlet path = some w ∧ w.ComesFrom components count e := by
  have rel := h.mapServlet_rel path
  rw [served] at rel
  generalize r.mapServlet path = mapped at rel
  cases rel with
  | some from_ => exact ⟨_, rfl, from_⟩

theorem Registry.Faithful.unserved (h : r.Faithful config components count) {path : String}
    (none : config.servletFor path = none) : r.mapServlet path = .none := by
  have rel := h.mapServlet_rel path
  rw [none] at rel
  generalize r.mapServlet path = mapped at rel
  cases rel with
  | none => rfl

theorem Wrapper.ComesFrom.made {w : Wrapper} {e : ServletEntry} (from_ : w.ComesFrom components count e)
    {cls : ServletClass} (known : components.servlets.find? e.className = some cls) :
    cls.make e (count e.name) = .ready w.servlet.program := by
  have made := from_.servlet
  rw [ServletEntry.making?_of_known known] at made
  exact Option.some.inj made

end Serving

/-- For a configuration without defects: if all classes are known, a registry is built, or the first
servlet that cannot be made is reported; if all servlets can be made, building fails exactly as the
check of the classes does; and a registry that is built is faithful. -/
theorem Registry.build_gates (valid : config.defects = []) (components : ComponentFactory)
    (s : Container) :
    let out := (Registry.build config components s).1
    (components.checkClasses config = .ok () →
      (∃ r, out = .ok (.ok r)) ∨
        ∃ e, (config.servlets.find? fun e => !e.isReady components s.nextCount) = some e ∧
          ((∃ failure, e.making? components s.nextCount = some (.refused failure) ∧
              out = .ok (.error (.servletInit e.name failure))) ∨
            ∃ message, e.making? components s.nextCount = some (.panicked message) ∧
              out = .error (.panic message))) ∧
      ((∀ e ∈ config.servlets, e.making? components s.nextCount ≠ none →
          e.isReady components s.nextCount) →
        (∀ error, out = .ok (.error error) ↔ components.checkClasses config = .error error) ∧
          ((∃ r, out = .ok (.ok r)) ↔ components.checkClasses config = .ok ())) ∧
      ∀ r, out = .ok (.ok r) → r.Faithful config components s.nextCount := by
  intro out
  obtain ⟨unknownFilter, unready, built⟩ :=
    Registry.build_ends components (Config.valid_of_defects valid) s
  refine ⟨fun checked => ?_, fun ready => ?_, fun r ok => ?_⟩
  · obtain ⟨filters, known⟩ := checkClasses_eq_ok checked
    cases stop : config.servlets.find? fun e => !e.isReady components s.nextCount with
    | none =>
      obtain ⟨r, ok, -⟩ := built filters stop
      exact .inl ⟨r, ok⟩
    | some e =>
      obtain ⟨cls, found⟩ := known e (List.mem_of_find?_eq_some stop)
      refine .inr ⟨e, rfl, (unready filters e stop).of_known ?_⟩
      rw [Config.ServletEntry.making?_of_known found]
      exact Option.some_ne_none _
  · -- Both ends are the same at the first unknown class, and both succeed where there is none.
    have agree : (∃ error, out = .ok (.error error) ∧ components.checkClasses config = .error error) ∨
        (∃ r, out = .ok (.ok r)) ∧ components.checkClasses config = .ok () := by
      have same := find?_isReady ready
      cases filters : config.filters.find? fun e => (components.filters.find? e.className).isNone with
      | some e => exact .inl ⟨_, unknownFilter e filters, checkClasses_of_filter filters⟩
      | none =>
        cases servlets : config.servlets.find? fun e => (components.servlets.find? e.className).isNone
          with
        | some e =>
          have unknown : components.servlets.find? e.className = none := by
            simpa using List.find?_some servlets
          exact .inl ⟨_, (unready filters e (same.trans servlets)).of_unknown unknown,
            checkClasses_of_servlet filters servlets⟩
        | none =>
          obtain ⟨r, ok, -⟩ := built filters (same.trans servlets)
          exact .inr ⟨⟨r, ok⟩, checkClasses_of_known filters servlets⟩
    rcases agree with ⟨error, failed, checked⟩ | ⟨⟨r, ok⟩, checked⟩
    · rw [failed, checked]
      refine ⟨fun other => ⟨fun h => ?_, fun h => ?_⟩, by rintro ⟨r, ⟨⟩⟩, by rintro ⟨⟩⟩
      · cases h
        rfl
      · cases h
        rfl
    · rw [ok, checked]
      exact ⟨fun other => ⟨by rintro ⟨⟩, by rintro ⟨⟩⟩, fun _ => rfl, fun _ => ⟨r, rfl⟩⟩
  · exact Registry.build_faithful (Config.valid_of_defects valid) ok

/-- A site where all classes are known, but two of the servlets cannot be made. -/
def hastySite : Config where
  filters := [{ name := "log", className := "request-log", asyncSupported := some true }]
  filterMappings := [{ filterName := "log", urlPatterns := ["*"], dispatchers := ["Forward"] }]
  servlets :=
    [{ name := "home", className := "echo", urlPatterns := ["/"] },
      { name := "gate", className := "forwarding", urlPatterns := ["/gate"] },
      { name := "late", className := "static-text",
        initParams := ⟨[("status", "soon")]⟩ }]
  defaultServlet := some "home"

/-- The first of the two is reported. -/
theorem build_gates_hasty :
    hastySite.defects = [] ∧ ComponentFactory.builtin.checkClasses hastySite = .ok () ∧
      ∃ failure, (Registry.build hastySite .builtin {}).1 =
        .ok (.error (.servletInit "gate" failure)) := by
  have valid : hastySite.defects = [] := by decide
  have checked : ComponentFactory.builtin.checkClasses hastySite = .ok () := rfl
  refine ⟨valid, checked, ?_⟩
  have first : (hastySite.servlets.find? fun e =>
      !e.isReady .builtin (Container.nextCount {})) = some hastySite.servlets[1] := rfl
  obtain ⟨made, -, faithful⟩ := Registry.build_gates valid .builtin {}
  obtain ⟨r, ok⟩ | ⟨e, stop, ⟨failure, -, ended⟩ | ⟨message, panicked, -⟩⟩ := made checked
  · obtain ⟨w, -, from_⟩ := (faithful r ok).servlet hastySite.servlets[1] (by decide)
    cases from_.servlet
  · obtain rfl := Option.some.inj (first.symm.trans stop)
    exact ⟨failure, ended⟩
  · obtain rfl := Option.some.inj (first.symm.trans stop)
    cases panicked

end Gates

end ServletFilters
