import Mathlib.Data.List.Nodup
import ServletFilters.Config.Validation
import ServletFilters.Proofs.Registry.Building

/-!
What a registry has of the configuration that it was built for, `Registry.build_contents`: a filter for
each entry, made by the class that the entry names, and servlets that such classes have made.
-/

namespace ServletFilters

theorem value_eq {a b : α} {s t : Container}
    (h : ((.ok (.ok a), s) : Except Halt (Except ε α) × Container) = (.ok (.ok b), t)) : a = b := by
  cases h
  rfl

/-- How the making of a component ends: as its class says, and with the same request. -/
def Making.EndsIn (making : Making) (name : String) (s : Container)
    (out : Except Halt (Except Failure Component) × Container) : Prop :=
  out.2.request = s.request ∧
    ((∃ failure, making = .refused failure ∧ out.1 = .ok (.error failure)) ∨
      (∃ message, making = .panicked message ∧ out.1 = .error (.panic message)) ∨
      ∃ c, making = .ready c.program ∧ c.name = name ∧ out.1 = .ok (.ok c))

/-- The how-manieth of its name the next component is. -/
def Container.nextCount (s : Container) (name : String) : Nat :=
  (s.constructions.find? name).getD 0 + 1

/-- A component is made with the count of its name, and changes no other count. -/
theorem makeComponent_counted (announced : Bool) (name : String) (make : Nat → Making)
    (s : Container) :
    (make (s.nextCount name)).EndsIn name s (makeComponent announced name make s) ∧
      ∀ other ≠ name, (makeComponent announced name make s).2.nextCount other =
        s.nextCount other := by
  have finished : ∀ n (u : Container), u.request = s.request →
      (make n).EndsIn name s ((make n).finish announced name u) ∧
        ((make n).finish announced name u).2.constructions = u.constructions := by
    intro n u request
    cases make n with
    | refused failure => exact ⟨⟨request, .inl ⟨failure, rfl, rfl⟩⟩, rfl⟩
    | panicked message => exact ⟨⟨request, .inr (.inl ⟨message, rfl, rfl⟩)⟩, rfl⟩
    | ready program => exact ⟨⟨request, .inr (.inr ⟨_, rfl, rfl, rfl⟩)⟩, rfl⟩
  unfold makeComponent
  rw [Run.get_bind_apply]
  cases announced with
  | true =>
    obtain ⟨ends, counts⟩ := finished (s.nextCount name)
      ({ s with constructions := s.constructions.insert name (s.nextCount name) }.note
        (.constructing name (s.nextCount name))) rfl
    refine ⟨ends, fun other apart => ?_⟩
    have kept := (congrArg (Dict.find? · other) counts).trans
      ((Dict.find?_insert s.constructions name other _).trans (if_neg apart))
    exact congrArg (fun found => Option.getD found 0 + 1) kept
  | false =>
    obtain ⟨ends, counts⟩ := finished (s.nextCount name) s rfl
    exact ⟨ends, fun other _ => congrArg (fun d => (Dict.find? d other).getD 0 + 1) counts⟩

theorem makeComponent_ends (announced : Bool) (name : String) (make : Nat → Making) (s : Container) :
    ∃ n, (make n).EndsIn name s (makeComponent announced name make s) :=
  ⟨_, (makeComponent_counted announced name make s).1⟩

theorem makeComponent_program {announced : Bool} {name : String} {make : Nat → Making}
    {s t : Container} {c : Component} (h : makeComponent announced name make s = (.ok (.ok c), t)) :
    ∃ n, make n = .ready c.program ∧ c.name = name := by
  obtain ⟨n, ends⟩ := makeComponent_ends announced name make s
  rw [h] at ends
  obtain ⟨-, ⟨failure, -, ⟨⟩⟩ | ⟨message, -, ⟨⟩⟩ | ⟨d, ready, named, ⟨⟩⟩⟩ := ends
  exact ⟨n, ready, named⟩

/-- The filter is declared by an entry. -/
def FilterConfig.ComesFrom (components : ComponentFactory) (f : FilterConfig)
    (e : Config.FilterEntry) : Prop :=
  f.definition = .ofEntry e ∧
    ∃ cls, components.filters.find? e.className = some cls ∧ f.source = .made cls

theorem declareFilters_contents (components : ComponentFactory) (entries : List Config.FilterEntry)
    {filters all : Dict String FilterConfig} {s t : Container}
    (h : Registry.declareFilters components entries filters s = (.ok (.ok all), t)) :
    (∀ f ∈ all.values, f ∈ filters.values ∨ ∃ e ∈ entries, f.ComesFrom components e) ∧
      ∀ name, (filters.find? name).isSome ∨ name ∈ entries.map (·.name) →
        (all.find? name).isSome := by
  induction entries generalizing filters s with
  | nil =>
    obtain rfl := value_eq h
    exact ⟨fun f => .inl, fun name there => there.resolve_right (by rintro ⟨⟩)⟩
  | cons entry rest ih =>
    unfold Registry.declareFilters at h
    cases known : components.filters.find? entry.className with
    | none =>
      rw [known] at h
      cases h
    | some cls =>
      rw [known] at h
      let declaration : FilterConfig := ⟨s.nextSerial, .ofEntry entry, .made cls⟩
      have behind : Registry.declareFilters components rest (filters.insert entry.name declaration)
        (freshSerial s).2 = (.ok (.ok all), t) := h
      obtain ⟨members, names⟩ := ih behind
      constructor
      · intro f member
        rcases members f member with before | ⟨e, listed, from_⟩
        · rcases Dict.mem_values_of_mem_insert before with rfl | old
          · exact .inr ⟨entry, List.mem_cons_self .., rfl, cls, known, rfl⟩
          · exact .inl old
        · exact .inr ⟨e, List.mem_cons_of_mem _ listed, from_⟩
      · intro name there
        refine names name ?_
        rw [Dict.find?_insert]
        by_cases own : name = entry.name
        · rw [if_pos own]
          exact .inl rfl
        · rw [if_neg own]
          exact there.imp id fun listed => (List.mem_cons.1 listed).resolve_left own

theorem makeWrappers_contents (components : ComponentFactory) (entries : List Config.ServletEntry)
    {ws : List Wrapper} {s t : Container}
    (h : Registry.makeWrappers components entries s = (.ok (.ok ws), t)) :
    ∀ w ∈ ws, w.servlet.name = w.name ∧ ∃ entry cls n,
      components.servlets.find? entry.className = some cls ∧
        cls.make entry n = .ready w.servlet.program := by
  induction entries generalizing ws s t with
  | nil =>
    obtain rfl := value_eq h
    rintro w ⟨⟩
  | cons entry rest ih =>
    unfold Registry.makeWrappers at h
    cases known : components.servlets.find? entry.className with
    | none =>
      rw [known] at h
      cases h
    | some cls =>
      rw [known] at h
      dsimp only at h
      rcases made : makeComponent cls.announced entry.name (cls.make entry) s with
        ⟨halt | failure | servlet, u⟩
      · rw [Run.bind_of_error made] at h
        cases h
      · rw [Run.bind_of_ok made] at h
        cases h
      rw [Run.bind_of_ok made] at h
      dsimp only at h
      rcases ran : Registry.makeWrappers components rest u with ⟨halt | error | others, v⟩
      · rw [Run.bind_of_error ran] at h
        cases h
      · rw [Run.bind_of_ok ran] at h
        cases h
      rw [Run.bind_of_ok ran] at h
      obtain rfl := value_eq h
      intro w member
      rcases List.mem_cons.1 member with rfl | member
      · obtain ⟨n, ready, name⟩ := makeComponent_program made
        exact ⟨name, entry, cls, n, known, ready⟩
      · exact ih ran w member

/-- What a registry has of a configuration. -/
structure Registry.Contents (config : Config) (components : ComponentFactory) (r : Registry) :
    Prop where
  sound : r.Sound
  mappings : config.filterMappings.mapM FilterMapping.ofEntry = .ok r.mappings
  entry : ∀ f ∈ r.filters.values, ∃ e ∈ config.filters, f.ComesFrom components e
  declared : ∀ e ∈ config.filters, (r.filters.find? e.name).isSome
  servlet : ∀ w ∈ r.wrappers, w.servlet.name = w.name ∧ ∃ entry cls n,
    components.servlets.find? entry.className = some cls ∧
      cls.make entry n = .ready w.servlet.program

theorem Registry.build_contents {config : Config} {components : ComponentFactory} {r : Registry}
    {s t : Container} (h : Registry.build config components s = (.ok (.ok r), t)) :
    r.Contents config components := by
  have sound : r.Sound := by
    rcases Registry.build_cases config components s with ⟨-, none⟩ | ⟨r', u, middle, -, sound, -, ran⟩
    · exact absurd (congrArg Prod.fst h) (none r)
    · rw [ran] at h
      obtain rfl := value_eq h
      exact sound
  unfold Registry.build at h
  rcases ran : Registry.declareFilters components config.filters {} s with
    ⟨halt | error | filters, u⟩
  · rw [Run.bind_of_error ran] at h
    cases h
  · rw [Run.bind_of_ok ran] at h
    cases h
  obtain ⟨members, names⟩ := declareFilters_contents components config.filters ran
  rw [Run.bind_of_ok ran] at h
  dsimp only at h
  cases compiled : config.filterMappings.mapM FilterMapping.ofEntry with
  | error e =>
    rw [compiled] at h
    cases h
  | ok mappings =>
    rw [compiled] at h
    dsimp only at h
    rcases ran' : Registry.makeWrappers components config.servlets u with
      ⟨halt | error | wrappers, v⟩
    · rw [Run.bind_of_error ran'] at h
      cases h
    · rw [Run.bind_of_ok ran'] at h
      cases h
    rw [Run.bind_of_ok ran'] at h
    dsimp only at h
    cases chosen : Registry.chooseDefault wrappers config.defaultServlet with
    | error e =>
      rw [chosen] at h
      cases h
    | ok defaultServlet =>
      rw [chosen] at h
      obtain rfl := value_eq h
      refine ⟨sound, compiled, ?_, ?_, makeWrappers_contents components config.servlets ran'⟩
      · intro f member
        exact (members f member).resolve_left (by rintro ⟨⟩)
      · exact fun e listed => names e.name (.inr (List.mem_map_of_mem listed))

/-- With names of their own, each entry is found under its name. -/
theorem Registry.Contents.find? {config : Config} {components : ComponentFactory} {r : Registry}
    (h : r.Contents config components) (distinct : (config.filters.map (·.name)).Nodup)
    {e : Config.FilterEntry} (listed : e ∈ config.filters) :
    ∃ f, r.filters.find? e.name = some f ∧ f.ComesFrom components e := by
  obtain ⟨f, found⟩ := Option.isSome_iff_exists.1 (h.declared e listed)
  obtain ⟨e', listed', own⟩ := h.entry f (Dict.mem_values_of_find? found)
  have named : e'.name = e.name := (congrArg FilterDefinition.name own.1).symm.trans
    (h.sound.declares.named found)
  obtain rfl := List.inj_on_of_nodup_map distinct listed' listed named
  exact ⟨f, found, own⟩

theorem nodup_of_repeated {words : List String} (h : Config.repeated words = []) : words.Nodup := by
  unfold Config.repeated at h
  rw [List.map_eq_nil_iff, List.filter_eq_nil_iff] at h
  rw [List.Nodup, List.pairwise_iff_getElem]
  intro i j hi hj before same
  refine h (words[j], j) (List.mk_mem_zipIdx_iff_getElem?.2 (List.getElem?_eq_getElem hj)) ?_
  exact decide_eq_true (List.mem_take_iff_getElem.2 ⟨i, by omega, same⟩)

theorem distinct_of_defects {config : Config} (valid : config.defects = []) :
    (config.filters.map (·.name)).Nodup := by
  unfold Config.defects at valid
  simp only [List.append_eq_nil_iff, List.map_eq_nil_iff] at valid
  exact nodup_of_repeated valid.1.1.1.2

end ServletFilters
