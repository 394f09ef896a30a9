import Mathlib.Data.List.Count
import Mathlib.Data.List.Induction
import Mathlib.Data.List.Nodup
import ServletFilters.Config.Source

/-!
What the validation of a configuration answers, `Config.validate_exact`. A rule that is broken is
broken at a place, the places have an order, and the defects are what is wrong at the places, each
told once and in this order.
-/

namespace ServletFilters

namespace Config

/-- A part of a configuration that can be at fault, named by where it stands. -/
inductive Place where
  | timeout
  | filter (i : Nat)
  | mapping (i : Nat)
  | mappingPattern (i j : Nat)
  | mappingDispatcher (i j : Nat)
  | servlet (i : Nat)
  | servletPattern (i j : Nat)
  | default
  deriving DecidableEq, Repr

namespace Place

/-- Places are in the order of their keys, as words are in a dictionary. -/
@[simp]
def key : Place → List Nat
  | .timeout => [0]
  | .filter i => [1, i]
  | .mapping i => [2, i, 0]
  | .mappingPattern i j => [2, i, 1, j]
  | .mappingDispatcher i j => [2, i, 2, j]
  | .servlet i => [3, i, 0]
  | .servletPattern i j => [3, i, 1, j]
  | .default => [4]

@[simp]
def Before (p q : Place) : Prop := p.key < q.key

/-- The part that a place is in: timeout, filters, mappings, servlets, default servlet. -/
def part (p : Place) : Nat := p.key.headD 0

theorem before_of_part {p q : Place} (less : p.part < q.part) : p.Before q := by
  have split : ∀ r : Place, ∃ rest, r.key = r.part :: rest := by
    intro r
    cases r <;> exact ⟨_, rfl⟩
  obtain ⟨rest, eq⟩ := split p
  obtain ⟨rest', eq'⟩ := split q
  rw [Before, eq, eq', List.cons_lt_cons_iff]
  exact .inl less

end Place

/-- What is wrong at a place. -/
inductive Flaw (config : Config) : Place → Defect → Prop where
  | timeout (zero : config.timeouts.requestSecs = 0) : Flaw config .timeout .zeroTimeout
  | filter {i : Nat} {e : FilterEntry} (here : config.filters[i]? = some e)
      (twice : e.name ∈ (config.filters.take i).map (·.name)) :
      Flaw config (.filter i) (.duplicateFilter e.name)
  | mapping {i : Nat} {e : MappingEntry} (here : config.filterMappings[i]? = some e)
      (patterns : e.urlPatterns = []) (names : e.servletNames = []) :
      Flaw config (.mapping i) (.emptyMapping e.filterName)
  | mappingPattern {i j : Nat} {e : MappingEntry} {pattern : String}
      (here : config.filterMappings[i]? = some e) (inside : e.urlPatterns[j]? = some pattern)
      (invalid : UrlPattern.isValid pattern = false) :
      Flaw config (.mappingPattern i j) (.invalidUrlPattern e.filterName pattern)
  | mappingDispatcher {i j : Nat} {e : MappingEntry} {word : String}
      (here : config.filterMappings[i]? = some e) (inside : e.dispatchers[j]? = some word)
      (unknown : ∀ d, Dispatcher.parse word ≠ .ok d) :
      Flaw config (.mappingDispatcher i j) (.unknownDispatcher e.filterName word)
  | servlet {i : Nat} {e : ServletEntry} (here : config.servlets[i]? = some e)
      (twice : e.name ∈ (config.servlets.take i).map (·.name)) :
      Flaw config (.servlet i) (.duplicateServlet e.name)
  | servletPattern {i j : Nat} {e : ServletEntry} {pattern : String}
      (here : config.servlets[i]? = some e) (inside : e.urlPatterns[j]? = some pattern)
      (invalid : UrlPattern.isValid pattern = false) :
      Flaw config (.servletPattern i j) (.invalidUrlPattern e.name pattern)
  | default {name : String} (given : config.defaultServlet = some name)
      (undeclared : name ∉ config.servlets.map (·.name)) :
      Flaw config .default (.unknownDefaultServlet name)

/-- The rules that a configuration has to keep. -/
structure WellFormed (config : Config) : Prop where
  timeout : config.timeouts.requestSecs ≠ 0
  filters : (config.filters.map (·.name)).Nodup
  servlets : (config.servlets.map (·.name)).Nodup
  mappings : ∀ e ∈ config.filterMappings, e.urlPatterns ≠ [] ∨ e.servletNames ≠ []
  mappingPatterns : ∀ e ∈ config.filterMappings, ∀ p ∈ e.urlPatterns, UrlPattern.isValid p = true
  dispatchers : ∀ e ∈ config.filterMappings, ∀ word ∈ e.dispatchers,
    ∃ d, Dispatcher.parse word = .ok d
  servletPatterns : ∀ e ∈ config.servlets, ∀ p ∈ e.urlPatterns, UrlPattern.isValid p = true
  default : ∀ name, config.defaultServlet = some name → name ∈ config.servlets.map (·.name)

/-! ### Lists of defects that tell what is wrong -/

/-- The list has each flaw once, in the order of their places, and nothing else. -/
def Tells (flaw : Place → Defect → Prop) (defects : List Defect) : Prop :=
  ∃ found : List (Place × Defect), found.Pairwise (fun a b => a.1.Before b.1) ∧
    (∀ place defect, (place, defect) ∈ found ↔ flaw place defect) ∧ defects = found.map (·.2)

namespace Tells

variable {flaw other : Place → Defect → Prop} {defects more : List Defect}

theorem imp_iff (told : Tells flaw defects) (same : ∀ p d, flaw p d ↔ other p d) :
    Tells other defects := by
  obtain ⟨found, sorted, exact, rfl⟩ := told
  exact ⟨found, sorted, fun p d => (exact p d).trans (same p d), rfl⟩

theorem eq_nil_iff (told : Tells flaw defects) : defects = [] ↔ ∀ p d, ¬ flaw p d := by
  obtain ⟨found, -, exact, rfl⟩ := told
  rw [List.map_eq_nil_iff, List.eq_nil_iff_forall_not_mem]
  simp only [Prod.forall, exact]

theorem count_eq_zero (told : Tells flaw defects) (defect : Defect)
    (none : ∀ p, ¬ flaw p defect) : defects.count defect = 0 := by
  obtain ⟨found, -, exact, rfl⟩ := told
  apply List.count_eq_zero.2
  intro listed
  obtain ⟨⟨p, d⟩, there, rfl⟩ := List.mem_map.1 listed
  exact none p ((exact p d).1 there)

theorem nil (none : ∀ p d, ¬ flaw p d) : Tells flaw [] :=
  ⟨[], .nil, fun p d => ⟨by rintro ⟨⟩, fun there => (none p d there).elim⟩, rfl⟩

theorem one (place : Place) (defect : Defect) (wrong : Prop) [Decidable wrong] :
    Tells (fun p d => wrong ∧ p = place ∧ d = defect) (if wrong then [defect] else []) := by
  by_cases h : wrong
  · rw [if_pos h]
    exact ⟨[(place, defect)], List.pairwise_singleton .., by simp [h], rfl⟩
  · rw [if_neg h]
    exact nil fun p d there => h there.1

theorem append (told : Tells flaw defects) (after : Tells other more)
    (order : ∀ p d q e, flaw p d → other q e → p.Before q) :
    Tells (fun p d => flaw p d ∨ other p d) (defects ++ more) := by
  obtain ⟨found, sorted, exact, rfl⟩ := told
  obtain ⟨found', sorted', exact', rfl⟩ := after
  refine ⟨found ++ found', ?_, fun p d => ?_, List.map_append.symm⟩
  · apply List.pairwise_append.2 ⟨sorted, sorted', ?_⟩
    intro a here b there
    exact order a.1 a.2 b.1 b.2 ((exact ..).1 here) ((exact' ..).1 there)
  · rw [List.mem_append, exact, exact']

/-- By induction from the back, where the place of the last item is the length of what is before. -/
theorem each (items : List α) {part : α → List Defect} {flaw : Nat → α → Place → Defect → Prop}
    (told : ∀ (i : Nat) x, items[i]? = some x → Tells (flaw i x) (part x))
    (order : ∀ (i j : Nat) x y p d q e, i < j → items[i]? = some x → items[j]? = some y →
      flaw i x p d → flaw j y q e → p.Before q) :
    Tells (fun p d => ∃ i x, items[i]? = some x ∧ flaw i x p d) (items.flatMap part) := by
  induction items using List.reverseRecOn with
  | nil =>
    apply nil
    rintro p d ⟨i, x, ⟨⟩, -⟩
  | append_singleton items last ih =>
    have before : ∀ (i : Nat) (x : α), items[i]? = some x → (items ++ [last])[i]? = some x := by
      intro i x here
      rwa [List.getElem?_append_left (List.getElem?_eq_some_iff.1 here).1]
    have final : (items ++ [last])[items.length]? = some last := List.getElem?_concat_length
    have front := ih (fun i x here => told i x (before i x here))
      fun i j x y p d q e less here there =>
        order i j x y p d q e less (before i x here) (before j y there)
    have both := front.append (told items.length last final) (by
      rintro p d q e ⟨i, x, here, wrong⟩ wrong'
      have less := (List.getElem?_eq_some_iff.1 here).1
      exact order i items.length x last p d q e less (before i x here) final wrong wrong')
    rw [List.flatMap_append, List.flatMap_singleton]
    apply both.imp_iff
    intro p d
    constructor
    · rintro (⟨i, x, here, wrong⟩ | wrong)
      · exact ⟨i, x, before i x here, wrong⟩
      · exact ⟨items.length, last, final, wrong⟩
    · rintro ⟨i, x, here, wrong⟩
      by_cases inside : i < items.length
      · rw [List.getElem?_append_left inside] at here
        exact .inl ⟨i, x, here, wrong⟩
      · have bound := (List.getElem?_eq_some_iff.1 here).1
        rw [List.length_append, List.length_singleton] at bound
        obtain rfl : i = items.length := by omega
        rw [List.getElem?_concat_length] at here
        cases here
        exact .inr wrong

/-- A list in which the wrong items stand at fault, each at its own place. -/
theorem wrongs (items : List α) (wrong : α → Bool) (defect : α → Defect) (place : Nat → Place)
    (order : ∀ i j, i < j → (place i).Before (place j)) :
    Tells (fun p d => ∃ i x, items[i]? = some x ∧ wrong x = true ∧ p = place i ∧ d = defect x)
      ((items.filter wrong).map defect) := by
  have parts : (items.filter wrong).map defect =
      items.flatMap fun x => if wrong x = true then [defect x] else [] := by
    induction items with
    | nil => rfl
    | cons x items ih =>
      rw [List.flatMap_cons, ← ih, List.filter_cons]
      by_cases h : wrong x = true
      · rw [if_pos h, if_pos h, List.map_cons, List.singleton_append]
      · rw [if_neg h, if_neg h, List.nil_append]
  rw [parts]
  apply each items fun i x _ => one (place i) (defect x) (wrong x = true)
  rintro i j x y p d q e before - - ⟨-, rfl, -⟩ ⟨-, rfl, -⟩
  exact order i j before

theorem extend {n : Nat} (told : Tells (fun p d => flaw p d ∧ p.part < n) defects)
    (next : Tells (fun p d => flaw p d ∧ p.part = n) more) :
    Tells (fun p d => flaw p d ∧ p.part < n + 1) (defects ++ more) := by
  have both := told.append next fun p d q e before after =>
    Place.before_of_part (after.2 ▸ before.2)
  apply both.imp_iff
  intro p d
  rw [Nat.lt_succ_iff_lt_or_eq, and_or_left]

end Tells

/-! ### The parts of a configuration -/

theorem patternDefects_tell (owner : String) (patterns : List String) (place : Nat → Place)
    (order : ∀ i j, i < j → (place i).Before (place j)) :
    Tells (fun p d => ∃ i pattern, patterns[i]? = some pattern ∧
        UrlPattern.isValid pattern = false ∧ p = place i ∧ d = .invalidUrlPattern owner pattern)
      (patternDefects owner patterns) := by
  apply (Tells.wrongs patterns _ _ place order).imp_iff
  intro p d
  simp only [Bool.not_eq_true']

variable (config : Config)

theorem timeout_tell :
    Tells (fun p d => config.Flaw p d ∧ p.part < 1)
      (if config.timeouts.requestSecs = 0 then [.zeroTimeout] else []) := by
  apply (Tells.one .timeout .zeroTimeout (config.timeouts.requestSecs = 0)).imp_iff
  intro p d
  constructor
  · rintro ⟨zero, rfl, rfl⟩
    exact ⟨.timeout zero, Nat.one_pos⟩
  · rintro ⟨wrong, inside⟩
    cases wrong with
    | timeout zero => exact ⟨zero, rfl, rfl⟩
    | _ => simp [Place.part] at inside

/-- A name that stands twice is wrong where it stands again. -/
theorem filters_tell :
    Tells (fun p d => config.Flaw p d ∧ p.part = 1)
      ((repeated (config.filters.map (·.name))).map .duplicateFilter) := by
  have told := Tells.wrongs (config.filters.map (·.name)).zipIdx
    (fun w => w.1 ∈ (config.filters.map (·.name)).take w.2) (fun w => .duplicateFilter w.1)
    Place.filter
    (fun i j before => by simpa [List.cons_lt_cons_iff] using before)
  rw [repeated, List.map_map]
  apply told.imp_iff
  intro p d
  simp only [List.getElem?_zipIdx, List.getElem?_map, Option.map_map, Option.map_eq_some_iff,
    Nat.zero_add, Function.comp_apply, decide_eq_true_eq, ← List.map_take]
  constructor
  · rintro ⟨i, w, ⟨e, here, rfl⟩, twice, rfl, rfl⟩
    exact ⟨.filter here twice, rfl⟩
  · rintro ⟨wrong, inside⟩
    cases wrong with
    | @filter i e here twice => exact ⟨i, (e.name, i), ⟨e, here, rfl⟩, twice, rfl, rfl⟩
    | _ => simp [Place.part] at inside

theorem MappingEntry.defects_tell (i : Nat) (e : MappingEntry) :
    Tells (fun p d =>
        ((e.urlPatterns = [] ∧ e.servletNames = []) ∧ p = .mapping i ∧
          d = .emptyMapping e.filterName) ∨
        (∃ j pattern, e.urlPatterns[j]? = some pattern ∧ UrlPattern.isValid pattern = false ∧
          p = .mappingPattern i j ∧ d = .invalidUrlPattern e.filterName pattern) ∨
        ∃ j word, e.dispatchers[j]? = some word ∧ (∀ d, Dispatcher.parse word ≠ .ok d) ∧
          p = .mappingDispatcher i j ∧ d = .unknownDispatcher e.filterName word)
      e.defects := by
  have empty := Tells.one (.mapping i) (.emptyMapping e.filterName)
    (e.urlPatterns.isEmpty && e.servletNames.isEmpty)
  have patterns := patternDefects_tell e.filterName e.urlPatterns (.mappingPattern i)
    fun j k before => by simpa [List.cons_lt_cons_iff] using before
  have words := Tells.wrongs e.dispatchers (fun d => !(Dispatcher.parse d).isOk)
    (.unknownDispatcher e.filterName) (.mappingDispatcher i)
    fun j k before => by simpa [List.cons_lt_cons_iff] using before
  have all := empty.append (patterns.append words (by
    rintro p d q d' ⟨j, pattern, -, -, rfl, -⟩ ⟨k, word, -, -, rfl, -⟩
    simp [List.cons_lt_cons_iff])) (by
    rintro p d q d' ⟨-, rfl, -⟩ (⟨j, pattern, -, -, rfl, -⟩ | ⟨k, word, -, -, rfl, -⟩) <;>
      simp [List.cons_lt_cons_iff])
  rw [MappingEntry.defects, List.append_assoc]
  apply all.imp_iff
  intro p d
  have unread : ∀ word, (!(Dispatcher.parse word).isOk) = true ↔
      ∀ d, Dispatcher.parse word ≠ .ok d := by
    intro word
    cases Dispatcher.parse word <;> simp [Except.isOk, Except.toBool]
  simp only [unread, Bool.and_eq_true, List.isEmpty_iff]

/-- The names seen so far are those of the servlets before. -/
theorem servletDefects_eq (before rest : List ServletEntry) :
    servletDefects ((before.map (·.name)).reverse) rest =
      (rest.zipIdx before.length).flatMap fun w =>
        (if w.1.name ∈ ((before ++ rest).take w.2).map (·.name) then [.duplicateServlet w.1.name]
          else []) ++ patternDefects w.1.name w.1.urlPatterns := by
  induction rest generalizing before with
  | nil => rfl
  | cons e rest ih =>
    have behind := ih (before ++ [e])
    rw [List.map_append, List.reverse_append, List.append_assoc] at behind
    rw [servletDefects, List.zipIdx_cons, List.flatMap_cons, List.take_left]
    simp only [List.mem_reverse]
    congr 1
    simpa using behind

theorem mappings_tell :
    Tells (fun p d => config.Flaw p d ∧ p.part = 2)
      (config.filterMappings.flatMap MappingEntry.defects) := by
  have told := Tells.each config.filterMappings
    (fun i e _ => MappingEntry.defects_tell i e) (by
      rintro i j e e' p d q d' less - -
        (⟨-, rfl, -⟩ | ⟨k, word, -, -, rfl, -⟩ | ⟨k, word, -, -, rfl, -⟩)
        (⟨-, rfl, -⟩ | ⟨k', word', -, -, rfl, -⟩ | ⟨k', word', -, -, rfl, -⟩) <;>
      simp [List.cons_lt_cons_iff, less])
  apply told.imp_iff
  intro p d
  constructor
  · rintro ⟨i, e, here, ⟨⟨patterns, names⟩, rfl, rfl⟩ | ⟨j, pattern, inside, invalid, rfl, rfl⟩ |
      ⟨j, word, inside, unknown, rfl, rfl⟩⟩
    · exact ⟨.mapping here patterns names, rfl⟩
    · exact ⟨.mappingPattern here inside invalid, rfl⟩
    · exact ⟨.mappingDispatcher here inside unknown, rfl⟩
  · rintro ⟨wrong, part⟩
    cases wrong with
    | @mapping i e here patterns names =>
      exact ⟨i, e, here, .inl ⟨⟨patterns, names⟩, rfl, rfl⟩⟩
    | @mappingPattern i j e pattern here inside invalid =>
      exact ⟨i, e, here, .inr (.inl ⟨j, pattern, inside, invalid, rfl, rfl⟩)⟩
    | @mappingDispatcher i j e word here inside unknown =>
      exact ⟨i, e, here, .inr (.inr ⟨j, word, inside, unknown, rfl, rfl⟩)⟩
    | _ => simp [Place.part] at part

theorem servlets_tell :
    Tells (fun p d => config.Flaw p d ∧ p.part = 3) (servletDefects [] config.servlets) := by
  have entry := fun (w : ServletEntry × Nat) =>
    (Tells.one (.servlet w.2) (.duplicateServlet w.1.name)
      (w.1.name ∈ (config.servlets.take w.2).map (·.name))).append
    (patternDefects_tell w.1.name w.1.urlPatterns (.servletPattern w.2)
      fun j k before => by simpa [List.cons_lt_cons_iff] using before) (by
    rintro p d q d' ⟨-, rfl, -⟩ ⟨j, pattern, -, -, rfl, -⟩
    simp [List.cons_lt_cons_iff])
  have told := Tells.each config.servlets.zipIdx (fun i w _ => entry w) (by
    intro i j w w' p d q d' less here there
    rw [List.getElem?_zipIdx, Option.map_eq_some_iff] at here there
    obtain ⟨e, -, rfl⟩ := here
    obtain ⟨e', -, rfl⟩ := there
    rintro (⟨-, rfl, -⟩ | ⟨k, pattern, -, -, rfl, -⟩)
      (⟨-, rfl, -⟩ | ⟨k', pattern', -, -, rfl, -⟩) <;>
      simp [List.cons_lt_cons_iff, less])
  have parts := servletDefects_eq [] config.servlets
  rw [List.map_nil, List.reverse_nil, List.length_nil, List.nil_append] at parts
  rw [parts]
  apply told.imp_iff
  intro p d
  simp only [List.getElem?_zipIdx, Option.map_eq_some_iff, Nat.zero_add]
  constructor
  · rintro ⟨i, w, ⟨e, here, rfl⟩, ⟨twice, rfl, rfl⟩ | ⟨j, pattern, inside, invalid, rfl, rfl⟩⟩
    · exact ⟨.servlet here twice, rfl⟩
    · exact ⟨.servletPattern here inside invalid, rfl⟩
  · rintro ⟨wrong, part⟩
    cases wrong with
    | @servlet i e here twice => exact ⟨i, (e, i), ⟨e, here, rfl⟩, .inl ⟨twice, rfl, rfl⟩⟩
    | @servletPattern i j e pattern here inside invalid =>
      exact ⟨i, (e, i), ⟨e, here, rfl⟩, .inr ⟨j, pattern, inside, invalid, rfl, rfl⟩⟩
    | _ => simp [Place.part] at part

theorem default_tell : Tells (fun p d => config.Flaw p d ∧ p.part = 4) config.defaultDefects := by
  unfold defaultDefects
  cases given : config.defaultServlet with
  | none =>
    apply Tells.nil
    rintro p d ⟨wrong, part⟩
    cases wrong with
    | default named => exact absurd (given.symm.trans named) (by rintro ⟨⟩)
    | _ => simp [Place.part] at part
  | some name =>
    have told := Tells.one .default (.unknownDefaultServlet name)
      (¬ (config.servlets.any fun s => s.name == name) = true)
    rw [ite_not] at told
    apply told.imp_iff
    have declared : (config.servlets.any fun s => s.name == name) = true ↔
        name ∈ config.servlets.map (·.name) := by simp
    intro p d
    rw [declared]
    constructor
    · rintro ⟨undeclared, rfl, rfl⟩
      exact ⟨.default given undeclared, rfl⟩
    · rintro ⟨wrong, part⟩
      cases wrong with
      | default named undeclared =>
        obtain rfl := Option.some.inj (given.symm.trans named)
        exact ⟨undeclared, rfl, rfl⟩
      | _ => simp [Place.part] at part

/-! ### The whole -/

theorem defects_tell : Tells config.Flaw config.defects := by
  have told := ((((timeout_tell config).extend (filters_tell config)).extend
    (mappings_tell config)).extend (servlets_tell config)).extend (default_tell config)
  apply told.imp_iff
  intro p d
  have five : p.part < 5 := by cases p <;> simp [Place.part]
  exact and_iff_left five

theorem nodup_iff_take {words : List String} :
    words.Nodup ↔ ∀ (i : Nat) word, words[i]? = some word → word ∉ words.take i := by
  rw [List.Nodup, List.pairwise_iff_getElem]
  constructor
  · intro distinct i word here twice
    obtain ⟨hi, rfl⟩ := List.getElem?_eq_some_iff.1 here
    obtain ⟨j, hj, same⟩ := List.mem_take_iff_getElem.1 twice
    exact distinct j i (by omega) hi (by omega) same
  · intro once i j hi hj before same
    apply once j words[j] (List.getElem?_eq_getElem hj)
    exact List.mem_take_iff_getElem.2 ⟨i, by omega, same⟩

/-- Nothing is wrong with a configuration that keeps the rules, and only with such a one. -/
theorem wellFormed_iff : config.WellFormed ↔ ∀ p d, ¬ config.Flaw p d := by
  constructor
  · intro rules p d wrong
    cases wrong with
    | timeout zero => exact rules.timeout zero
    | filter here twice =>
      rw [List.map_take] at twice
      exact nodup_iff_take.1 rules.filters _ _ (by rw [List.getElem?_map, here]; rfl) twice
    | mapping here patterns names =>
      exact (rules.mappings _ (List.mem_of_getElem? here)).elim (· patterns) (· names)
    | mappingPattern here inside invalid =>
      have listed := List.mem_of_getElem? here
      rw [rules.mappingPatterns _ listed _ (List.mem_of_getElem? inside)] at invalid
      cases invalid
    | mappingDispatcher here inside unknown =>
      obtain ⟨d, parsed⟩ :=
        rules.dispatchers _ (List.mem_of_getElem? here) _ (List.mem_of_getElem? inside)
      exact unknown d parsed
    | servlet here twice =>
      rw [List.map_take] at twice
      exact nodup_iff_take.1 rules.servlets _ _ (by rw [List.getElem?_map, here]; rfl) twice
    | servletPattern here inside invalid =>
      have listed := List.mem_of_getElem? here
      rw [rules.servletPatterns _ listed _ (List.mem_of_getElem? inside)] at invalid
      cases invalid
    | default given undeclared => exact undeclared (rules.default _ given)
  · intro none
    have names : ∀ {α : Type} (f : α → String) (l : List α),
        (∀ (i : Nat) x, l[i]? = some x → f x ∉ (l.take i).map f) → (l.map f).Nodup := by
      intro α f l once
      apply nodup_iff_take.2
      intro i word here
      rw [List.getElem?_map, Option.map_eq_some_iff] at here
      obtain ⟨x, here, rfl⟩ := here
      rw [← List.map_take]
      exact once i x here
    refine ⟨fun zero => none _ _ (.timeout zero), names _ _ fun i e here twice =>
      none _ _ (.filter here twice), names _ _ fun i e here twice =>
      none _ _ (.servlet here twice), fun e listed => ?_, fun e listed p inside => ?_,
      fun e listed word inside => ?_, fun e listed p inside => ?_, fun name given => ?_⟩
    · obtain ⟨i, here⟩ := List.getElem?_of_mem listed
      by_contra neither
      rw [not_or, not_not, not_not] at neither
      exact none _ _ (.mapping here neither.1 neither.2)
    · obtain ⟨i, here⟩ := List.getElem?_of_mem listed
      obtain ⟨j, inside⟩ := List.getElem?_of_mem inside
      by_contra invalid
      exact none _ _ (.mappingPattern here inside (Bool.eq_false_iff.2 invalid))
    · obtain ⟨i, here⟩ := List.getElem?_of_mem listed
      obtain ⟨j, inside⟩ := List.getElem?_of_mem inside
      by_contra unknown
      exact none _ _ (.mappingDispatcher here inside fun d parsed => unknown ⟨d, parsed⟩)
    · obtain ⟨i, here⟩ := List.getElem?_of_mem listed
      obtain ⟨j, inside⟩ := List.getElem?_of_mem inside
      by_contra invalid
      exact none _ _ (.servletPattern here inside (Bool.eq_false_iff.2 invalid))
    · by_contra undeclared
      exact none _ _ (.default given undeclared)

/-! ### How often a name is told -/

theorem count_repeated (words : List String) (word : String) :
    (repeated words).count word = words.count word - 1 := by
  induction words using List.reverseRecOn with
  | nil => rfl
  | append_singleton words last ih =>
    have grown : repeated (words ++ [last]) =
        repeated words ++ if last ∈ words then [last] else [] := by
      have front : (words.zipIdx.filter fun w => w.1 ∈ (words ++ [last]).take w.2) =
          words.zipIdx.filter fun w => w.1 ∈ words.take w.2 := by
        apply List.filter_congr
        intro w inside
        have less : w.2 < words.length :=
          (List.getElem?_eq_some_iff.1 (List.mk_mem_zipIdx_iff_getElem?.1 inside)).1
        rw [List.take_append_of_le_length (Nat.le_of_lt less)]
      simp only [repeated]
      rw [List.zipIdx_append, List.filter_append, List.map_append, front, Nat.zero_add,
        List.zipIdx_singleton, List.filter_singleton, List.take_left]
      by_cases twice : last ∈ words <;> simp [twice]
    rw [grown, List.count_append, List.count_append, ih]
    by_cases twice : last ∈ words
    · rw [if_pos twice]
      by_cases same : last = word
      · subst same
        have some_ := List.count_pos_iff.2 twice
        simp
        omega
      · simp [same]
    · rw [if_neg twice]
      by_cases same : last = word
      · subst same
        simp [List.count_eq_zero.2 twice]
      · simp [same]

theorem count_servletDefects (seen : List String) (servlets : List ServletEntry) (name : String) :
    (servletDefects seen servlets).count (.duplicateServlet name) =
      (servlets.map (·.name)).count name - if name ∈ seen then 0 else 1 := by
  induction servlets generalizing seen with
  | nil => simp [servletDefects]
  | cons e rest ih =>
    have patterns : (patternDefects e.name e.urlPatterns).count (.duplicateServlet name) = 0 := by
      simp [List.count_eq_zero, patternDefects]
    rw [servletDefects, List.count_append, List.count_append, ih, patterns, List.map_cons,
      List.count_cons]
    by_cases same : e.name = name
    · subst same
      by_cases twice : e.name ∈ seen
      · simp [twice, Nat.add_comm]
      · simp [twice]
    · have other : name ∈ e.name :: seen ↔ name ∈ seen := by simp [Ne.symm same]
      by_cases twice : e.name ∈ seen <;> simp [twice, same, other]

/-- What is told of names is told of the filters or of the servlets. -/
theorem count_names {defect : Defect}
    (own : ∀ p, config.Flaw p defect → p.part = 1 ∨ p.part = 3) :
    config.defects.count defect =
      ((repeated (config.filters.map (·.name))).map .duplicateFilter).count defect +
        (servletDefects [] config.servlets).count defect := by
  have timeout := (timeout_tell config).count_eq_zero defect
    fun p there => absurd (own p there.1) (by omega)
  have mappings := (mappings_tell config).count_eq_zero defect
    fun p there => absurd (own p there.1) (by omega)
  have default := (default_tell config).count_eq_zero defect
    fun p there => absurd (own p there.1) (by omega)
  rw [defects, List.count_append, List.count_append, List.count_append, List.count_append, timeout,
    mappings, default]
  omega

theorem count_duplicateFilter (name : String) :
    config.defects.count (.duplicateFilter name) =
      (config.filters.map (·.name)).count name - 1 := by
  have own : ∀ p, config.Flaw p (.duplicateFilter name) → p.part = 1 := by
    intro p wrong
    cases wrong
    rfl
  have servlets := (servlets_tell config).count_eq_zero (.duplicateFilter name)
    fun p there => absurd (own p there.1) (by omega)
  have injective : Function.Injective Defect.duplicateFilter :=
    fun a b => Defect.duplicateFilter.inj
  rw [count_names config fun p wrong => .inl (own p wrong), servlets,
    List.count_map_of_injective _ _ injective, count_repeated]
  rfl

theorem count_duplicateServlet (name : String) :
    config.defects.count (.duplicateServlet name) =
      (config.servlets.map (·.name)).count name - 1 := by
  have own : ∀ p, config.Flaw p (.duplicateServlet name) → p.part = 3 := by
    intro p wrong
    cases wrong
    rfl
  have filters := (filters_tell config).count_eq_zero (.duplicateServlet name)
    fun p there => absurd (own p there.1) (by omega)
  rw [count_names config fun p wrong => .inr (own p wrong), filters, count_servletDefects,
    if_neg List.not_mem_nil, Nat.zero_add]

/-- The validation accepts just the configurations that keep the rules. What it tells of another one
is each flaw once, in the order of the places: a name given k times is told k - 1 times. -/
theorem validate_exact :
    (config.WellFormed ∧ config.validate = .ok config ∨
      ¬ config.WellFormed ∧ config.validate = .error (.invalid config.defects)) ∧
    (config.defects = [] ↔ config.WellFormed) ∧
    Tells config.Flaw config.defects ∧
    (∀ name, config.defects.count (.duplicateFilter name) =
      (config.filters.map (·.name)).count name - 1) ∧
    ∀ name, config.defects.count (.duplicateServlet name) =
      (config.servlets.map (·.name)).count name - 1 := by
  have clean : config.defects = [] ↔ config.WellFormed :=
    (defects_tell config).eq_nil_iff.trans (wellFormed_iff config).symm
  refine ⟨?_, clean, defects_tell config, count_duplicateFilter config,
    count_duplicateServlet config⟩
  rw [← clean, validate]
  cases config.defects with
  | nil => exact .inl ⟨rfl, rfl⟩
  | cons d rest => exact .inr ⟨List.cons_ne_nil d rest, rfl⟩

example :
    ({ timeouts := ⟨0⟩, filters := [⟨"A", "tag", none, {}⟩, ⟨"A", "tag", none, {}⟩]
       filterMappings := [⟨"A", ["nope", "/a*"], [], ["request", "SOMETIMES"]⟩, ⟨"B", [], [], []⟩]
       servlets := [⟨"s", "echo", ["/"], false, {}⟩, ⟨"s", "echo", ["x"], false, {}⟩]
       defaultServlet := some "t" } : Config).defects =
      [.zeroTimeout, .duplicateFilter "A", .invalidUrlPattern "A" "nope",
        .invalidUrlPattern "A" "/a*", .unknownDispatcher "A" "SOMETIMES", .emptyMapping "B",
        .duplicateServlet "s", .invalidUrlPattern "s" "x", .unknownDefaultServlet "t"] := by
  decide

end Config

end ServletFilters
