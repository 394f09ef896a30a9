import Mathlib.Data.List.Induction
import ServletFilters.Routing.Resolution

/-!
What mapping entries select, read off the entries themselves, and the rank of a selected name:
by path before by servlet name, and earlier entries before later ones. `resolve_ranked` shows
that resolving the compiled entries lists the selected names in the order of their ranks.
-/

namespace ServletFilters

namespace Config.MappingEntry

def appliesTo (e : MappingEntry) (d : Dispatcher) : Bool :=
  if e.dispatchers = [] then d = .request
  else e.dispatchers.any fun text => Text.equalFold (Text.trim text) d.name

/-- Whether the entry applies and selects by path; a star also selects requests without one. -/
def selectsByPath (e : MappingEntry) (d : Dispatcher) (path : Option String) : Bool :=
  e.appliesTo d && (e.urlPatterns.contains "*" ||
    path.any fun p => e.urlPatterns.any fun pattern => UrlPattern.accepts pattern p)

def selectsByServlet (e : MappingEntry) (d : Dispatcher) (servlet : String) : Bool :=
  e.appliesTo d && (e.servletNames.contains "*" || e.servletNames.contains servlet)

def Selects (entries : List MappingEntry) (d : Dispatcher) (path : Option String)
    (servlet filter : String) : Prop :=
  ∃ e ∈ entries, e.filterName = filter ∧ (e.selectsByPath d path ∨ e.selectsByServlet d servlet)

/-- The place of the first entry for a filter that passes a test. -/
def firstPlace (entries : List MappingEntry) (test : MappingEntry → Bool) (filter : String) : Nat :=
  entries.findIdx fun e => test e && e.filterName == filter

/-- The rank of a filter: the place of the first entry that selects it by path, or, behind all
of those, of the first that selects it by servlet name. -/
def rank (entries : List MappingEntry) (d : Dispatcher) (path : Option String)
    (servlet filter : String) : Nat × Nat :=
  if ∃ e ∈ entries, e.filterName = filter ∧ e.selectsByPath d path then
    (0, firstPlace entries (·.selectsByPath d path) filter)
  else (1, firstPlace entries (·.selectsByServlet d servlet) filter)

abbrev Before (a b : Nat × Nat) : Prop := Prod.Lex (· < ·) (· < ·) a b

theorem before_asymm {a b : Nat × Nat} (h : Before a b) : ¬ Before b a := by
  simp only [Before, Prod.lex_def] at h ⊢
  omega

end Config.MappingEntry

open Config

/-! ### What compiling keeps -/

theorem Selection.any_ofWords (words : List String) (test : String → Bool) :
    (Selection.ofWords words).any test = (words.contains "*" || words.any test) := by
  rw [Selection.ofWords_eq]
  by_cases star : "*" ∈ words <;> simp [Selection.any, star]

theorem mapM_cons_ok {α β ε : Type} {f : α → Except ε β} {a : α} {rest : List α} {out : List β}
    (h : (a :: rest).mapM f = .ok out) :
    ∃ b others, f a = .ok b ∧ rest.mapM f = .ok others ∧ out = b :: others := by
  rw [List.mapM_cons] at h
  cases first : f a with
  | error e => simp [first, bind, Except.bind] at h
  | ok b =>
    cases tail : rest.mapM f with
    | error e => simp [first, tail, bind, Except.bind] at h
    | ok others =>
      simp only [first, tail, bind, Except.bind, pure, Except.pure, Except.ok.injEq] at h
      exact ⟨b, others, rfl, rfl, h.symm⟩

theorem mapM_parse_any {names : List String} {kinds : List Dispatcher} (d : Dispatcher)
    (h : names.mapM Dispatcher.parse = .ok kinds) :
    decide (d ∈ kinds) = names.any fun text => Text.equalFold (Text.trim text) d.name := by
  induction names generalizing kinds with
  | nil =>
    obtain rfl : [] = kinds := by simpa [pure, Except.pure] using h
    simp
  | cons text rest ih =>
    obtain ⟨kind, others, parsed, tail, rfl⟩ := mapM_cons_ok h
    have head : decide (d = kind) = Text.equalFold (Text.trim text) d.name := by
      rw [Bool.eq_iff_iff, decide_eq_true_iff, Text.equalFold_iff, ← Dispatcher.parse_eq_ok_iff,
        parsed, Except.ok.injEq, eq_comm]
    simp only [List.mem_cons, Bool.decide_or, List.any_cons, head, ih tail]

theorem ofEntry_selects {e : MappingEntry} {m : FilterMapping} (h : FilterMapping.ofEntry e = .ok m)
    (d : Dispatcher) (path : Option String) (servlet : String) :
    m.filterName = e.filterName ∧
      (m.appliesTo d && m.selectsPath path) = e.selectsByPath d path ∧
      (m.appliesTo d && m.selectsServlet (some servlet)) = e.selectsByServlet d servlet := by
  unfold FilterMapping.ofEntry at h
  cases parsed : e.dispatchers.mapM Dispatcher.parse with
  | error error => simp [parsed, bind, Except.bind] at h
  | ok kinds =>
    have empty : kinds = [] ↔ e.dispatchers = [] := by
      constructor
      · rintro rfl
        cases listed : e.dispatchers with
        | nil => rfl
        | cons text rest =>
          rw [listed] at parsed
          obtain ⟨_, _, -, -, impossible⟩ := mapM_cons_ok parsed
          cases impossible
      · intro none
        rw [none] at parsed
        simpa [pure, Except.pure, eq_comm] using parsed
    simp only [parsed, bind, Except.bind, pure, Except.pure, Except.ok.injEq] at h
    subst h
    have applies : (DispatcherSet.ofList kinds).contains d = e.appliesTo d := by
      rw [DispatcherSet.contains_ofList, MappingEntry.appliesTo, ← mapM_parse_any d parsed]
      simp only [empty]
    refine ⟨rfl, ?_, ?_⟩
    · simp only [FilterMapping.appliesTo, applies, MappingEntry.selectsByPath]
      congr 1
      cases path with
      | some p => simp only [FilterMapping.selectsPath, Selection.any_ofWords, Option.any_some]
      | none =>
        simp only [FilterMapping.selectsPath, Selection.ofWords_eq, Option.any_none, Bool.or_false]
        by_cases star : "*" ∈ e.urlPatterns <;> simp [star]
    · simp only [FilterMapping.appliesTo, applies, MappingEntry.selectsByServlet,
        FilterMapping.selectsServlet, Selection.any_ofWords]
      congr 2
      rw [Bool.eq_iff_iff]
      simp

/-- The names that the compiled entries select by a test are those that the entries select. -/
theorem selected_names {entries : List MappingEntry} {mappings : List FilterMapping}
    (test : FilterMapping → Bool) {sign : MappingEntry → Bool}
    (same : ∀ e m, FilterMapping.ofEntry e = .ok m → m.filterName = e.filterName ∧ test m = sign e)
    (h : entries.mapM FilterMapping.ofEntry = .ok mappings) :
    (mappings.filter test).map (·.filterName) = (entries.filter sign).map (·.filterName) := by
  induction entries generalizing mappings with
  | nil =>
    obtain rfl : [] = mappings := by simpa [pure, Except.pure] using h
    rfl
  | cons e rest ih =>
    obtain ⟨m, others, compiled, tail, rfl⟩ := mapM_cons_ok h
    obtain ⟨name, sign⟩ := same e m compiled
    rw [List.filter_cons, List.filter_cons, sign]
    split
    · rw [List.map_cons, List.map_cons, name, ih tail]
    · exact ih tail

/-! ### The order of first occurrences -/

theorem firsts_append_single (words : List String) (w : String) :
    firsts (words ++ [w]) = if w ∈ firsts words then firsts words else firsts words ++ [w] := by
  rw [firsts, List.foldl_append, List.foldl_cons, List.foldl_nil]
  rfl

/-- Names without repetitions stand in the order in which they occur first. -/
theorem firsts_pairwise (words : List String) :
    (firsts words).Pairwise fun a b => words.idxOf a < words.idxOf b := by
  induction words using List.reverseRecOn with
  | nil => exact List.Pairwise.nil
  | append_singleton words w ih =>
    have stable : ∀ a ∈ firsts words, (words ++ [w]).idxOf a = words.idxOf a := by
      intro a member
      rw [List.idxOf_append, if_pos (mem_firsts.1 member)]
    have kept : (firsts words).Pairwise fun a b => (words ++ [w]).idxOf a < (words ++ [w]).idxOf b :=
      ih.imp_of_mem fun {a b} ha hb h => by rwa [stable a ha, stable b hb]
    rw [firsts_append_single]
    split
    · exact kept
    · rename_i absent
      refine List.pairwise_append.2 ⟨kept, List.pairwise_singleton _ _, ?_⟩
      intro a ha b hb
      obtain rfl := List.mem_singleton.1 hb
      have inside := List.idxOf_lt_length_iff.2 (mem_firsts.1 ha)
      rw [stable a ha, List.idxOf_append, if_neg (fun h => absent (mem_firsts.2 h))]
      omega

theorem mem_selected_names {entries : List MappingEntry} {test : MappingEntry → Bool} {x : String} :
    x ∈ (entries.filter test).map (·.filterName) ↔ ∃ e ∈ entries, e.filterName = x ∧ test e := by
  simp only [List.mem_map, List.mem_filter]
  constructor
  · rintro ⟨e, ⟨member, holds⟩, name⟩
    exact ⟨e, member, name, holds⟩
  · rintro ⟨e, member, name, holds⟩
    exact ⟨e, ⟨member, holds⟩, name⟩

/-- Among selected names, the earlier one has the earlier first entry. -/
theorem firstPlace_lt {entries : List MappingEntry} {test : MappingEntry → Bool} {x y : String}
    (h : ((entries.filter test).map (·.filterName)).idxOf x <
      ((entries.filter test).map (·.filterName)).idxOf y) :
    MappingEntry.firstPlace entries test x < MappingEntry.firstPlace entries test y := by
  unfold MappingEntry.firstPlace
  induction entries with
  | nil => simp at h
  | cons e rest ih =>
    rw [List.findIdx_cons, List.findIdx_cons]
    cases holds : test e with
    | false =>
      rw [List.filter_cons_of_neg (by simp [holds])] at h
      simpa using ih h
    | true =>
      rw [List.filter_cons_of_pos holds, List.map_cons, List.idxOf_cons, List.idxOf_cons] at h
      simp only [Bool.true_and]
      cases hx : e.filterName == x <;> cases hy : e.filterName == y <;>
        simp only [hx, hy, cond_true, cond_false, Nat.add_lt_add_iff_right] at h ⊢
      · exact ih h
      all_goals omega

/-- Names that come earlier in the two passes have the smaller rank. -/
theorem rank_lt {entries : List MappingEntry} {d : Dispatcher} {path : Option String}
    {servlet x y : String}
    (h : ((entries.filter (·.selectsByPath d path)).map (·.filterName) ++
        (entries.filter (·.selectsByServlet d servlet)).map (·.filterName)).idxOf x <
      ((entries.filter (·.selectsByPath d path)).map (·.filterName) ++
        (entries.filter (·.selectsByServlet d servlet)).map (·.filterName)).idxOf y) :
    MappingEntry.Before (MappingEntry.rank entries d path servlet x)
      (MappingEntry.rank entries d path servlet y) := by
  simp only [List.idxOf_append, mem_selected_names] at h
  unfold MappingEntry.rank
  split at h <;> rename_i hx
  · rw [if_pos hx]
    split at h <;> rename_i hy
    · rw [if_pos hy]
      exact Prod.Lex.right 0 (firstPlace_lt h)
    · rw [if_neg hy]
      exact Prod.Lex.left _ _ (by omega)
  · rw [if_neg hx]
    split at h <;> rename_i hy
    · have inside := List.idxOf_lt_length_iff.2 (mem_selected_names.2 hy)
      omega
    · rw [if_neg hy]
      exact Prod.Lex.right 1 (firstPlace_lt (by omega))

/-- Resolving compiled entries lists the selected names once each, in the order of their
ranks. -/
theorem resolve_ranked {entries : List MappingEntry} {mappings : List FilterMapping}
    (compiled : entries.mapM FilterMapping.ofEntry = .ok mappings) (d : Dispatcher)
    (path : Option String) (servlet : String) :
    (resolve mappings d path (some servlet)).Nodup ∧
      (∀ x, x ∈ resolve mappings d path (some servlet) ↔
        MappingEntry.Selects entries d path servlet x) ∧
      (resolve mappings d path (some servlet)).Pairwise fun a b =>
        MappingEntry.Before (MappingEntry.rank entries d path servlet a)
          (MappingEntry.rank entries d path servlet b) := by
  have byPath := selected_names (fun m => m.selectsPath path && m.appliesTo d)
    (fun e m h => by
      obtain ⟨name, path, -⟩ := ofEntry_selects h d path servlet
      exact ⟨name, by rw [Bool.and_comm, path]⟩) compiled
  have byName := selected_names (fun m => m.selectsServlet (some servlet) && m.appliesTo d)
    (fun e m h => by
      obtain ⟨name, -, servlet⟩ := ofEntry_selects h d path servlet
      exact ⟨name, by rw [Bool.and_comm, servlet]⟩) compiled
  unfold resolve
  simp only [List.filter_filter, List.map_append, byPath, byName]
  refine ⟨nodup_firsts _, ?_, (firsts_pairwise _).imp rank_lt⟩
  intro x
  rw [mem_firsts, List.mem_append, mem_selected_names, mem_selected_names]
  constructor
  · rintro (⟨e, member, name, holds⟩ | ⟨e, member, name, holds⟩)
    · exact ⟨e, member, name, .inl holds⟩
    · exact ⟨e, member, name, .inr holds⟩
  · rintro ⟨e, member, name, holds | holds⟩
    · exact .inl ⟨e, member, name, holds⟩
    · exact .inr ⟨e, member, name, holds⟩

end ServletFilters
