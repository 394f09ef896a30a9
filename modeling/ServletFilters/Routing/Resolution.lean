import ServletFilters.Routing.FilterMapping

/-!
# Resolution

The filters that a request passes, in order: first those selected by path, then those selected
by servlet name, each in the order of the mappings, and each filter once.
-/

namespace ServletFilters

/-- The words of a list without repetitions, each where it stands first. -/
def firsts (words : List String) : List String :=
  words.foldl (fun seen w => if w ∈ seen then seen else seen ++ [w]) []

/-- The names of the filters that apply, in the order in which they run. -/
def resolve (mappings : List FilterMapping) (dispatcher : Dispatcher) (path servlet : Option String) :
    List String :=
  let applicable := mappings.filter (·.appliesTo dispatcher)
  let byPath := applicable.filter (·.selectsPath path)
  let byName := applicable.filter (·.selectsServlet servlet)
  firsts ((byPath ++ byName).map (·.filterName))

theorem mem_foldl_firsts (words start : List String) (w : String) :
    w ∈ words.foldl (fun seen x => if x ∈ seen then seen else seen ++ [x]) start ↔
      w ∈ start ∨ w ∈ words := by
  induction words generalizing start with
  | nil => simp
  | cons x rest ih =>
    rw [List.foldl_cons, ih]
    by_cases h : x ∈ start <;> grind

@[simp] theorem mem_firsts {words : List String} {w : String} : w ∈ firsts words ↔ w ∈ words := by
  simp [firsts, mem_foldl_firsts]

theorem nodup_foldl_firsts (words start : List String) (h : start.Nodup) :
    (words.foldl (fun seen x => if x ∈ seen then seen else seen ++ [x]) start).Nodup := by
  induction words generalizing start with
  | nil => exact h
  | cons x rest ih =>
    rw [List.foldl_cons]
    apply ih
    split
    · exact h
    · rename_i absent
      exact List.nodup_append.2 ⟨h, by simp, by
        intro a ha b hb
        simp only [List.mem_singleton] at hb
        exact fun same => absent (hb ▸ same ▸ ha)⟩

theorem nodup_firsts (words : List String) : (firsts words).Nodup :=
  nodup_foldl_firsts words [] List.nodup_nil

end ServletFilters
