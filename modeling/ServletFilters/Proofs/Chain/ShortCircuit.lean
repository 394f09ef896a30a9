import ServletFilters.Proofs.Chain.SinglePass

/-!
Filters that do not go on. `doFilter_short_circuit` says what is left to happen once a call to go on
is reached below which there are no others.
-/

namespace ServletFilters

namespace Pass

/-- The first call is made within the other one, and the listed calls are those that the components
around it still make after it, until the other one is over. -/
inductive Within (k : Pass) : List Pass → Pass → Prop where
  | self : Within k [] k
  | inside {p q after again} (before : List Pass) : p.further = before ++ q :: after → Within k again q →
      Within k (again ++ after) p

theorem Within.split {k p : Pass} {again : List Pass} (h : Within k again p) :
    ∃ before, p.all = before ++ (k.all ++ allOf again) := by
  induction h with
  | self => exact ⟨[], by rw [List.nil_append, allOf, List.append_nil]⟩
  | @inside p q after again before calls _ ih =>
    obtain ⟨earlier, split⟩ := ih
    obtain ⟨made, further⟩ := p
    obtain rfl : further = before ++ q :: after := calls
    refine ⟨made :: allOf before ++ earlier, ?_⟩
    rw [all, allOf_append, allOf, split, allOf_append]
    simp only [List.append_assoc, List.cons_append]

end Pass

/-- What is left of a traversal once a call to go on is over that made no other: nothing, unless a
component before it goes on again, and that takes the slots behind. -/
theorem doFilter_short_circuit (levels : Nat) {s : Container} (direct : s.chain.executor = none)
    (start : s.chain.position = 0) {new : List Event}
    (journal : (Traversal.doFilter (nestedCalls levels) s).2.journal = new ++ s.journal)
    (unedited : Unedited s.nesting new) :
    moves s.nesting new = s.chain.passes 0 (Traversal.pass levels s).all ∧
      ∀ k again, Pass.Within k again (Traversal.pass levels s) → k.further = [] →
        ∃ before, moves s.nesting new = s.chain.passes 0 before ++
          (s.chain.pass before.length k.made ++
            s.chain.passes (before.length + 1) (Pass.allOf again)) := by
  obtain ⟨-, told⟩ :=
    (doFilter_passed levels ⟨direct, start ▸ Nat.zero_le _⟩).passes new journal unedited
  rw [start] at told
  refine ⟨told, fun k again within ends => ?_⟩
  obtain ⟨before, split⟩ := within.split
  obtain ⟨made, further⟩ := k
  obtain rfl : further = [] := ends
  refine ⟨before, ?_⟩
  rw [told, split, passes_append, Nat.zero_add]
  rfl

/-- A chain of three filters: the first goes on twice, the second does not go on. -/
def obstinateChain : Chain where
  filters := [
    { serial := 1
      definition := { name := "insists", className := "insists" }
      source := .made ⟨false, fun _ _ => .ready (.proceed fun _ => .proceed .finish)⟩ },
    { serial := 2
      definition := { name := "blocks", className := "blocks" }
      source := .made ⟨false, fun _ _ => .ready .done⟩ },
    { serial := 3
      definition := { name := "last", className := "last" }
      source := .made ⟨false, fun _ _ => .ready (.proceed .finish)⟩ }]
  servlet := some { serial := 4, name := "shop", program := .done }

/-- The second filter of that chain does not go on when the first one has gone on to it; the third
filter and the servlet are called all the same, when the first one goes on again. -/
theorem short_circuit_not_final :
    obstinateChain.executor = none ∧ obstinateChain.position = 0 ∧
      Unedited 0 (Traversal.doFilter (nestedCalls 2) { nextSerial := 5, chain := obstinateChain }).2.journal ∧
      (Traversal.pass 2 { nextSerial := 5, chain := obstinateChain }).further.map Pass.all =
        [[some 6], [some 7, some 4]] ∧
      moves 0 (Traversal.doFilter (nestedCalls 2)
          { nextSerial := 5, chain := obstinateChain }).2.journal =
        [.advance (some 0), .supply 1 5, .invoke .filter 5,
          .advance (some 1), .supply 2 6, .invoke .filter 6,
          .advance (some 2), .supply 3 7, .invoke .filter 7,
          .advance none, .invoke .servlet 4] :=
  ⟨rfl, rfl, by decide +kernel, by decide +kernel, by decide +kernel⟩

theorem doFilter_short_circuit_obstinate :
    obstinateChain.executor = none ∧ obstinateChain.position = 0 ∧
      Unedited 0 (Traversal.doFilter (nestedCalls 2) { nextSerial := 5, chain := obstinateChain }).2.journal ∧
      ∃ k again before, k.made = some 6 ∧ k.further = [] ∧
        Pass.Within k again (Traversal.pass 2 { nextSerial := 5, chain := obstinateChain }) ∧
        Pass.allOf again = [some 7, some 4] ∧
        moves 0 (Traversal.doFilter (nestedCalls 2)
            { nextSerial := 5, chain := obstinateChain }).2.journal =
          obstinateChain.passes 0 before ++ (obstinateChain.pass before.length (some 6) ++
            obstinateChain.passes (before.length + 1) [some 7, some 4]) := by
  have unedited : Unedited 0 (Traversal.doFilter (nestedCalls 2)
      { nextSerial := 5, chain := obstinateChain }).2.journal := by decide +kernel
  refine ⟨rfl, rfl, unedited, ?_⟩
  obtain ⟨-, afterwards⟩ := doFilter_short_circuit 2
    (s := { nextSerial := 5, chain := obstinateChain }) rfl rfl (List.append_nil _).symm unedited
  have calls : (Traversal.pass 2 { nextSerial := 5, chain := obstinateChain }).further.map Pass.all =
      [[some 6], [some 7, some 4]] := by decide +kernel
  obtain ⟨k, rest, further, alone, later⟩ := List.map_eq_cons_iff.1 calls
  obtain ⟨q, rest, rfl, repeated, nothing⟩ := List.map_eq_cons_iff.1 later
  obtain rfl := List.map_eq_nil_iff.1 nothing
  obtain ⟨made, ends⟩ := Pass.all_eq_singleton alone
  have within : Pass.Within k [q] (Traversal.pass 2 { nextSerial := 5, chain := obstinateChain }) :=
    .inside [] further .self
  have again : Pass.allOf [q] = [some 7, some 4] := by
    rw [Pass.allOf, repeated]
    rfl
  obtain ⟨before, told⟩ := afterwards k [q] within ends
  rw [made, again] at told
  exact ⟨k, [q], before, made, ends, within, again, told⟩

end ServletFilters
