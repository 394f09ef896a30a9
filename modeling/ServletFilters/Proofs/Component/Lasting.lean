import ServletFilters.Proofs.Component.Accounts

/-!
Numbers that stand for nothing. A number may be in use, as that of a component which was constructed
and given to no registry, and yet stand for nothing in the journal. Nothing that a container does
changes that later: what comes to stand for something has a new number.
-/

namespace ServletFilters

/-- The journal goes on, and of the numbers that were in use only those stand for something that did
so before. -/
structure Lasting (s t : Container) : Prop where
  journal : s.journal <:+ t.journal
  numbers : s.nextSerial ≤ t.nextSerial
  told : ∀ {n role}, Has t.journal n role → n < s.nextSerial → ∃ before, Has s.journal n before

namespace Lasting

variable {s t u : Container}

theorem refl (s : Container) : Lasting s s :=
  ⟨List.suffix_rfl, Nat.le_refl _, fun has _ => ⟨_, has⟩⟩

theorem trans (h₁ : Lasting s t) (h₂ : Lasting t u) : Lasting s u := by
  refine ⟨h₁.journal.trans h₂.journal, Nat.le_trans h₁.numbers h₂.numbers, ?_⟩
  intro n role has used
  obtain ⟨before, has⟩ := h₂.told has (Nat.lt_of_lt_of_le used h₁.numbers)
  exact h₁.told has used

theorem of_alike (alike : Alike s.journal t.journal) (journal : s.journal <:+ t.journal)
    (numbers : s.nextSerial ≤ t.nextSerial) : Lasting s t :=
  ⟨journal, numbers, fun has _ => ⟨_, alike.has.1 has⟩⟩

theorem untold {e : Event} (untold : e.roles = []) (journal : t.journal = e :: s.journal)
    (numbers : s.nextSerial ≤ t.nextSerial) : Lasting s t := by
  refine ⟨journal ▸ List.suffix_cons .., numbers, ?_⟩
  intro n role has _
  rw [journal, has_cons_of_untold untold] at has
  exact ⟨role, has⟩

theorem same (journal : t.journal = s.journal) (numbers : s.nextSerial ≤ t.nextSerial) :
    Lasting s t :=
  ⟨journal ▸ List.suffix_rfl, numbers, fun has _ => ⟨_, journal ▸ has⟩⟩

/-- What stands for nothing while its number is in use goes on standing for nothing. -/
theorem unclaimed (h : Lasting s t) {n : Nat} (used : n < s.nextSerial)
    (free : ∀ role, ¬ Has s.journal n role) (role : Role) : ¬ Has t.journal n role := by
  intro has
  obtain ⟨before, earlier⟩ := h.told has used
  exact free before earlier

end Lasting

theorem Quiet.lasting {s t : Container} (h : Quiet s t) : Lasting s t :=
  .of_alike h.alike h.journal.suffix h.nextSerial

theorem FilterConfig.release_lasting (f : FilterConfig) (s : Container) :
    Lasting s (f.release s) := by
  unfold FilterConfig.release
  split
  · exact .untold rfl rfl (Nat.le_refl _)
  · exact .refl s

theorem Registry.destroy_lasting (r : Registry) (s : Container) : Lasting s (r.destroy s) := by
  have filters : ∀ (fs : List FilterConfig) (s : Container),
      Lasting s (fs.foldl (fun s f => f.release s) s) := by
    intro fs
    induction fs with
    | nil => exact Lasting.refl
    | cons f rest ih => exact fun s => (f.release_lasting s).trans (ih _)
  have servlets : ∀ (ws : List Wrapper) (s : Container), Lasting s (ws.foldl (fun s w =>
      s.note (.destroyed w.servlet.serial w.servlet.name w.servlet.announced)) s) := by
    intro ws
    induction ws with
    | nil => exact Lasting.refl
    | cons w rest ih =>
      intro s
      have first : Lasting s
          (s.note (.destroyed w.servlet.serial w.servlet.name w.servlet.announced)) :=
        .untold rfl rfl (Nat.le_refl _)
      exact first.trans (ih _)
  exact (filters _ s).trans (servlets _ _)

theorem Registry.hold_lasting (r : Registry) (s : Container) : Lasting s (r.hold s) :=
  .untold rfl rfl (Nat.le_refl _)

theorem Registry.letGo_lasting (r : Registry) (s : Container) : Lasting s (r.letGo s) := by
  have left : Lasting s
      ({ s with holders := s.holders.erase r.serial }.note (.released r.serial)) :=
    .untold rfl rfl (Nat.le_refl _)
  unfold Registry.letGo
  dsimp only
  split
  · exact left
  · exact left.trans (r.destroy_lasting _)

/-- A filter supplies what it has supplied before, or a component with a new number. -/
theorem Accounted.obtain_lasting {others : List Nat} {fresh : Option Nat} {s : Container}
    (h : Accounted others fresh s) {r : Registry} (known : r.Known s.journal) {f : FilterConfig}
    (declared : f ∈ r.filters.values) : Lasting s (f.obtain s).2 := by
  rcases f.obtain_cases s with
    ⟨c, found, given⟩ | ⟨c, t, none, made, given⟩ | ⟨x, t, given, quiet, failed⟩ <;> rw [given]
  · refine ⟨List.suffix_cons .., Nat.le_refl _, ?_⟩
    intro n role has _
    rcases has_cons.1 has with told | has
    · obtain ⟨rfl, -⟩ := Prod.mk.inj (List.mem_singleton.1 told)
      exact ⟨_, (h.living found).1⟩
    · exact ⟨role, has⟩
  · obtain ⟨cls, source⟩ := known.sound.made f declared
    obtain ⟨quiet, new⟩ := f.make_makes source s
    rw [made] at quiet new
    refine ⟨quiet.journal.suffix.trans (List.suffix_cons ..), quiet.nextSerial, ?_⟩
    intro n role has used
    rcases has_cons.1 has with told | has
    · obtain ⟨rfl, -⟩ := Prod.mk.inj (List.mem_singleton.1 told)
      exact absurd used (Nat.not_lt.2 (new c rfl).1)
    · exact quiet.lasting.told has used
  · exact quiet.lasting

/-- A registry that is built has new numbers, and so have its parts. -/
theorem Registry.Numbered.lasting {r : Registry} {middle : Nat} {s t : Container}
    (numbered : r.Numbered s.nextSerial middle t.nextSerial) (quiet : Quiet s t) :
    Lasting s (t.note r.birth) := by
  refine ⟨quiet.journal.suffix.trans (List.suffix_cons ..), quiet.nextSerial, ?_⟩
  intro n role has used
  rcases has_cons.1 has with told | has
  · exact absurd used (Nat.not_lt.2 (numbered.range told).1)
  · exact quiet.lasting.told has used

theorem install_lasting {r : Registry} {middle p : Nat} {s t u v : Container} (quiet : Quiet s t)
    (numbered : r.Numbered s.nextSerial middle t.nextSerial) (more : Quiet (t.note r.birth) u)
    (rebinds : Rebinds p (some r) u v) :
    Lasting s ((r.hold v).note (.installed p r.serial)) := by
  have built := (numbered.lasting quiet).trans more.lasting
  have bound : Lasting u v := .same rebinds.journal rebinds.nextSerial
  have noted : Lasting (r.hold v) ((r.hold v).note (.installed p r.serial)) :=
    .untold rfl rfl (Nat.le_refl _)
  exact ((built.trans bound).trans (r.hold_lasting v)).trans noted

end ServletFilters
