import ServletFilters.Proofs.Component.Accounts

/-!
Letting go of a registry. The last holder to let go retires it, and all that it owns is destroyed
there and then: its filters as far as they were made, then its servlets. The accounts are right
again when that is done, `Accounted.letGo`.
-/

namespace ServletFilters

/-- Components of a retired registry came to their end, and the books are right but for those
that are still to be destroyed. -/
structure Ending (others : List Nat) (fresh : Option Nat) (s t : Container) : Prop where
  books : Books others fresh t
  journal : Appends (·.isEnd) s t
  instances : ∀ {f c}, t.instances.find? f = some c → s.instances.find? f = some c

namespace Ending

variable {others : List Nat} {fresh : Option Nat} {s t u : Container}

theorem refl (books : Books others fresh s) : Ending others fresh s s := ⟨books, .refl s, id⟩

theorem trans (h₁ : Ending others fresh s t) (h₂ : Ending others fresh t u) :
    Ending others fresh s u :=
  ⟨h₂.books, h₁.journal.trans h₂.journal, fun found => h₁.instances (h₂.instances found)⟩

theorem alike (h : Ending others fresh s t) : Alike s.journal t.journal := by
  obtain ⟨new, journal, ends⟩ := h.journal
  rw [journal]
  refine .append _ fun e he => ?_
  have := ends e he
  cases e <;> first | rfl | cases this

/-- A component of a retired registry that was not destroyed is destroyed, and kept no longer. -/
theorem one (books : Books others fresh s) {r c : Nat} (retired : Retired s.journal r)
    (owns : Owns s.journal r c) (alive : ¬ Destroyed s.journal c) (name : String)
    (announced : Bool) {instances : Dict Nat Component}
    (find : ∀ f d, instances.find? f = some d ↔
      s.instances.find? f = some d ∧ d.serial ≠ c) :
    Ending others fresh s ({ s with instances }.note (.destroyed c name announced)) := by
  have suffix : s.journal <:+ .destroyed c name announced :: s.journal := List.suffix_cons ..
  refine ⟨?_, .note { s with instances } rfl, fun found => ((find _ _).1 found).1⟩
  refine books.renew (.cons _ rfl) suffix (books.ledger.idle ⟨alive, r, owns, retired⟩ rfl)
    (Nat.le_refl _) rfl (fun _ => rfl) ?_ ?_
  · intro f d found
    obtain ⟨before, other⟩ := (find f d).1 found
    refine ⟨before, fun destroyed => ?_⟩
    rcases destroyed_cons.1 destroyed with own | earlier
    · exact other (eq_of_beq own).symm
    · exact (books.living before).2 earlier
  · intro f d before
    by_cases own : d.serial = c
    · exact .inl (destroyed_cons.2 (.inl (beq_iff_eq.2 own.symm)))
    · exact .inr ((find f d).2 ⟨before, own⟩)

end Ending

theorem FilterConfig.release_ending {others : List Nat} {fresh : Option Nat} {s : Container}
    (books : Books others fresh s) {r : Registry} (known : r.Known s.journal)
    (retired : Retired s.journal r.serial) {f : FilterConfig} (member : f ∈ r.filters.values) :
    Ending others fresh s (f.release s) ∧ (f.release s).instances.find? f.serial = none ∧
      ∀ w ∈ r.wrappers, Destroyed (f.release s).journal w.servlet.serial →
        Destroyed s.journal w.servlet.serial := by
  unfold FilterConfig.release
  cases found : s.instances.find? f.serial with
  | none => exact ⟨.refl books, found, fun _ _ => id⟩
  | some c =>
    obtain ⟨made, alive⟩ := books.living found
    have owns : Owns s.journal r.serial c.serial :=
      owns_iff.2 (.inr ⟨f.serial, known.filter member, made⟩)
    have find : ∀ g d, (s.instances.erase f.serial).find? g = some d ↔
        s.instances.find? g = some d ∧ d.serial ≠ c.serial := by
      intro g d
      rw [Dict.find?_erase]
      split
      · rename_i same
        subst same
        rw [found]
        simp +contextual [eq_comm]
      · rename_i other
        refine ⟨fun here => ⟨here, fun same => other ?_⟩, And.left⟩
        exact Role.instanceOf.inj (books.ledger.unique (same ▸ (books.living here).1) made)
    refine ⟨.one books retired owns alive c.name c.announced find, ?_, ?_⟩
    · exact (Dict.find?_erase ..).trans (if_pos rfl)
    · intro w servlet destroyed
      refine (destroyed_cons.1 destroyed).resolve_left fun own => ?_
      have same : c.serial = w.servlet.serial := eq_of_beq own
      cases books.ledger.unique (same ▸ made) (known.servlet servlet)

theorem releases_ending {others : List Nat} {fresh : Option Nat} {r : Registry}
    (fs : List FilterConfig) {s : Container} (books : Books others fresh s)
    (known : r.Known s.journal) (retired : Retired s.journal r.serial)
    (members : ∀ f ∈ fs, f ∈ r.filters.values) :
    Ending others fresh s (fs.foldl (fun s f => f.release s) s) ∧
      (∀ f ∈ fs, (fs.foldl (fun s f => f.release s) s).instances.find? f.serial = none) ∧
      ∀ w ∈ r.wrappers, Destroyed (fs.foldl (fun s f => f.release s) s).journal w.servlet.serial →
        Destroyed s.journal w.servlet.serial := by
  induction fs generalizing s with
  | nil => exact ⟨.refl books, by rintro f ⟨⟩, fun _ _ => id⟩
  | cons f rest ih =>
    obtain ⟨first, gone, spared⟩ :=
      f.release_ending books known retired (members f (List.mem_cons_self ..))
    obtain ⟨later, others, spared'⟩ := ih first.books (known.later first.journal.suffix)
      (first.alike.retired.2 retired) fun g member => members g (List.mem_cons_of_mem _ member)
    refine ⟨first.trans later, ?_, fun w servlet destroyed =>
      spared w servlet (spared' w servlet destroyed)⟩
    intro g member
    rcases List.mem_cons.1 member with rfl | member
    · refine Option.eq_none_iff_forall_ne_some.2 fun c still => ?_
      rw [later.instances still] at gone
      cases gone
    · exact others g member

theorem servlets_ending {others : List Nat} {fresh : Option Nat} {r : Nat} (ws : List Wrapper)
    {s : Container} (books : Books others fresh s) (retired : Retired s.journal r)
    (servlets : ∀ w ∈ ws, Has s.journal w.servlet.serial (.servlet r))
    (alive : ∀ w ∈ ws, ¬ Destroyed s.journal w.servlet.serial)
    (distinct : (ws.map (·.servlet.serial)).Nodup) {t : Container}
    (ended : t = ws.foldl (fun s w =>
      s.note (.destroyed w.servlet.serial w.servlet.name w.servlet.announced)) s) :
    Ending others fresh s t ∧ ∀ w ∈ ws, Destroyed t.journal w.servlet.serial := by
  induction ws generalizing s with
  | nil =>
    subst ended
    exact ⟨.refl books, by rintro w ⟨⟩⟩
  | cons w rest ih =>
    obtain ⟨absent, distinct⟩ := List.nodup_cons.1 distinct
    have servlet := servlets w (List.mem_cons_self ..)
    have first : Ending others fresh s
        (s.note (.destroyed w.servlet.serial w.servlet.name w.servlet.announced)) := by
      refine .one books retired (owns_iff.2 (.inl servlet)) (alive w (List.mem_cons_self ..)) _ _ ?_
      refine fun f c => ⟨fun found => ⟨found, fun same => ?_⟩, And.left⟩
      cases books.ledger.unique (same ▸ (books.living found).1) servlet
    obtain ⟨later, done⟩ := ih first.books (first.alike.retired.2 retired)
      (fun v member => (servlets v (List.mem_cons_of_mem _ member)).later first.journal.suffix)
      (fun v member destroyed => by
        rcases destroyed_cons.1 destroyed with own | earlier
        · exact absent (List.mem_map.2 ⟨v, member, (eq_of_beq own).symm⟩)
        · exact alive v (List.mem_cons_of_mem _ member) earlier)
      distinct ended
    refine ⟨first.trans later, ?_⟩
    intro v member
    rcases List.mem_cons.1 member with rfl | member
    · exact (destroyed_cons.2 (.inl (beq_self_eq_true _))).later later.journal.suffix
    · exact done v member

theorem Registry.destroy_ending {others : List Nat} {fresh : Option Nat} {r : Registry}
    {s : Container} (books : Books others fresh s) (known : r.Known s.journal)
    (retired : Retired s.journal r.serial)
    (alive : ∀ w ∈ r.wrappers, ¬ Destroyed s.journal w.servlet.serial) :
    Ending others fresh s (r.destroy s) ∧
      ∀ c, Owns (r.destroy s).journal r.serial c → Destroyed (r.destroy s).journal c := by
  obtain ⟨first, gone, spared⟩ :=
    releases_ending r.filters.values books known retired fun _ member => member
  obtain ⟨second, servlets⟩ := servlets_ending r.wrappers first.books
    (first.alike.retired.2 retired)
    (fun w member => (known.servlet member).later first.journal.suffix)
    (fun w member destroyed => alive w member (spared w member destroyed)) known.sound.servlets rfl
  have ending : Ending others fresh s (r.destroy s) := first.trans second
  refine ⟨ending, ?_⟩
  intro c owns
  rcases (known.later ending.journal.suffix).owned ending.books.ledger.unique owns with
    ⟨w, member, rfl⟩ | ⟨f, member, made⟩
  · exact servlets w member
  · rcases ending.books.present made with destroyed | ⟨d, found, -⟩
    · exact destroyed
    · have := second.instances found
      rw [gone f member] at this
      cases this

/-- The books after a holder let go of a registry, before anything is destroyed. -/
theorem Accounted.leave {others : List Nat} {fresh : Option Nat} {s : Container} {r : Registry}
    (h : Accounted (r.serial :: others) fresh s) :
    Books others fresh
      ({ s with holders := s.holders.erase r.serial }.note (.released r.serial)) := by
  have has : ∀ {n role}, Has (.released r.serial :: s.journal) n role ↔ Has s.journal n role :=
    has_cons_of_untold rfl
  have holds : ∀ k, List.countP (·.holds k) (.released r.serial :: s.journal) =
      s.journal.countP (·.holds k) := fun _ => List.countP_cons_of_neg Bool.false_ne_true
  have releases : ∀ k, List.countP (·.releases k) (.released r.serial :: s.journal) =
      s.journal.countP (·.releases k) + if r.serial == k then 1 else 0 := fun _ => List.countP_cons
  have holders : ∀ k, (s.holders.erase r.serial).count k =
      s.holders.count k - if r.serial == k then 1 else 0 := fun _ => List.count_erase
  have counted : ∀ k, (r.serial :: others).count k =
      others.count k + if r.serial == k then 1 else 0 := fun _ => List.count_cons
  refine h.after rfl rfl has.1 rfl (h.apart.same (fun _ => rfl) (Nat.le_refl _)) (fun _ => rfl)
    ?_ (fun told => h.below (has.1 told)) ?_ ?_ ?_ ?_
  · refine h.ledger.cons ⟨h.settled, h.going_of_mem (List.mem_cons_self ..)⟩ ?_ ?_ ?_
    · rintro n a ⟨⟩
    · rintro c f ⟨⟩
    · rintro k ⟨⟩
  · intro k
    have balance := h.balance k
    have enough := h.held_le k
    rw [counted] at enough
    change _ = _ + (s.holders.erase r.serial).count k
    rw [holds, releases, holders]
    omega
  · intro k filters servlets built
    rw [holds]
    exact h.held (has.1 built)
  · intro p old bound
    have before := h.bound bound
    rw [counted] at before
    change (s.holders.erase r.serial).count old.serial = _
    rw [holders]
    omega
  · intro k unbound
    have before := h.unbound unbound
    rw [counted] at before
    change (s.holders.erase r.serial).count k = _
    rw [holders]
    omega

/-- Letting go of a registry keeps the accounts: the last holder has all that the registry owns
destroyed, and nothing else is. -/
theorem Accounted.letGo {others : List Nat} {fresh : Option Nat} {s : Container} {r : Registry}
    (h : Accounted (r.serial :: others) fresh s) (known : r.Known s.journal) :
    Accounted others fresh (r.letGo s) := by
  let left := { s with holders := s.holders.erase r.serial }.note (.released r.serial)
  have books : Books others fresh left := h.leave
  have suffix : s.journal <:+ left.journal := List.suffix_cons ..
  have elsewhere : ∀ k, k ≠ r.serial → (Retired left.journal k ↔ Retired s.journal k) :=
    fun k other => retired_cons_of_other ⟨rfl, beq_false_of_ne other.symm⟩
  have spared : ∀ {k c}, k ≠ r.serial → Owns left.journal k c → Retired left.journal k →
      Destroyed left.journal c := by
    intro k c other owns retired
    have owner := (owns_cons_of_untold (e := .released r.serial) rfl).1 owns
    exact (h.settled owner ((elsewhere k other).1 retired)).later suffix
  unfold Registry.letGo
  dsimp only
  split
  · rename_i held
    refine ⟨books, ?_⟩
    intro k c owns retired
    refine spared ?_ owns retired
    rintro rfl
    exact books.going (List.count_pos_iff.2 held) retired
  · rename_i last
    have retired : Retired left.journal r.serial := by
      have none : left.holders.count r.serial = 0 := List.count_eq_zero.2 last
      have balance := books.balance r.serial
      have before := h.balance r.serial
      have held := h.held_le r.serial
      have one : 0 < (r.serial :: others).count r.serial := List.count_pos_iff.2 List.mem_cons_self
      have same : left.journal.countP (·.holds r.serial) = s.journal.countP (·.holds r.serial) :=
        List.countP_cons_of_neg Bool.false_ne_true
      change left.journal.countP _ = left.journal.countP _ + left.holders.count r.serial at balance
      constructor <;> omega
    have alive : ∀ w ∈ r.wrappers, ¬ Destroyed left.journal w.servlet.serial := by
      intro w member destroyed
      have before := (destroyed_cons.1 destroyed).resolve_left Bool.false_ne_true
      exact h.ledger.alive (known.owns_servlet member) (h.going_of_mem (List.mem_cons_self ..)) before
    obtain ⟨ending, all⟩ := Registry.destroy_ending books (known.later suffix) retired alive
    refine ⟨ending.books, ?_⟩
    intro k c owns retires
    by_cases own : k = r.serial
    · subst own
      exact all c owns
    · exact (spared own (ending.alike.owns.1 owns) (ending.alike.retired.1 retires)).later
        ending.journal.suffix

end ServletFilters
