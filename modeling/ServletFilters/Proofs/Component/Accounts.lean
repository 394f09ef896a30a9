import ServletFilters.Proofs.Component.Ledger
import ServletFilters.Proofs.Container.Course
import ServletFilters.Proofs.Container.Pipelines

/-!
The accounts of a container: who holds a registry, which filters are made and which components
are destroyed, as its journal tells it. Each change below the level of a traversal keeps them,
but for letting go of a registry.
-/

namespace ServletFilters

structure Registry.Known (r : Registry) (events : List Event) : Prop where
  birth : r.birth ∈ events
  sound : r.Sound

/-- What a container holds agrees with its journal. Besides the pipelines there are other holders
of registries, and one registry may be fresh: built, and not held yet. -/
structure Books (others : List Nat) (fresh : Option Nat) (s : Container) : Prop where
  apart : Apart s
  known : ∀ {p r}, s.current p = some r → r.Known s.journal
  ledger : Ledger s.journal
  below : ∀ {n role}, Has s.journal n role → n < s.nextSerial
  balance : ∀ r, s.journal.countP (·.holds r) =
    s.journal.countP (·.releases r) + s.holders.count r
  held : ∀ {r filters servlets}, Has s.journal r (.registry filters servlets) →
    0 < s.journal.countP (·.holds r) ∨ fresh = some r
  bound : ∀ {p r}, s.current p = some r → s.holders.count r.serial = others.count r.serial + 1
  unbound : ∀ {k}, (∀ p r, s.current p = some r → r.serial ≠ k) → s.holders.count k = others.count k
  living : ∀ {f c}, s.instances.find? f = some c →
    Has s.journal c.serial (.instanceOf f) ∧ ¬ Destroyed s.journal c.serial
  present : ∀ {f n}, Has s.journal n (.instanceOf f) → Destroyed s.journal n ∨
    ∃ c, s.instances.find? f = some c ∧ c.serial = n

/-- The books of a container in which everything due is done. -/
structure Accounted (others : List Nat) (fresh : Option Nat) (s : Container) : Prop
    extends Books others fresh s where
  settled : Settled s.journal

namespace Registry.Known

variable {r : Registry} {events : List Event} (known : r.Known events)
include known

theorem later {more : List Event} (suffix : events <:+ more) : r.Known more :=
  ⟨suffix.mem known.birth, known.sound⟩

theorem registry : Has events r.serial (.registry (r.filters.values.map (·.serial))
    (r.wrappers.map (·.servlet.serial))) := has_registry.2 known.birth

theorem filter {f : FilterConfig} (member : f ∈ r.filters.values) :
    Has events f.serial (.filter r.serial) :=
  has_filter.2 ⟨_, _, known.birth, List.mem_map_of_mem member⟩

theorem servlet {w : Wrapper} (member : w ∈ r.wrappers) :
    Has events w.servlet.serial (.servlet r.serial) :=
  has_servlet.2 ⟨_, _, known.birth, List.mem_map_of_mem member⟩

theorem owns_servlet {w : Wrapper} (member : w ∈ r.wrappers) :
    Owns events r.serial w.servlet.serial :=
  owns_iff.2 (.inl (known.servlet member))

theorem owned (unique : Univocal events) {c : Nat} (owns : Owns events r.serial c) :
    (∃ w ∈ r.wrappers, w.servlet.serial = c) ∨
      ∃ f ∈ r.filters.values, Has events c (.instanceOf f.serial) := by
  obtain ⟨filters, servlets, built, part⟩ := owns
  obtain ⟨rfl, rfl⟩ := Role.registry.inj (unique (has_registry.2 built) known.registry)
  rcases part with member | ⟨f, member, level, supplied⟩
  · exact .inl (List.mem_map.1 member)
  · obtain ⟨f, declared, rfl⟩ := List.mem_map.1 member
    exact .inr ⟨f, declared, has_instanceOf.2 ⟨level, supplied⟩⟩

end Registry.Known

theorem Registry.Numbered.told {r : Registry} {low middle high : Nat}
    (numbered : r.Numbered low middle high) {n : Nat} {role : Role} (h : (n, role) ∈ r.birth.roles) :
    (n = r.serial ∧ role = .registry (r.filters.values.map (·.serial))
        (r.wrappers.map (·.servlet.serial))) ∨
      (role = .filter r.serial ∧ low ≤ n ∧ n < middle) ∨
      (role = .servlet r.serial ∧ middle ≤ n ∧ n < r.serial) := by
  simp only [Registry.birth, Event.roles, List.cons_append, List.mem_cons, List.mem_append,
    List.mem_map, Prod.mk.injEq] at h
  rcases h with ⟨rfl, rfl⟩ | ⟨-, ⟨f, member, rfl⟩, rfl, rfl⟩ | ⟨-, ⟨w, member, rfl⟩, rfl, rfl⟩
  · exact .inl ⟨rfl, rfl⟩
  · exact .inr (.inl ⟨rfl, numbered.filters f member⟩)
  · exact .inr (.inr ⟨rfl, numbered.servlets w member⟩)

theorem Registry.Numbered.range {r : Registry} {low middle high : Nat}
    (numbered : r.Numbered low middle high) {n : Nat} {role : Role} (h : (n, role) ∈ r.birth.roles) :
    low ≤ n ∧ n < high := by
  have := numbered.low_le
  have := numbered.middle_le
  have := numbered.lt_high
  rcases numbered.told h with ⟨rfl, -⟩ | ⟨-, here⟩ | ⟨-, here⟩ <;> omega

theorem Ledger.birth {events : List Event} (ledger : Ledger events) (settled : Settled events)
    {r : Registry} {low middle high : Nat} (numbered : r.Numbered low middle high)
    (used : ∀ {n role}, Has events n role → n < low) : Ledger (r.birth :: events) := by
  refine ledger.cons settled ?_ ?_ ?_
  · intro n a here
    refine ⟨fun b has => ?_, fun b too => ?_⟩
    · exact absurd (used has) (Nat.not_lt.2 (numbered.range here).1)
    · have := numbered.middle_le
      rcases numbered.told here with ⟨rfl, rfl⟩ | ⟨rfl, range⟩ | ⟨rfl, range⟩ <;>
        rcases numbered.told too with ⟨same, rfl⟩ | ⟨rfl, range'⟩ | ⟨rfl, range'⟩ <;>
        first | rfl | omega
  · intro c f here
    rcases numbered.told here with ⟨-, ⟨⟩⟩ | ⟨⟨⟩, -⟩ | ⟨⟨⟩, -⟩
  · rintro k ⟨⟩

namespace Books

variable {others : List Nat} {fresh : Option Nat} {s : Container} (books : Books others fresh s)
include books

theorem held_le (r : Nat) : others.count r ≤ s.holders.count r := by
  by_cases bound : ∃ p old, s.current p = some old ∧ old.serial = r
  · obtain ⟨p, old, current, rfl⟩ := bound
    have := books.bound current
    omega
  · refine Nat.le_of_eq (books.unbound ?_).symm
    rintro p old current rfl
    exact bound ⟨p, old, current, rfl⟩

theorem going {r : Nat} (held : 0 < s.holders.count r) : ¬ Retired s.journal r := by
  rintro ⟨-, same⟩
  have := books.balance r
  omega

theorem going_of_mem {r : Nat} (member : r ∈ others) : ¬ Retired s.journal r :=
  books.going (Nat.lt_of_lt_of_le (List.count_pos_iff.2 member) (books.held_le r))

theorem going_of_current {p : Nat} {r : Registry} (current : s.current p = some r) :
    ¬ Retired s.journal r.serial := by
  have := books.bound current
  exact books.going (by omega)

/-- A registry that was built is retired when nobody holds it. -/
theorem retired_iff {r : Nat} {filters servlets : List Nat}
    (built : Has s.journal r (.registry filters servlets)) (old : fresh ≠ some r) :
    Retired s.journal r ↔ s.holders.count r = 0 := by
  have balance := books.balance r
  have held := (books.held built).resolve_right old
  constructor
  · rintro ⟨-, same⟩
    omega
  · exact fun none => ⟨held, by omega⟩

/-- The books stay right when the order of the other holders changes. -/
theorem perm {others' : List Nat} (h : others.Perm others') : Books others' fresh s :=
  { books with
    bound := fun current => by rw [books.bound current, h.count_eq]
    unbound := fun none => by rw [books.unbound none, h.count_eq] }

/-- A registry that was fresh is an old one once it is held. -/
theorem aged {r : Nat} (first : fresh = some r) (held : 0 < s.journal.countP (·.holds r)) :
    Books others none s :=
  { books with
    held := by
      intro k filters servlets built
      rcases books.held built with before | same
      · exact .inl before
      · obtain rfl := Option.some.inj (first.symm.trans same)
        exact .inl held }

/-- The books of a later state whose journal agrees, and in which no more is missing than was
destroyed. -/
theorem renew {t : Container} (alike : Alike s.journal t.journal) (suffix : s.journal <:+ t.journal)
    (ledger : Ledger t.journal) (grown : s.nextSerial ≤ t.nextSerial)
    (holders : t.holders = s.holders) (current : ∀ p, t.current p = s.current p)
    (living : ∀ f c, t.instances.find? f = some c →
      s.instances.find? f = some c ∧ ¬ Destroyed t.journal c.serial)
    (present : ∀ f c, s.instances.find? f = some c →
      Destroyed t.journal c.serial ∨ t.instances.find? f = some c) : Books others fresh t := by
  constructor
  · exact books.apart.same current grown
  · exact fun bound => (books.known (current _ ▸ bound)).later suffix
  · exact ledger
  · exact fun has => Nat.lt_of_lt_of_le (books.below (alike.has.1 has)) grown
  · intro r
    rw [alike.holds, alike.releases, holders]
    exact books.balance r
  · intro r filters servlets built
    rw [alike.holds]
    exact books.held (alike.has.1 built)
  · intro p r bound
    rw [holders]
    exact books.bound (current p ▸ bound)
  · intro k unbound
    rw [holders]
    exact books.unbound fun p r bound => unbound p r ((current p).trans bound)
  · intro f c found
    obtain ⟨before, alive⟩ := living f c found
    exact ⟨(books.living before).1.later suffix, alive⟩
  · intro f n made
    rcases books.present (alike.has.1 made) with destroyed | ⟨c, found, rfl⟩
    · exact .inl (destroyed.later suffix)
    · exact (present f c found).imp_right fun still => ⟨c, still, rfl⟩

/-- The books after an event that neither ends nor supplies a component. -/
theorem after {others' : List Nat} {fresh' : Option Nat} {t : Container} {e : Event}
    (journal : t.journal = e :: s.journal) (going : e.isEnd = false)
    (unsupplied : ∀ {n f}, Has (e :: s.journal) n (.instanceOf f) → Has s.journal n (.instanceOf f))
    (instances : t.instances = s.instances) (apart : Apart t)
    (current : ∀ p, t.current p = s.current p) (ledger : Ledger (e :: s.journal))
    (below : ∀ {n role}, Has (e :: s.journal) n role → n < t.nextSerial)
    (balance : ∀ r, (e :: s.journal).countP (·.holds r) =
      (e :: s.journal).countP (·.releases r) + t.holders.count r)
    (held : ∀ {r filters servlets}, Has (e :: s.journal) r (.registry filters servlets) →
      0 < (e :: s.journal).countP (·.holds r) ∨ fresh' = some r)
    (bound : ∀ {p r}, s.current p = some r →
      t.holders.count r.serial = others'.count r.serial + 1)
    (unbound : ∀ {k}, (∀ p r, s.current p = some r → r.serial ≠ k) →
      t.holders.count k = others'.count k) : Books others' fresh' t := by
  have suffix : s.journal <:+ e :: s.journal := List.suffix_cons ..
  refine ⟨apart, ?_, journal ▸ ledger, journal ▸ below, journal ▸ balance, journal ▸ held, ?_, ?_,
    ?_, ?_⟩
  · intro p r bound
    rw [journal]
    exact (books.known ((current p).symm.trans bound)).later suffix
  · exact fun here => bound ((current _).symm.trans here)
  · exact fun none => unbound fun p r here => none p r ((current p).trans here)
  · intro f c found
    rw [journal, destroyed_cons_of_going going]
    obtain ⟨made, alive⟩ := books.living (instances ▸ found)
    exact ⟨made.later suffix, alive⟩
  · intro f n made
    rw [journal] at made
    rw [journal, destroyed_cons_of_going going, instances]
    exact books.present (unsupplied made)

end Books

/-! ### Small changes -/

theorem Event.isIdle_of_isPlain {e : Event} (h : e.isPlain = true) :
    e.isIdle = true ∧ e.isEnd = false := by
  cases e <;> cases h <;> exact ⟨rfl, rfl⟩

theorem Quiet.alike {s t : Container} (h : Quiet s t) : Alike s.journal t.journal := by
  obtain ⟨new, journal, plain⟩ := h.journal
  rw [journal]
  exact .append _ fun e he => (Event.isIdle_of_isPlain (plain e he)).1

namespace Accounted

variable {others : List Nat} {fresh : Option Nat} {s t : Container}

theorem move (h : Accounted others fresh s) (grown : s.nextSerial ≤ t.nextSerial)
    (instances : t.instances = s.instances) (holders : t.holders = s.holders)
    (current : ∀ p, t.current p = s.current p) (journal : t.journal = s.journal) :
    Accounted others fresh t := by
  refine ⟨h.renew (journal ▸ .refl _) (journal ▸ List.suffix_rfl) (journal ▸ h.ledger) grown holders
    current ?_ ?_, journal ▸ h.settled⟩
  · rw [instances, journal]
    exact fun f c found => ⟨found, (h.living found).2⟩
  · rw [instances]
    exact fun f c found => .inr found

theorem note {e : Event} (h : Accounted others fresh s) (fits : e.Fits s.journal)
    (idle : e.isIdle = true) (going : e.isEnd = false) : Accounted others fresh (s.note e) := by
  have alike := Alike.cons s.journal idle
  have suffix : s.journal <:+ (s.note e).journal := List.suffix_cons ..
  have alive : ∀ {c}, ¬ Destroyed s.journal c → ¬ Destroyed (s.note e).journal c :=
    mt (destroyed_cons_of_going going).1
  refine ⟨h.renew alike suffix (h.ledger.idle fits idle) (Nat.le_refl _) rfl (fun _ => rfl) ?_ ?_,
    alike.settled suffix h.settled⟩
  · exact fun f c found => ⟨found, alive (h.living found).2⟩
  · exact fun f c found => .inr found

theorem quiet (h : Accounted others fresh s) (quiet : Quiet s t) : Accounted others fresh t := by
  obtain ⟨new, journal, plain⟩ := quiet.journal
  have noted : Accounted others fresh { s with journal := new ++ s.journal } := by
    clear journal
    induction new with
    | nil => exact h
    | cons e rest ih =>
      have before := ih fun e he => plain e (List.mem_cons_of_mem _ he)
      have first := plain e (List.mem_cons_self ..)
      obtain ⟨idle, going⟩ := Event.isIdle_of_isPlain first
      refine before.note (e := e) ?_ idle going
      have settled := before.settled
      cases e <;> first | exact settled | cases first
  exact noted.move quiet.nextSerial quiet.instances quiet.holders quiet.current journal

theorem hold (h : Accounted others fresh s) {r : Registry} (known : r.Known s.journal)
    (going : ¬ Retired s.journal r.serial) : Accounted (r.serial :: others) fresh (r.hold s) := by
  have has : ∀ {n role}, Has (.held r.serial :: s.journal) n role ↔ Has s.journal n role :=
    has_cons_of_untold rfl
  have holds : ∀ k, List.countP (·.holds k) (.held r.serial :: s.journal) =
      s.journal.countP (·.holds k) + if r.serial == k then 1 else 0 := fun _ => List.countP_cons
  have releases : ∀ k, List.countP (·.releases k) (.held r.serial :: s.journal) =
      s.journal.countP (·.releases k) := fun _ => List.countP_cons_of_neg Bool.false_ne_true
  have holders : ∀ k, (r.hold s).holders.count k =
      s.holders.count k + if r.serial == k then 1 else 0 := fun _ => List.count_cons
  have books : Books (r.serial :: others) fresh (r.hold s) := by
    refine h.after rfl rfl has.1 rfl (h.apart.same (fun _ => rfl) (Nat.le_refl _)) (fun _ => rfl)
      ?_ (fun told => h.below (has.1 told)) ?_ ?_ ?_ ?_
    · refine h.ledger.cons ⟨h.settled, going⟩ ?_ ?_ ?_
      · rintro n a ⟨⟩
      · rintro c f ⟨⟩
      · intro k holds
        obtain rfl := eq_of_beq holds
        exact ⟨_, _, known.registry⟩
    · intro k
      have := h.balance k
      rw [holds, releases, holders]
      omega
    · intro k filters servlets built
      rw [holds]
      exact (h.held (has.1 built)).imp_left (Nat.lt_of_lt_of_le · (Nat.le_add_right _ _))
    · intro p old bound
      rw [holders, List.count_cons, h.bound bound]
      omega
    · intro k unbound
      rw [holders, List.count_cons, h.unbound unbound]
  refine ⟨books, ?_⟩
  intro k c owns retired
  have other : r.serial ≠ k := by
    rintro rfl
    exact books.going_of_mem (List.mem_cons_self ..) retired
  have before := (retired_cons_of_other (e := .held r.serial) ⟨beq_false_of_ne other, rfl⟩).1 retired
  refine (destroyed_cons_of_going (e := .held r.serial) rfl).2 ?_
  exact h.settled ((owns_cons_of_untold rfl).1 owns) before

theorem count_registry_of_ne {o : Option Registry} {k : Nat} (others : List Nat)
    (other : ∀ r, o = some r → r.serial ≠ k) :
    ((o.map (·.serial)).toList ++ others).count k = others.count k := by
  cases o with
  | none => rfl
  | some r => exact List.count_cons_of_ne (other r rfl)

/-- Binding a pipeline to a registry that is held makes the pipeline one of its holders, and no
longer one of the registry before. -/
theorem rebind {p : Nat} {old new : Option Registry}
    (h : Accounted ((new.map (·.serial)).toList ++ others) fresh s) (here : s.current p = old)
    (rebinds : Rebinds p new s t) (apart : Apart t)
    (next : ∀ r, new = some r → r.Known s.journal ∧
      ∀ k a, s.current k = some a → a.serial ≠ r.serial) :
    Accounted ((old.map (·.serial)).toList ++ others) fresh t := by
  refine ⟨⟨apart, ?_, rebinds.journal ▸ h.ledger, ?_, ?_, ?_, ?_, ?_, ?_, ?_⟩,
    rebinds.journal ▸ h.settled⟩
  · intro k a bound
    rw [rebinds.journal]
    rcases current_cases rebinds.current bound with ⟨-, new⟩ | ⟨-, bound⟩
    · exact (next a new).1
    · exact h.known bound
  · rw [rebinds.journal]
    exact fun has => Nat.lt_of_lt_of_le (h.below has) rebinds.nextSerial
  · rw [rebinds.journal, rebinds.holders]
    exact h.balance
  · rw [rebinds.journal]
    exact h.held
  · intro k a bound
    rw [rebinds.holders]
    rcases current_cases rebinds.current bound with ⟨rfl, rfl⟩ | ⟨apart, bound⟩
    · have unheld := (next a rfl).2
      rw [h.unbound unheld, count_registry_of_ne others fun o same => unheld k o (here.trans same)]
      exact List.count_cons_self
    · rw [h.bound bound, count_registry_of_ne others fun r new => ((next r new).2 k a bound).symm,
        count_registry_of_ne others]
      intro o same serial
      exact apart (h.apart.injective bound (here.trans same) serial.symm)
  · intro k unbound
    rw [rebinds.holders]
    have untaken : ∀ r, new = some r → r.serial ≠ k := by
      intro r same
      refine unbound p r ?_
      rw [rebinds.current, if_pos rfl, same]
    by_cases before : ∃ o, old = some o ∧ o.serial = k
    · obtain ⟨o, rfl, rfl⟩ := before
      rw [h.bound here, count_registry_of_ne others untaken]
      exact List.count_cons_self.symm
    · rw [count_registry_of_ne others fun o same serial => before ⟨o, same, serial⟩,
        h.unbound, count_registry_of_ne others untaken]
      intro q a bound serial
      by_cases own : q = p
      · subst own
        exact before ⟨a, here.symm.trans bound, serial⟩
      · refine unbound q a ?_ serial
        rw [rebinds.current, if_neg own, bound]
  · rw [rebinds.instances, rebinds.journal]
    exact h.living
  · rw [rebinds.instances, rebinds.journal]
    exact h.present

theorem build (h : Accounted others none s) {r : Registry} {middle : Nat} (quiet : Quiet s t)
    (numbered : r.Numbered s.nextSerial middle t.nextSerial) :
    Accounted others (some r.serial) (t.note r.birth) ∧
      ¬ Retired (t.note r.birth).journal r.serial := by
  have before := h.quiet quiet
  have used : ∀ {n role}, Has t.journal n role → n < s.nextSerial :=
    fun has => h.below (quiet.alike.has.1 has)
  have same : ∀ {k}, Retired (t.note r.birth).journal k ↔ Retired t.journal k :=
    retired_cons_of_other ⟨rfl, rfl⟩
  have going : ¬ Retired t.journal r.serial := by
    rintro ⟨held, -⟩
    obtain ⟨filters, servlets, built⟩ := before.ledger.built held
    exact absurd (used built) (Nat.not_lt.2 (Nat.le_trans numbered.low_le numbered.middle_le))
  have counts : ∀ k, (r.birth :: t.journal).countP (·.holds k) = t.journal.countP (·.holds k) ∧
      (r.birth :: t.journal).countP (·.releases k) = t.journal.countP (·.releases k) :=
    fun _ => ⟨List.countP_cons_of_neg Bool.false_ne_true,
      List.countP_cons_of_neg Bool.false_ne_true⟩
  refine ⟨⟨before.after rfl rfl has_instanceOf_of_built_cons rfl ?_ (fun _ => rfl) ?_ ?_ ?_ ?_
    before.bound before.unbound, ?_⟩, mt same.1 going⟩
  · exact before.apart.same (fun _ => rfl) (Nat.le_refl _)
  · exact before.ledger.birth before.settled numbered used
  · intro n role has
    rcases has_cons.1 has with here | has
    · exact (numbered.range here).2
    · exact before.below has
  · intro k
    rw [(counts k).1, (counts k).2]
    exact before.balance k
  · intro k filters servlets built
    rw [(counts k).1]
    rcases has_cons.1 built with here | built
    · rcases numbered.told here with ⟨rfl, -⟩ | ⟨⟨⟩, -⟩ | ⟨⟨⟩, -⟩
      exact .inr rfl
    · rcases before.held built with held | fresh
      · exact .inl held
      · cases fresh
  · intro k c owns retires
    have retired := same.1 retires
    have other : k ≠ r.serial := by
      rintro rfl
      exact going retired
    refine (destroyed_cons_of_going (e := r.birth) rfl).2 ?_
    exact before.settled (owns_of_built_cons owns other) retired

/-- A registry that is built and at once bound to a pipeline is held by the pipeline, which no
longer holds the one before. -/
theorem install (h : Accounted others none s) {r : Registry} {middle p : Nat} {u v : Container}
    (quiet : Quiet s t) (sound : r.Sound) (numbered : r.Numbered s.nextSerial middle t.nextSerial)
    (more : Quiet (t.note r.birth) u) (rebinds : Rebinds p (some r) u v) (used : p < v.nextSerial) :
    Accounted (((s.current p).map (·.serial)).toList ++ others) none
        ((r.hold v).note (.installed p r.serial)) ∧
      s.journal <:+ ((r.hold v).note (.installed p r.serial)).journal := by
  obtain ⟨built, going⟩ := h.build quiet numbered
  have before := built.quiet more
  have known : r.Known u.journal :=
    ⟨more.journal.suffix.mem (List.mem_cons_self ..), sound⟩
  have held := before.hold known (mt more.alike.retired.1 going)
  have once : 0 < (r.hold u).journal.countP (·.holds r.serial) :=
    List.countP_pos_iff.2 ⟨.held r.serial, List.mem_cons_self, beq_self_eq_true _⟩
  have ready : Accounted (((some r).map (·.serial)).toList ++ others) none (r.hold u) :=
    ⟨held.aged rfl once, held.settled⟩
  have current : ∀ k, u.current k = s.current k :=
    fun k => (more.current k).trans (quiet.current k)
  have grown := Nat.le_trans quiet.nextSerial more.nextSerial
  have above : s.nextSerial ≤ r.serial := Nat.le_trans numbered.low_le numbered.middle_le
  have again : Rebinds p (some r) (r.hold u) (r.hold v) :=
    ⟨rebinds.nextSerial, rebinds.request, rebinds.chain, rebinds.nesting, rebinds.instances,
      congrArg (r.serial :: ·) rebinds.holders, rebinds.current,
      congrArg (Event.held r.serial :: ·) rebinds.journal⟩
  have apart : Apart (r.hold v) := by
    refine h.apart.bind (fun k => (rebinds.current k).trans (by rw [current])) ?_ used above ?_
    · exact Nat.le_trans grown rebinds.nextSerial
    · exact Nat.lt_of_lt_of_le numbered.lt_high (Nat.le_trans more.nextSerial rebinds.nextSerial)
  have bound : Accounted (((s.current p).map (·.serial)).toList ++ others) none (r.hold v) := by
    refine ready.rebind (current p) again apart ?_
    rintro a ⟨⟩
    refine ⟨known.later (List.suffix_cons ..), fun k a bound same => ?_⟩
    have := h.apart.registry_lt ((current k).symm.trans bound)
    omega
  refine ⟨bound.note bound.settled rfl rfl, ?_⟩
  have start : s.journal <:+ u.journal :=
    quiet.journal.suffix.trans ((List.suffix_cons ..).trans more.journal.suffix)
  have finish : u.journal <:+ (r.hold v).journal :=
    again.journal ▸ List.suffix_cons ..
  exact start.trans (finish.trans (List.suffix_cons ..))

/-- A filter of a registry that is not retired may give a component that is new or its own. -/
theorem supply (h : Accounted others fresh s) {f r : Nat} {c : Component}
    (instances : Dict Nat Component) (level : Nat) (declared : Has s.journal f (.filter r))
    (going : ¬ Retired s.journal r) (own : ∀ role, Has s.journal c.serial role → role = .instanceOf f)
    (alive : ¬ Destroyed s.journal c.serial) (used : c.serial < s.nextSerial)
    (only : ∀ d, s.instances.find? f = some d → d = c)
    (find : ∀ g, instances.find? g = if g = f then some c else s.instances.find? g) :
    Accounted others fresh ({ s with instances }.note (.supplied level f c.serial)) := by
  let e : Event := .supplied level f c.serial
  let t : Container := { s with instances }.note e
  have suffix : s.journal <:+ t.journal := List.suffix_cons ..
  have has : ∀ {n role}, Has t.journal n role ↔
      (n = c.serial ∧ role = .instanceOf f) ∨ Has s.journal n role := by
    intro n role
    refine has_cons.trans (or_congr_left ?_)
    rw [show e.roles = [(c.serial, .instanceOf f)] from rfl, List.mem_singleton, Prod.mk.injEq]
  have destroyed : ∀ {n}, Destroyed t.journal n ↔ Destroyed s.journal n :=
    destroyed_cons_of_going rfl
  have retired : ∀ {k}, Retired t.journal k ↔ Retired s.journal k :=
    retired_cons_of_other ⟨rfl, rfl⟩
  have found : ∀ {g d}, instances.find? g = some d ↔
      (g = f ∧ d = c) ∨ (g ≠ f ∧ s.instances.find? g = some d) := by
    intro g d
    rw [find]
    split
    · rename_i same
      simp [same, eq_comm]
    · rename_i other
      simp [other]
  refine ⟨⟨?_, ?_, ?_, ?_, ?_, ?_, h.bound, h.unbound, ?_, ?_⟩, ?_⟩
  · exact h.apart.same (fun _ => rfl) (Nat.le_refl _)
  · exact fun bound => (h.known bound).later suffix
  · refine h.ledger.cons ⟨h.settled, alive⟩ ?_ ?_ ?_
    · intro n a here
      obtain ⟨rfl, rfl⟩ := Prod.mk.inj (List.mem_singleton.1 here)
      refine ⟨fun b has => (own b has).symm, fun b too => ?_⟩
      exact (Prod.mk.inj (List.mem_singleton.1 too)).2.symm
    · intro n g here
      obtain ⟨rfl, same⟩ := Prod.mk.inj (List.mem_singleton.1 here)
      obtain rfl := Role.instanceOf.inj same
      exact ⟨r, declared⟩
    · rintro k ⟨⟩
  · intro n role told
    rcases has.1 told with ⟨rfl, -⟩ | before
    · exact used
    · exact h.below before
  · intro k
    change (e :: s.journal).countP _ = (e :: s.journal).countP _ + s.holders.count k
    rw [List.countP_cons_of_neg Bool.false_ne_true, List.countP_cons_of_neg Bool.false_ne_true]
    exact h.balance k
  · intro k filters servlets built
    rcases has.1 built with ⟨-, ⟨⟩⟩ | before
    exact (h.held before).imp_left (Nat.lt_of_lt_of_le · suffix.sublist.countP_le)
  · intro g d here
    rcases found.1 here with ⟨rfl, rfl⟩ | ⟨-, before⟩
    · exact ⟨has.2 (.inl ⟨rfl, rfl⟩), mt destroyed.1 alive⟩
    · obtain ⟨made, alive⟩ := h.living before
      exact ⟨made.later suffix, mt destroyed.1 alive⟩
  · intro g n made
    rcases has.1 made with ⟨rfl, same⟩ | before
    · obtain rfl := Role.instanceOf.inj same
      exact .inr ⟨c, found.2 (.inl ⟨rfl, rfl⟩), rfl⟩
    · refine (h.present before).imp destroyed.2 ?_
      rintro ⟨d, here, rfl⟩
      by_cases same : g = f
      · subst same
        exact ⟨d, found.2 (.inl ⟨rfl, only d here⟩), rfl⟩
      · exact ⟨d, found.2 (.inr ⟨same, here⟩), rfl⟩
  · intro k n owns retires
    have done := retired.1 retires
    refine destroyed.2 (h.settled (owns_iff.2 ?_) done)
    rcases owns_iff.1 owns with servlet | ⟨g, filter, made⟩
    · exact .inl ((has.1 servlet).resolve_left (by rintro ⟨-, ⟨⟩⟩))
    · have before : Has s.journal g (.filter k) := (has.1 filter).resolve_left (by rintro ⟨-, ⟨⟩⟩)
      refine .inr ⟨g, before, (has.1 made).resolve_left ?_⟩
      rintro ⟨-, same⟩
      obtain rfl := Role.instanceOf.inj same
      obtain rfl := Role.filter.inj (h.ledger.unique declared before)
      exact going done

theorem obtain (h : Accounted others fresh s) {r : Registry} (known : r.Known s.journal)
    (member : r.serial ∈ others) {f : FilterConfig} (declared : f ∈ r.filters.values) :
    Accounted others fresh (f.obtain s).2 ∧ s.journal <:+ (f.obtain s).2.journal ∧
      ∀ c, (f.obtain s).1 = .ok (.ok c) → Owns (f.obtain s).2.journal r.serial c.serial := by
  have going := h.going_of_mem member
  have owns : ∀ {events : List Event} {level c}, s.journal <:+ events →
      .supplied level f.serial c ∈ events → Owns events r.serial c := by
    intro events level c suffix supplied
    exact owns_iff.2 (.inr ⟨f.serial, (known.filter declared).later suffix,
      has_instanceOf.2 ⟨level, supplied⟩⟩)
  rcases f.obtain_cases s with
    ⟨c, found, given⟩ | ⟨c, t, none, made, given⟩ | ⟨x, t, given, quiet, failed⟩ <;> rw [given]
  · obtain ⟨own, alive⟩ := h.living found
    have suffix : s.journal <:+ .supplied s.nesting f.serial c.serial :: s.journal :=
      List.suffix_cons ..
    refine ⟨?_, suffix, ?_⟩
    · refine h.supply s.instances s.nesting (known.filter declared) going
        (fun _ has => h.ledger.unique has own) alive (h.below own) ?_ ?_
      · exact fun d same => Option.some.inj (same.symm.trans found)
      · intro g
        split
        · rename_i same
          rw [same, found]
        · rfl
    · rintro d ⟨⟩
      exact owns suffix (List.mem_cons_self ..)
  · obtain ⟨cls, source⟩ := known.sound.made f declared
    obtain ⟨quiet, new⟩ := f.make_makes source s
    rw [made] at quiet new
    obtain ⟨low, high⟩ := new c rfl
    have before := h.quiet quiet
    have unused : ∀ {role}, ¬ Has t.journal c.serial role :=
      fun has => absurd (h.below (quiet.alike.has.1 has)) (Nat.not_lt.2 low)
    have suffix : s.journal <:+ .supplied t.nesting f.serial c.serial :: t.journal :=
      quiet.journal.suffix.trans (List.suffix_cons ..)
    refine ⟨?_, suffix, ?_⟩
    · refine before.supply _ t.nesting ((known.filter declared).later quiet.journal.suffix)
        (mt quiet.alike.retired.1 going) (fun _ has => absurd has unused) ?_ high ?_ ?_
      · intro destroyed
        obtain ⟨k, owner, -⟩ := before.ledger.proper.owner_retired destroyed
        rcases owns_iff.1 owner with servlet | ⟨g, -, own⟩
        · exact unused servlet
        · exact unused own
      · intro d found
        rw [quiet.instances, none] at found
        cases found
      · exact fun g => Dict.find?_insert ..
    · rintro d ⟨⟩
      exact owns suffix (List.mem_cons_self ..)
  · exact ⟨h.quiet quiet, quiet.journal.suffix, fun c same => absurd same (failed c)⟩

theorem invoke (h : Accounted others fresh s) {r : Nat} (member : r ∈ others) {c : Component}
    (owns : Owns s.journal r c.serial) (stage : Stage) :
    Accounted others fresh (s.invoke stage c) :=
  h.note ⟨h.settled, h.ledger.alive owns (h.going_of_mem member)⟩ rfl rfl

end Accounted

end ServletFilters
