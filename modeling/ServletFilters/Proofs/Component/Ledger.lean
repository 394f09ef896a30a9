import ServletFilters.Journal.Event

/-!
The lives of components as a journal tells them. A registry owns its servlets and what its
filters supplied; it is retired when as many holders let go of it as held it. In a proper journal
its components are destroyed then, at once and only then, `Ledger.destroyed_once`, and nothing
happens with them afterwards.
-/

namespace ServletFilters

def Event.holds (r : Nat) : Event → Bool
  | .held k => k == r
  | _ => false

def Event.releases (r : Nat) : Event → Bool
  | .released k => k == r
  | _ => false

def Event.ends (c : Nat) : Event → Bool
  | .destroyed k _ _ => k == c
  | _ => false

def Event.uses (c : Nat) : Event → Bool
  | .invoked _ _ k _ _ => k == c
  | .supplied _ _ k => k == c
  | _ => false

def Event.isEnd : Event → Bool
  | .destroyed _ _ _ => true
  | _ => false

/-- A registry was built with this servlet, or with a filter that supplied this component. -/
def Owns (events : List Event) (r c : Nat) : Prop :=
  ∃ filters servlets, .built r filters servlets ∈ events ∧
    (c ∈ servlets ∨ ∃ f ∈ filters, ∃ level, .supplied level f c ∈ events)

/-- A registry was held, and all its holders have let go of it. -/
def Retired (events : List Event) (r : Nat) : Prop :=
  0 < events.countP (·.holds r) ∧ events.countP (·.releases r) = events.countP (·.holds r)

instance (events : List Event) (r : Nat) : Decidable (Retired events r) :=
  inferInstanceAs (Decidable (_ ∧ _))

def Destroyed (events : List Event) (c : Nat) : Prop := ∃ e ∈ events, e.ends c = true

/-- All components of retired registries have come to their end. -/
def Settled (events : List Event) : Prop :=
  ∀ ⦃r c : Nat⦄, Owns events r c → Retired events r → Destroyed events c

/-- The event may follow the earlier ones, newest first. The ends of the components of a retired
registry come before anything else happens. -/
def Event.Fits (earlier : List Event) : Event → Prop
  | .destroyed c _ _ => ¬ Destroyed earlier c ∧ ∃ r, Owns earlier r c ∧ Retired earlier r
  | .invoked _ _ c _ _ | .supplied _ _ c => Settled earlier ∧ ¬ Destroyed earlier c
  | .held r | .released r | .traversed _ _ r _ _ => Settled earlier ∧ ¬ Retired earlier r
  | _ => Settled earlier

/-- Each event of a journal, newest first, fits the earlier ones. -/
def Proper : List Event → Prop
  | [] => True
  | e :: earlier => e.Fits earlier ∧ Proper earlier

/-! ### What a number stands for -/

/-- What a number stands for. -/
inductive Role where
  | registry (filters servlets : List Nat)
  | filter (registry : Nat)
  | servlet (registry : Nat)
  | instanceOf (filter : Nat)

/-- The numbers that an event tells about. -/
def Event.roles : Event → List (Nat × Role)
  | .built r filters servlets => (r, .registry filters servlets) ::
      (filters.map fun f => (f, .filter r)) ++ servlets.map fun c => (c, .servlet r)
  | .supplied _ f c => [(c, .instanceOf f)]
  | _ => []

def Has (events : List Event) (n : Nat) (role : Role) : Prop := ∃ e ∈ events, (n, role) ∈ e.roles

theorem has_cons {e : Event} {events : List Event} {n : Nat} {role : Role} :
    Has (e :: events) n role ↔ (n, role) ∈ e.roles ∨ Has events n role := by
  simp [Has]

theorem has_cons_of_untold {e : Event} {events : List Event} (untold : e.roles = []) {n : Nat}
    {role : Role} : Has (e :: events) n role ↔ Has events n role := by
  rw [has_cons, untold]
  exact or_iff_right (List.not_mem_nil)

theorem Has.later {earlier later : List Event} {n : Nat} {role : Role} (h : Has earlier n role)
    (suffix : earlier <:+ later) : Has later n role := by
  obtain ⟨e, he, told⟩ := h
  exact ⟨e, suffix.mem he, told⟩

theorem has_registry {events : List Event} {r : Nat} {filters servlets : List Nat} :
    Has events r (.registry filters servlets) ↔ .built r filters servlets ∈ events := by
  constructor
  · rintro ⟨e, he, told⟩
    cases e with
    | built k fs ws =>
      simp only [Event.roles, List.cons_append, List.mem_cons, Prod.mk.injEq, Role.registry.injEq,
        List.mem_append, List.mem_map, reduceCtorEq, and_false, exists_false, or_false] at told
      obtain ⟨rfl, rfl, rfl⟩ := told
      exact he
    | supplied => simp [Event.roles] at told
    | _ => cases told
  · exact fun h => ⟨_, h, List.mem_cons_self ..⟩

theorem has_filter {events : List Event} {f r : Nat} :
    Has events f (.filter r) ↔
      ∃ filters servlets, .built r filters servlets ∈ events ∧ f ∈ filters := by
  constructor
  · rintro ⟨e, he, told⟩
    cases e with
    | built k fs ws =>
      simp only [Event.roles, List.cons_append, List.mem_cons, Prod.mk.injEq, reduceCtorEq,
        and_false, List.mem_append, List.mem_map, Role.filter.injEq, false_or, exists_false,
        or_false] at told
      obtain ⟨_, member, rfl, rfl⟩ := told
      exact ⟨fs, ws, he, member⟩
    | supplied => simp [Event.roles] at told
    | _ => cases told
  · rintro ⟨fs, ws, he, member⟩
    exact ⟨_, he, by simp [Event.roles, member]⟩

theorem has_servlet {events : List Event} {c r : Nat} :
    Has events c (.servlet r) ↔
      ∃ filters servlets, .built r filters servlets ∈ events ∧ c ∈ servlets := by
  constructor
  · rintro ⟨e, he, told⟩
    cases e with
    | built k fs ws =>
      simp only [Event.roles, List.cons_append, List.mem_cons, Prod.mk.injEq, reduceCtorEq,
        and_false, List.mem_append, List.mem_map, Role.servlet.injEq, false_or,
        exists_false] at told
      obtain ⟨_, member, rfl, rfl⟩ := told
      exact ⟨fs, ws, he, member⟩
    | supplied => simp [Event.roles] at told
    | _ => cases told
  · rintro ⟨fs, ws, he, member⟩
    exact ⟨_, he, by simp [Event.roles, member]⟩

theorem has_instanceOf {events : List Event} {c f : Nat} :
    Has events c (.instanceOf f) ↔ ∃ level, .supplied level f c ∈ events := by
  constructor
  · rintro ⟨e, he, told⟩
    cases e with
    | built => simp [Event.roles] at told
    | supplied level g d =>
      simp only [Event.roles, List.mem_singleton, Prod.mk.injEq, Role.instanceOf.injEq] at told
      obtain ⟨rfl, rfl⟩ := told
      exact ⟨level, he⟩
    | _ => cases told
  · rintro ⟨level, he⟩
    exact ⟨_, he, List.mem_singleton_self _⟩

theorem owns_iff {events : List Event} {r c : Nat} :
    Owns events r c ↔ Has events c (.servlet r) ∨
      ∃ f, Has events f (.filter r) ∧ Has events c (.instanceOf f) := by
  constructor
  · rintro ⟨fs, ws, built, servlet | ⟨f, member, level, supplied⟩⟩
    · exact .inl (has_servlet.2 ⟨fs, ws, built, servlet⟩)
    · exact .inr ⟨f, has_filter.2 ⟨fs, ws, built, member⟩, has_instanceOf.2 ⟨level, supplied⟩⟩
  · rintro (servlet | ⟨f, filter, made⟩)
    · obtain ⟨fs, ws, built, member⟩ := has_servlet.1 servlet
      exact ⟨fs, ws, built, .inl member⟩
    · obtain ⟨fs, ws, built, member⟩ := has_filter.1 filter
      obtain ⟨level, supplied⟩ := has_instanceOf.1 made
      exact ⟨fs, ws, built, .inr ⟨f, member, level, supplied⟩⟩

theorem owns_cons_of_untold {e : Event} {events : List Event} (untold : e.roles = []) {r c : Nat} :
    Owns (e :: events) r c ↔ Owns events r c := by
  simp only [owns_iff, has_cons_of_untold untold]

theorem owns_of_built_cons {events : List Event} {filters servlets : List Nat} {r k c : Nat}
    (h : Owns (.built r filters servlets :: events) k c) (other : k ≠ r) : Owns events k c := by
  obtain ⟨fs, ws, built, part⟩ := h
  refine ⟨fs, ws, ?_, part.imp_right ?_⟩
  · rcases List.mem_cons.1 built with same | built
    · cases same
      exact absurd rfl other
    · exact built
  · rintro ⟨f, member, level, supplied⟩
    rcases List.mem_cons.1 supplied with same | supplied
    · cases same
    · exact ⟨f, member, level, supplied⟩

theorem has_instanceOf_of_built_cons {events : List Event} {filters servlets : List Nat}
    {r c f : Nat} (h : Has (.built r filters servlets :: events) c (.instanceOf f)) :
    Has events c (.instanceOf f) := by
  obtain ⟨level, supplied⟩ := has_instanceOf.1 h
  rcases List.mem_cons.1 supplied with same | supplied
  · cases same
  · exact has_instanceOf.2 ⟨level, supplied⟩

theorem retired_cons_of_other {e : Event} {events : List Event} {r : Nat}
    (other : e.holds r = false ∧ e.releases r = false) :
    Retired (e :: events) r ↔ Retired events r := by
  rw [Retired, Retired, List.countP_cons_of_neg (by simp [other.1]),
    List.countP_cons_of_neg (by simp [other.2])]

/-- A number stands for one thing only. -/
def Univocal (events : List Event) : Prop :=
  ∀ ⦃n : Nat⦄ ⦃a b : Role⦄, Has events n a → Has events n b → a = b

theorem Univocal.owner {events : List Event} {r k c : Nat} (h : Univocal events)
    (first : Owns events r c) (second : Owns events k c) : r = k := by
  rcases owns_iff.1 first with servlet | ⟨f, filter, made⟩ <;>
    rcases owns_iff.1 second with servlet' | ⟨g, filter', made'⟩
  · exact Role.servlet.inj (h servlet servlet')
  · cases h servlet made'
  · cases h made servlet'
  · obtain rfl := Role.instanceOf.inj (h made made')
    exact Role.filter.inj (h filter filter')

theorem Owns.later {earlier later : List Event} {r c : Nat} (h : Owns earlier r c)
    (suffix : earlier <:+ later) : Owns later r c := by
  refine owns_iff.2 ((owns_iff.1 h).imp (·.later suffix) ?_)
  rintro ⟨f, filter, made⟩
  exact ⟨f, filter.later suffix, made.later suffix⟩

theorem Destroyed.later {earlier later : List Event} {c : Nat} (h : Destroyed earlier c)
    (suffix : earlier <:+ later) : Destroyed later c := by
  obtain ⟨e, he, ends⟩ := h
  exact ⟨e, suffix.mem he, ends⟩

theorem destroyed_cons {e : Event} {events : List Event} {c : Nat} :
    Destroyed (e :: events) c ↔ e.ends c = true ∨ Destroyed events c := by
  simp [Destroyed]

theorem destroyed_cons_of_going {e : Event} {events : List Event} (going : e.isEnd = false)
    {c : Nat} : Destroyed (e :: events) c ↔ Destroyed events c := by
  refine destroyed_cons.trans (or_iff_right ?_)
  cases e <;> first | exact Bool.false_ne_true | cases going

theorem destroyed_iff_countP {events : List Event} {c : Nat} :
    Destroyed events c ↔ 0 < events.countP (·.ends c) :=
  List.countP_pos_iff.symm

/-! ### Events that fit -/

namespace Event.Fits

variable {e : Event} {earlier : List Event} (fits : e.Fits earlier)
include fits

theorem settled (going : e.isEnd = false) : Settled earlier := by
  cases e with
  | destroyed => cases going
  | invoked | supplied | held | released | traversed => exact fits.1
  | _ => exact fits

theorem not_destroyed_of_uses {c : Nat} (uses : e.uses c = true) : ¬ Destroyed earlier c := by
  cases e with
  | invoked level stage k name depth =>
    obtain rfl := eq_of_beq uses
    exact fits.2
  | supplied level f k =>
    obtain rfl := eq_of_beq uses
    exact fits.2
  | _ => cases uses

theorem not_destroyed_of_ends {c : Nat} (ends : e.ends c = true) :
    ¬ Destroyed earlier c ∧ ∃ r, Owns earlier r c ∧ Retired earlier r := by
  cases e with
  | destroyed k name announced =>
    obtain rfl := eq_of_beq ends
    exact fits
  | _ => cases ends

theorem retired {r : Nat} (h : Retired earlier r) : Retired (e :: earlier) r := by
  have alone : e.holds r = false ∧ e.releases r = false := by
    cases e with
    | held k =>
      refine ⟨beq_false_of_ne ?_, rfl⟩
      rintro rfl
      exact fits.2 h
    | released k =>
      refine ⟨rfl, beq_false_of_ne ?_⟩
      rintro rfl
      exact fits.2 h
    | _ => exact ⟨rfl, rfl⟩
  exact (retired_cons_of_other alone).2 h

end Event.Fits

namespace Proper

theorem of_append {later earlier : List Event} (h : Proper (later ++ earlier)) : Proper earlier := by
  induction later with
  | nil => exact h
  | cons _ _ ih => exact ih h.2

theorem countP_ends_le {events : List Event} (h : Proper events) (c : Nat) :
    events.countP (·.ends c) ≤ 1 := by
  induction events with
  | nil => exact Nat.zero_le 1
  | cons e rest ih =>
    cases ends : e.ends c with
    | true =>
      have none := mt destroyed_iff_countP.2 (h.1.not_destroyed_of_ends ends).1
      rw [List.countP_cons_of_pos (p := fun e => Event.ends c e) ends]
      omega
    | false =>
      rw [List.countP_cons_of_neg (by simp [ends])]
      exact ih h.2

theorem owner_retired {events : List Event} (h : Proper events) {c : Nat}
    (destroyed : Destroyed events c) : ∃ r, Owns events r c ∧ Retired events r := by
  induction events with
  | nil =>
    obtain ⟨e, none, -⟩ := destroyed
    cases none
  | cons e rest ih =>
    have before : ∃ r, Owns rest r c ∧ Retired rest r := by
      rcases destroyed_cons.1 destroyed with ends | destroyed
      · exact (h.1.not_destroyed_of_ends ends).2
      · exact ih h.2 destroyed
    obtain ⟨r, owns, retired⟩ := before
    exact ⟨r, owns.later (List.suffix_cons ..), h.1.retired retired⟩

end Proper

/-! ### Ledgers -/

/-- A journal whose events fit and whose numbers stand for one thing each; what supplied a
component was declared, and what was held was built. -/
structure Ledger (events : List Event) : Prop where
  proper : Proper events
  unique : Univocal events
  declared : ∀ {c f}, Has events c (.instanceOf f) → ∃ r, Has events f (.filter r)
  built : ∀ {r}, 0 < events.countP (·.holds r) →
    ∃ filters servlets, Has events r (.registry filters servlets)

namespace Ledger

variable {events : List Event} (ledger : Ledger events)
include ledger

theorem alive {r c : Nat} (owns : Owns events r c) (going : ¬ Retired events r) :
    ¬ Destroyed events c := by
  intro destroyed
  obtain ⟨k, owner, retired⟩ := ledger.proper.owner_retired destroyed
  obtain rfl := ledger.unique.owner owns owner
  exact going retired

/-- At a moment at which what was due is done, a component of a registry was destroyed once if the
registry is retired, and never otherwise. -/
theorem destroyed_once (settled : Settled events) {later past : List Event}
    (split : events = later ++ past)
    (moment : ∀ e, later.getLast? = some e → e.isEnd = false) {r c : Nat} (owns : Owns past r c) :
    past.countP (·.ends c) = if Retired past r then 1 else 0 := by
  have proper : Proper past := (split ▸ ledger.proper).of_append
  have suffix : past <:+ events := ⟨later, split.symm⟩
  have settled : Settled past := by
    rcases List.eq_nil_or_concat later with rfl | ⟨rest, e, rfl⟩
    · rwa [split] at settled
    · rw [List.concat_eq_append, List.append_assoc] at split
      have fits : Proper (e :: past) := (split ▸ ledger.proper).of_append
      exact fits.1.settled (moment e (by simp))
  have most := proper.countP_ends_le c
  split
  · rename_i retired
    have := destroyed_iff_countP.1 (settled owns retired)
    omega
  · rename_i going
    have : ¬ 0 < past.countP (·.ends c) := by
      intro destroyed
      obtain ⟨k, owner, retired⟩ := proper.owner_retired (destroyed_iff_countP.2 destroyed)
      obtain rfl := ledger.unique.owner (owns.later suffix) (owner.later suffix)
      exact going retired
    omega

theorem used {later earlier : List Event} {e : Event} (split : events = later ++ e :: earlier)
    {c : Nat} (uses : e.uses c = true) : earlier.countP (·.ends c) = 0 := by
  have fits : Proper (e :: earlier) := (split ▸ ledger.proper).of_append
  have none := mt destroyed_iff_countP.2 (fits.1.not_destroyed_of_uses uses)
  omega

theorem traversed {later earlier : List Event} {level p r : Nat} {servlet : String}
    {state : DispatchState} (split : events = later ++ .traversed level p r servlet state :: earlier) :
    ¬ Retired earlier r := by
  have fits : Proper (.traversed level p r servlet state :: earlier) :=
    (split ▸ ledger.proper).of_append
  exact fits.1.2

theorem cons {e : Event} (fits : e.Fits events)
    (news : ∀ {n a}, (n, a) ∈ e.roles →
      (∀ b, Has events n b → a = b) ∧ ∀ b, (n, b) ∈ e.roles → a = b)
    (declared : ∀ {c f}, (c, .instanceOf f) ∈ e.roles → ∃ r, Has events f (.filter r))
    (built : ∀ {r}, e.holds r = true →
      ∃ filters servlets, Has events r (.registry filters servlets)) : Ledger (e :: events) := by
  have suffix : events <:+ e :: events := List.suffix_cons ..
  refine ⟨⟨fits, ledger.proper⟩, ?_, ?_, ?_⟩
  · intro n a b ha hb
    rcases has_cons.1 ha with ha | ha <;> rcases has_cons.1 hb with hb | hb
    · exact (news ha).2 b hb
    · exact (news ha).1 b hb
    · exact ((news hb).1 a ha).symm
    · exact ledger.unique ha hb
  · intro c f made
    rcases has_cons.1 made with told | made
    · obtain ⟨r, filter⟩ := declared told
      exact ⟨r, filter.later suffix⟩
    · obtain ⟨r, filter⟩ := ledger.declared made
      exact ⟨r, filter.later suffix⟩
  · intro r held
    have before : ∃ filters servlets, Has events r (.registry filters servlets) := by
      cases holds : e.holds r with
      | true => exact built holds
      | false =>
        rw [List.countP_cons_of_neg (by simp [holds])] at held
        exact ledger.built held
    obtain ⟨filters, servlets, built⟩ := before
    exact ⟨filters, servlets, built.later suffix⟩

end Ledger

/-! ### Journals that agree -/

/-- The event changes neither what registries own nor how often they are held. -/
def Event.isIdle : Event → Bool
  | .built _ _ _ | .supplied _ _ _ | .held _ | .released _ => false
  | _ => true

theorem Event.silent_of_isIdle {e : Event} (idle : e.isIdle = true) :
    e.roles = [] ∧ ∀ r, e.holds r = false ∧ e.releases r = false := by
  cases e <;> cases idle <;> exact ⟨rfl, fun _ => ⟨rfl, rfl⟩⟩

/-- Two journals agree on what numbers stand for and how often registries are held. -/
structure Alike (first second : List Event) : Prop where
  has : ∀ {n role}, Has second n role ↔ Has first n role
  holds : ∀ r, second.countP (·.holds r) = first.countP (·.holds r)
  releases : ∀ r, second.countP (·.releases r) = first.countP (·.releases r)

namespace Alike

variable {first second third : List Event}

theorem refl (events : List Event) : Alike events events := ⟨Iff.rfl, fun _ => rfl, fun _ => rfl⟩

theorem trans (h₁ : Alike first second) (h₂ : Alike second third) : Alike first third :=
  ⟨h₂.has.trans h₁.has, fun r => (h₂.holds r).trans (h₁.holds r),
    fun r => (h₂.releases r).trans (h₁.releases r)⟩

theorem cons (events : List Event) {e : Event} (idle : e.isIdle = true) :
    Alike events (e :: events) := by
  have silent := Event.silent_of_isIdle idle
  refine ⟨has_cons_of_untold silent.1, fun r => List.countP_cons_of_neg ?_,
    fun r => List.countP_cons_of_neg ?_⟩
  · simp [(silent.2 r).1]
  · simp [(silent.2 r).2]

theorem append (events : List Event) {new : List Event} (idle : ∀ e ∈ new, e.isIdle = true) :
    Alike events (new ++ events) := by
  induction new with
  | nil => exact .refl events
  | cons e rest ih =>
    exact (ih fun e he => idle e (List.mem_cons_of_mem _ he)).trans
      (cons _ (idle e (List.mem_cons_self ..)))

theorem owns (h : Alike first second) {r c : Nat} : Owns second r c ↔ Owns first r c := by
  simp only [owns_iff, h.has]

theorem retired (h : Alike first second) {r : Nat} : Retired second r ↔ Retired first r := by
  rw [Retired, Retired, h.holds, h.releases]

theorem settled (h : Alike first second) (suffix : first <:+ second) (done : Settled first) :
    Settled second := fun _ _ owns retired =>
  (done (h.owns.1 owns) (h.retired.1 retired)).later suffix

end Alike

theorem Ledger.idle {events : List Event} (ledger : Ledger events) {e : Event}
    (fits : e.Fits events) (idle : e.isIdle = true) : Ledger (e :: events) := by
  obtain ⟨told, counted⟩ := Event.silent_of_isIdle idle
  refine ledger.cons fits ?_ ?_ ?_
  · intro n a news
    rw [told] at news
    cases news
  · intro c f news
    rw [told] at news
    cases news
  · intro r holds
    rw [(counted r).1] at holds
    cases holds

end ServletFilters
