import ServletFilters.Proofs.Container.Pipelines
import ServletFilters.Proofs.Container.Visits

/-!
What happens inside a traversal stays at its level or deeper, `callsAmid_deeper`; a dispatch or a
reload is aside of the chain that it is made from, `dispatch_aside` and `reload_aside`.
-/

namespace ServletFilters

/-- The event is of no chain, or of one at this level or deeper. -/
def Event.FromLevel (n : Nat) (e : Event) : Prop := ∀ level, e.level? = some level → n ≤ level

theorem Event.level?_of_isCalm {e : Event} (h : e.isCalm = true) : e.level? = none := by
  cases e <;> first | rfl | cases h

theorem Event.fromLevel_of_none {n : Nat} {e : Event} (h : e.level? = none) : e.FromLevel n := by
  intro level here
  rw [h] at here
  cases here

theorem Event.fromLevel_of_isPlain {n : Nat} {e : Event} (h : e.isPlain = true) : e.FromLevel n :=
  Event.fromLevel_of_none (Event.level?_of_isCalm (Event.isCalm_of_isPlain h))

theorem Event.FromLevel.mono {m n : Nat} {e : Event} (h : e.FromLevel n) (le : m ≤ n) :
    e.FromLevel m := fun level at_level => Nat.le_trans le (h level at_level)

/-- All that happened since is of this level or deeper. -/
structure Deeper (n : Nat) (s t : Container) : Prop where
  nesting : t.nesting = s.nesting
  journal : Appends (·.FromLevel n) s t

/-- What happened since is of no chain, and the request is the same one. -/
structure Offstage (s t : Container) : Prop where
  request : t.request.fixed = s.request.fixed
  chain : t.chain = s.chain
  nesting : t.nesting = s.nesting
  journal : Appends (·.level? = none) s t

/-- What happened since is not of the chain that is current. -/
structure Aside (s t : Container) : Prop where
  chain : t.chain = s.chain
  nesting : t.nesting = s.nesting
  journal : Appends (·.FromLevel (s.nesting + 1)) s t

theorem Deeper.refl (n : Nat) (s : Container) : Deeper n s s := ⟨rfl, .refl s⟩

theorem Deeper.trans {n : Nat} {s t u : Container} (h₁ : Deeper n s t) (h₂ : Deeper n t u) :
    Deeper n s u :=
  ⟨h₂.nesting.trans h₁.nesting, h₁.journal.trans h₂.journal⟩

theorem Deeper.note {n : Nat} (s : Container) {e : Event} (h : e.FromLevel n) :
    Deeper n s (s.note e) := ⟨rfl, .note s h⟩

theorem Aside.refl (s : Container) : Aside s s := ⟨rfl, rfl, .refl s⟩

theorem Aside.trans {s t u : Container} (h₁ : Aside s t) (h₂ : Aside t u) : Aside s u :=
  ⟨h₂.chain.trans h₁.chain, h₂.nesting.trans h₁.nesting,
    h₁.journal.trans (h₁.nesting ▸ h₂.journal)⟩

theorem Aside.deeper {n : Nat} {s t : Container} (h : Aside s t) (le : n ≤ s.nesting) :
    Deeper n s t :=
  ⟨h.nesting, h.journal.imp fun _ deep => deep.mono (Nat.le_succ_of_le le)⟩

theorem Offstage.trans {s t u : Container} (h₁ : Offstage s t) (h₂ : Offstage t u) :
    Offstage s u :=
  ⟨h₂.request.trans h₁.request, h₂.chain.trans h₁.chain, h₂.nesting.trans h₁.nesting,
    h₁.journal.trans h₂.journal⟩

theorem Offstage.aside {s t : Container} (h : Offstage s t) : Aside s t :=
  ⟨h.chain, h.nesting, h.journal.imp fun _ => Event.fromLevel_of_none⟩

theorem Calm.offstage {s t : Container} (h : Calm s t) : Offstage s t :=
  ⟨h.request, h.chain, h.nesting, h.journal.imp fun _ => Event.level?_of_isCalm⟩

theorem Calm.aside {s t : Container} (h : Calm s t) : Aside s t := h.offstage.aside

theorem Quiet.aside {s t : Container} (h : Quiet s t) : Aside s t := h.calm.aside

theorem Rebinds.offstage {p : Nat} {r : Option Registry} {s t : Container} (h : Rebinds p r s t) :
    Offstage s t :=
  ⟨congrArg Request.fixed h.request, h.chain, h.nesting, [], h.journal, by rintro e ⟨⟩⟩

theorem Offstage.note (s : Container) {e : Event} (h : e.level? = none) : Offstage s (s.note e) :=
  ⟨rfl, rfl, rfl, .note s h⟩

theorem steady_aside : Steady (fun _ => True) Aside :=
  ⟨fun _ => .refl _, Aside.trans, fun _ quiet => ⟨trivial, quiet.aside⟩⟩

theorem reload_offstage (p : Nat) (config : Config) (s : Container) :
    Offstage s (Pipeline.reload p config s).2 := by
  rcases Pipeline.reload_cases p config s with
    quiet | ⟨old, r, t, u, v, middle, -, quiet, -, -, more, rebinds, after⟩
  · exact quiet.calm.offstage
  · have built : Offstage s (t.note r.birth) := quiet.calm.offstage.trans (.note t rfl)
    have bound := (built.trans more.calm.offstage).trans rebinds.offstage
    have swapped := bound.trans ((r.hold_calm v).offstage.trans
      (.note _ (e := .installed p r.serial) rfl))
    exact (swapped.trans (old.letGo_calm _).offstage).trans after.calm.offstage

theorem reload_aside (p : Nat) (config : Config) (s : Container) :
    Aside s (Pipeline.reload p config s).2 := (reload_offstage p config s).aside

theorem meanwhile_aside (outside : Outside) (s : Container) : Aside s (meanwhile outside s).2 :=
  meanwhile_across .refl .trans reload_aside outside s

theorem course_deeper (n : Nat) :
    Course (fun s => n ≤ s.nesting) (Deeper n) (fun _ _ => True) where
  refl := fun _ => .refl n _
  trans := Deeper.trans
  quiet := by
    intro s t h quiet
    exact ⟨quiet.nesting ▸ h, quiet.aside.deeper h⟩
  ready_of_rel := fun _ _ => trivial
  edit := by
    intro s t h edit
    cases edit <;> refine ⟨h, rfl, [_], rfl, ?_⟩ <;> simpa [Event.FromLevel, Event.level?] using h
  advance := by
    intro s f h _
    refine ⟨h, rfl, [_], rfl, ?_⟩
    simpa [Event.FromLevel, Event.level?] using h
  exhaust := by
    intro s h _
    refine ⟨h, .note s ?_⟩
    simpa [Event.FromLevel, Event.level?] using h
  obtain := by
    intro s f h _
    rcases f.obtain_calm s with ⟨c, t, calm, given⟩ | ⟨r, t, given, calm, -⟩ <;> rw [given]
    · have supply : (Event.supplied s.nesting f.serial c.serial).FromLevel n := by
        rintro level ⟨⟩
        exact h
      exact ⟨calm.nesting ▸ h, (calm.aside.deeper h).trans (.note t supply), fun _ _ => trivial⟩
    · exact ⟨calm.nesting ▸ h, calm.aside.deeper h, fun _ _ => trivial⟩
  servlet := fun _ _ => trivial
  invoke := by
    intro s c stage h _
    refine ⟨h, .note s ?_⟩
    simpa [Event.FromLevel, Event.level?] using h

theorem dispatch_aside {calls : Calls}
    (kept : ∀ n call, (calls call).Keeps (fun s => n ≤ s.nesting) (Deeper n)) (p : Nat)
    (dispatcher : Dispatcher) (target : Target) (s : Container) :
    Aside s (Pipeline.dispatch calls p dispatcher target s).2 := by
  have visit : ∀ {registry wrapper state pooled} s,
      True ∧ Aside s (Pipeline.dispatchTo calls p registry wrapper state pooled s).2 := by
    intro registry wrapper state pooled s
    refine steady_aside.dispatchTo trivial ?_ state pooled
    rintro s v - - ⟨chain, state, -, -, quiet⟩
    have level : v.nesting = s.nesting + 1 := quiet.nesting
    have opened : Appends (·.FromLevel (s.nesting + 1)) s v := by
      obtain ⟨new, journal, plain⟩ := quiet.journal
      refine ⟨new ++ [.traversed (s.nesting + 1) p registry.serial wrapper.name state], ?_, ?_⟩
      · rw [journal, List.append_assoc]
        rfl
      · intro e he
        rcases List.mem_append.1 he with he | he
        · exact Event.fromLevel_of_isPlain (plain e he)
        · obtain rfl := List.mem_singleton.1 he
          simp [Event.FromLevel, Event.level?]
    have inside := (course_deeper (s.nesting + 1)).doFilter (kept (s.nesting + 1)) v
      (Nat.le_of_eq level.symm)
    exact ⟨trivial, rfl, rfl, opened.trans inside.2.journal⟩
  refine (steady_aside.dispatch ?_ dispatcher target s trivial).2
  intro dispatcher target s _
  rcases dispatchNested_cases calls p dispatcher target s with same | ⟨r, -, dispatched⟩
  · rw [same]
    exact steady_aside.same trivial
  · rw [dispatched]
    have inside : Aside (r.hold s) (Pipeline.divert calls p r dispatcher target (r.hold s)).2 :=
      (steady_aside.divert trivial (fun _ => visit _) dispatcher target).2
    exact ⟨trivial, ((r.hold_calm s).aside.trans inside).trans (r.letGo_calm _).aside⟩

theorem callsAmid_deeper (outside : Outside) (levels : Nat) :
    ∀ n call, (callsAmid outside levels call).Keeps (fun s => n ≤ s.nesting) (Deeper n) := by
  have within : ∀ {n : Nat} {s t : Container}, n ≤ s.nesting → Aside s t →
      n ≤ t.nesting ∧ Deeper n s t :=
    fun h aside => ⟨aside.nesting ▸ h, aside.deeper h⟩
  refine callsAmid_keeps course_deeper ?_ ?_ outside levels
  · intro calls kept n p dispatcher target s h
    exact within h (dispatch_aside kept p dispatcher target s)
  · intro n p config s h
    exact within h (reload_aside p config s)

/-- What is kept aside of a chain, and by each of its moves, is kept whatever a component calls: by
induction on the levels that are left. -/
theorem callsAmid_keeps_aside {rel : Container → Container → Prop}
    {ready : Component → Container → Prop} (course : Course (fun _ => True) rel ready)
    (aside : ∀ {s t}, Aside s t → rel s t) (outside : Outside) (levels : Nat) :
    ∀ call, (callsAmid outside levels call).Keeps (fun _ => True) rel := by
  induction levels with
  | zero => exact fun _ => course.keeps_halt _
  | succ n ih =>
    intro call s _
    refine ⟨trivial, ?_⟩
    have before := aside (meanwhile_aside outside s)
    have answered : rel (meanwhile outside s).2
        (call.answer (callsAmid outside n) (meanwhile outside s).2).2 := by
      cases call with
      | proceed => exact (course.doFilter ih _ trivial).2
      | dispatch p dispatcher target =>
        exact aside (dispatch_aside (callsAmid_deeper outside n) p dispatcher target _)
      | reload p config =>
        change rel _ ((Pipeline.reload p config >>= fun r => pure _) _).2
        rw [Run.bind_pure_snd]
        exact aside (reload_aside p config _)
    obtain ⟨t, ended, ran⟩ := callsAmid_answer outside n call s
    rw [ran]
    rcases ended with rfl | rfl
    · exact course.trans before answered
    · exact course.trans before (course.trans answered (aside (meanwhile_aside outside _)))

end ServletFilters
