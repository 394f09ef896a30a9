import ServletFilters.Proofs.Container.Reloading

/-!
The occasions on which components are called. Whatever calls a component is a call to go on that the
outermost traversal leads to, `doFilter_called`, in that traversal itself or in a visit inside it,
`Leads.begun`.
-/

namespace ServletFilters

/-- What a traversal was begun for. -/
structure Visit where
  pipeline : Nat
  registry : Nat
  servlet : String
  state : DispatchState
  deriving DecidableEq

def Event.visit? (level : Nat) : Event → Option Visit
  | .traversed l pipeline registry servlet state =>
    if l = level then some { pipeline, registry, servlet, state } else none
  | _ => none

/-- The visit that is going on at a level. -/
def visitAt (level : Nat) (events : List Event) : Option Visit :=
  events.findSome? (·.visit? level)

theorem Event.visit?_of_level {level : Nat} {e : Event} (other : e.level? ≠ some level) :
    e.visit? level = none := by
  cases e with
  | traversed l p r w state => exact if_neg fun same => other (congrArg some same)
  | _ => rfl

theorem visitAt_append {level : Nat} {later earlier : List Event}
    (silent : ∀ e ∈ later, e.visit? level = none) :
    visitAt level (later ++ earlier) = visitAt level earlier := by
  rw [visitAt, List.findSome?_append, List.findSome?_eq_none_iff.2 silent, Option.none_or]
  rfl

/-! ### What stays the same -/

/-- The later state is in the same traversal as the earlier one or in one inside it. -/
structure Amid (s t : Container) : Prop where
  deeper : s.nesting ≤ t.nesting
  request : t.request.fixed = s.request.fixed
  executing : ∀ p, t.executing p = s.executing p
  grows : s.journal <:+ t.journal
  visits : ∀ level ≤ s.nesting, visitAt level t.journal = visitAt level s.journal

/-- The later state is in the same traversal as the earlier one. -/
structure Abides (s t : Container) : Prop extends Amid s t where
  executor : t.chain.executor = s.chain.executor
  nesting : t.nesting = s.nesting

theorem Amid.trans {s t u : Container} (h₁ : Amid s t) (h₂ : Amid t u) : Amid s u :=
  ⟨Nat.le_trans h₁.deeper h₂.deeper, h₂.request.trans h₁.request,
    fun p => (h₂.executing p).trans (h₁.executing p), h₁.grows.trans h₂.grows,
    fun level le => (h₂.visits level (Nat.le_trans le h₁.deeper)).trans (h₁.visits level le)⟩

theorem Abides.trans {s t u : Container} (h₁ : Abides s t) (h₂ : Abides t u) : Abides s u :=
  ⟨h₁.toAmid.trans h₂.toAmid, h₂.executor.trans h₁.executor, h₂.nesting.trans h₁.nesting⟩

theorem Abides.of_appends {s t : Container} (request : t.request.fixed = s.request.fixed)
    (executing : ∀ p, t.executing p = s.executing p) (executor : t.chain.executor = s.chain.executor)
    (nesting : t.nesting = s.nesting)
    (journal : Appends (fun e => ∀ level ≤ s.nesting, e.visit? level = none) s t) : Abides s t := by
  refine ⟨⟨Nat.le_of_eq nesting.symm, request, executing, journal.suffix, ?_⟩, executor, nesting⟩
  intro level le
  obtain ⟨new, journal, silent⟩ := journal
  rw [journal]
  exact visitAt_append fun e member => silent e member level le

theorem Abides.note (s : Container) {e : Event} (silent : ∀ level ≤ s.nesting, e.visit? level = none) :
    Abides s (s.note e) := .of_appends rfl (fun _ => rfl) rfl rfl (.note s silent)

theorem Abides.refl (s : Container) : Abides s s :=
  .of_appends rfl (fun _ => rfl) rfl rfl (.refl s)

theorem Offstage.abides {s t : Container} (h : Offstage s t)
    (executing : ∀ p, t.executing p = s.executing p) : Abides s t := by
  refine .of_appends h.request executing (congrArg Chain.executor h.chain) h.nesting ?_
  refine h.journal.imp fun e none level _ => Event.visit?_of_level ?_
  rw [none]
  rintro ⟨⟩

theorem Calm.abides {s t : Container} (h : Calm s t) : Abides s t := h.offstage.abides h.executing

theorem Quiet.abides {s t : Container} (h : Quiet s t) : Abides s t := h.calm.abides

theorem Settles.executing {s t : Container} (h : Settles s t) (p : Nat) :
    t.executing p = s.executing p := by
  unfold Container.executing
  rcases rel_cases (h.pipelines p) with ⟨before, after⟩ | ⟨x, y, before, after, succeeds⟩ <;>
    rw [before, after]
  exact congrArg some succeeds.executor

theorem reload_abides (p : Nat) (config : Config) (s : Container) :
    Abides s (Pipeline.reload p config s).2 := by
  exact (reload_offstage p config s).abides
    (Settles.executing (reload_settles fun x _ => build_grown config x.components s))

theorem course_abides : Course (fun _ => True) Abides (fun _ _ => True) where
  refl := fun _ => .refl _
  trans := Abides.trans
  quiet := fun _ quiet => ⟨trivial, quiet.abides⟩
  ready_of_rel := fun _ _ => trivial
  edit := by
    intro s t _ edit
    cases edit <;> exact ⟨trivial, .of_appends rfl (fun _ => rfl) rfl rfl (.note s fun _ _ => rfl)⟩
  advance := fun _ _ =>
    ⟨trivial, .of_appends rfl (fun _ => rfl) rfl rfl (.note _ fun _ _ => rfl)⟩
  exhaust := fun _ _ => ⟨trivial, .note _ fun _ _ => rfl⟩
  obtain := by
    intro s f _ _
    rcases f.obtain_calm s with ⟨c, t, calm, given⟩ | ⟨r, t, given, calm, -⟩ <;> rw [given]
    · exact ⟨trivial, calm.abides.trans (.note t fun _ _ => rfl), fun _ _ => trivial⟩
    · exact ⟨trivial, calm.abides, fun _ _ => trivial⟩
  servlet := fun _ _ => trivial
  invoke := fun _ _ _ => ⟨trivial, .note _ fun _ _ => rfl⟩

/-! ### Visits -/

/-- A visit goes on inside a state, and this is where it started its chain. -/
def Begun (s u : Container) : Prop :=
  ∃ t p r w base, Amid s t ∧ (∀ E, t.executing p = some (some E) → base.executor = some E) ∧
    Entered p r w base t u

theorem Entered.amid {p : Nat} {r : Registry} {w : Wrapper} {base : Chain} {t u : Container}
    (h : Entered p r w base t u) : Amid t u ∧ u.nesting = t.nesting + 1 ∧
      u.chain.executor = base.executor ∧
      visitAt u.nesting u.journal = some ⟨p, r.serial, w.name, t.request.dispatch⟩ := by
  have nesting : u.nesting = t.nesting + 1 := h.quiet.nesting
  have quiet : Appends (fun e => ∀ level, e.visit? level = none) _ u := h.quiet.journal.imp
    fun e plain level => by cases e <;> first | rfl | cases plain
  obtain ⟨new, journal, silent⟩ := quiet
  have told : ∀ level, visitAt level u.journal = visitAt level
      (.traversed (t.nesting + 1) p r.serial w.name t.request.dispatch :: t.journal) := fun level => by
    rw [journal]
    exact visitAt_append fun e member => silent e member level
  obtain ⟨names, request⟩ := h.request
  refine ⟨⟨?_, ?_, h.quiet.executing, ?_, ?_⟩, nesting, ?_, ?_⟩
  · omega
  · rw [request]
    rfl
  · rw [journal]
    exact (List.suffix_cons _ _).trans (List.suffix_append _ _)
  · intro level le
    rw [told]
    have other : (Event.traversed (t.nesting + 1) p r.serial w.name t.request.dispatch).visit? level =
        none := if_neg (by omega)
    have alone : ∀ e ∈ [Event.traversed (t.nesting + 1) p r.serial w.name t.request.dispatch],
        e.visit? level = none := by
      simpa using other
    exact visitAt_append alone
  · rw [h.quiet.chain]
    exact populated_executor r w t.request.dispatch base
  · rw [told, nesting]
    simp [visitAt, Event.visit?]

theorem Begun.after {s t u : Container} (h : Begun t u) (amid : Amid s t) : Begun s u := by
  obtain ⟨v, p, r, w, base, inside, rest⟩ := h
  exact ⟨v, p, r, w, base, amid.trans inside, rest⟩

/-- What is known of a visit from the events before it: for what it was begun, and that the executor
of its pipeline is the one of its chain. -/
theorem Begun.visit {s u : Container} (h : Begun s u) : Amid s u ∧ s.nesting < u.nesting ∧
    ∃ visit, visitAt u.nesting u.journal = some visit ∧
      ∀ E, s.executing visit.pipeline = some (some E) → u.chain.executor = some E := by
  obtain ⟨t, p, r, w, base, amid, given, entered⟩ := h
  obtain ⟨inside, nesting, executor, told⟩ := entered.amid
  refine ⟨amid.trans inside, ?_, _, told, fun E privileged => ?_⟩
  · have := amid.deeper
    omega
  · rw [executor]
    exact given E ((amid.executing p).trans privileged)

/-- A call to go on that a traversal comes to, and the levels that are left for it: the one it begins
with, or one that comes of a call that a component makes. -/
inductive Leads (outside : Outside) : Nat → Container → Nat → Container → Prop where
  | here {n s} : Leads outside n s n s
  | inside {n s call w t m g} : (call, w) ∈ Traversal.inner (callsAmid outside (n + 1)) s →
      t ∈ call.starts (meanwhile outside w).2 → Leads outside n t m g → Leads outside (n + 1) s m g

theorem meanwhile_abides (outside : Outside) (s : Container) :
    Abides s (meanwhile outside s).2 :=
  meanwhile_across .refl .trans reload_abides outside s

theorem visit_abides {calls : Calls} (kept : ∀ call, (calls call).Keeps (fun _ => True) Abides)
    {p : Nat} {r : Registry} {w : Wrapper} {base : Chain} {t u : Container}
    (entered : Entered p r w base t u) : Abides t (t.leave (Traversal.doFilter calls u).2) := by
  have inside := entered.amid.1.trans (course_abides.doFilter kept u trivial).2.toAmid
  exact ⟨⟨Nat.le_refl _, inside.request, inside.executing, inside.grows, inside.visits⟩, rfl, rfl⟩

theorem dispatch_abides {calls : Calls} (kept : ∀ call, (calls call).Keeps (fun _ => True) Abides)
    (p : Nat) (dispatcher : Dispatcher) (target : Target) (s : Container) :
    Abides s (Pipeline.dispatch calls p dispatcher target s).2 := by
  rcases dispatch_cases calls p dispatcher target s with
    ⟨-, calm, -⟩ | ⟨x, w, path, base, t, u, -, -, -, -, before, -, -, entered, -, after⟩
  · exact calm.toCalm.abides
  · exact (before.toCalm.abides.trans (visit_abides kept entered)).trans after.toCalm.abides

theorem callsAmid_abides (outside : Outside) (levels : Nat) (call : Call) :
    (callsAmid outside levels call).Keeps (fun _ => True) Abides :=
  callsAmid_keeps (ι := Unit) (fun _ => course_abides)
    (fun kept _ p dispatcher target s _ => ⟨trivial, dispatch_abides (kept ()) p dispatcher target s⟩)
    (fun _ p config s _ => ⟨trivial, reload_abides p config s⟩) outside levels () call

theorem doFilter_abides (outside : Outside) (levels : Nat) (s : Container) :
    Traversal.Keeps (fun _ => True) Abides (fun _ _ => True) (callsAmid outside levels) s :=
  course_abides.toWay.doFilter trivial
    (fun c _ here _ able => course_abides.invoke c.1.stage here able)
    fun c _ here _ => callsAmid_abides outside levels c.1 c.2 here

theorem starts_begun {call : Call} {s t : Container} (start : t ∈ call.starts s) :
    (call = .proceed ∧ t = s) ∨ Begun s t := by
  cases call with
  | proceed => exact .inl ⟨rfl, List.mem_singleton.1 start⟩
  | dispatch p dispatcher target =>
    have start : t ∈ Pipeline.dispatchStarts p dispatcher target s := start
    rcases dispatch_cases (fun _ => Run.halt .exhausted) p dispatcher target s with
      ⟨none, -⟩ | ⟨x, w, path, base, v, u, found, -, new, starts, ebbs, -, -, entered, -⟩
    · rw [none] at start
      cases start
    · rw [starts] at start
      obtain rfl := List.mem_singleton.1 start
      refine .inr ⟨v, p, x.registry, w, base, ebbs.toCalm.abides.toAmid, fun E privileged => ?_, entered⟩
      rw [ebbs.executing, Container.executing, found] at privileged
      exact new.trans (Option.some.inj privileged)
  | reload p config => cases start

theorem dispatchTo_abides {calls : Calls} (kept : ∀ call, (calls call).Keeps (fun _ => True) Abides)
    (p : Nat) (r : Registry) (w : Wrapper) (state : DispatchState) (pooled : Bool) (s : Container) :
    Abides s (Pipeline.dispatchTo calls p r w state pooled s).2 ∧
      ∀ u ∈ Pipeline.starts p r w state pooled s, Begun s u := by
  rcases dispatchTo_cases calls p r w state pooled s with
    ⟨-, none, t, quiet, ran⟩ | ⟨x, base, t, u, found, lends, only, quiet, -, entered, -, after⟩
  · rw [ran, none]
    exact ⟨quiet.abides, by rintro u ⟨⟩⟩
  · refine ⟨(quiet.abides.trans (visit_abides kept entered)).trans after.abides, fun v start => ?_⟩
    rw [only] at start
    obtain rfl := List.mem_singleton.1 start
    refine ⟨t, p, r, w, base, quiet.abides.toAmid, fun E privileged => lends.keeps ?_, entered⟩
    rw [quiet.executing, Container.executing, found] at privileged
    exact Option.some.inj privileged

theorem serviceStarts_begun {outside : Outside} {levels p : Nat} {s u : Container}
    (start : u ∈ Pipeline.serviceStarts (callsAmid outside levels) p s) : Begun s u := by
  rcases serviceWith_traverses (callsAmid outside levels) p s with
    ⟨none, -⟩ | ⟨x, w, -, -, starts, -⟩
  · rw [none] at start
    cases start
  · rw [starts] at start
    have attached : Calm s (x.registry.hold (s.attach p)) :=
      (Quiet.updateRequest s rfl).calm.trans (x.registry.hold_calm _)
    have visit := fun dispatcher t => dispatchTo_abides (callsAmid_abides outside levels) p x.registry w
      { dispatcher, path := some s.request.path } true t
    obtain ⟨-, met⟩ := traverse_reaches (P := Abides s)
      (fun t h => h.trans (takeAsync_quiet t).abides) attached.abides
      fun dispatcher t before _ => before.trans (visit dispatcher t).1
    obtain ⟨dispatcher, t, before, member⟩ := met u start
    exact ((visit dispatcher t).2 u member).after before.toAmid

theorem Leads.begun {outside : Outside} {n m : Nat} {s g : Container}
    (h : Leads outside n s m g) : Abides s g ∨ ∃ u, Begun s u ∧ Abides u g := by
  induction h with
  | here => exact .inl (.refl _)
  | @inside n s call w t m g made start _ ih =>
    have before : Abides s (meanwhile outside w).2 :=
      ((doFilter_abides outside (n + 1) s).inner _ made).2.trans (meanwhile_abides outside w)
    rcases starts_begun start with ⟨-, rfl⟩ | begun
    · rcases ih with same | ⟨u, begun, rest⟩
      · exact .inl (before.trans same)
      · exact .inr ⟨u, begun.after before.toAmid, rest⟩
    · have begun := begun.after before.toAmid
      rcases ih with same | ⟨u, later, rest⟩
      · exact .inr ⟨t, begun, same⟩
      · exact .inr ⟨u, later.after begun.visit.1, rest⟩

/-! ### Accounting for events -/

/-- The event came up since the earlier state, after these other ones. -/
def Added (e : Event) (past : List Event) (s t : Container) : Prop :=
  s.journal <:+ past ∧ ∃ later, t.journal = later ++ e :: past

/-- Each event that came up since fits the events before it. -/
structure Noted (fits : List Event → Event → Prop) (s t : Container) : Prop where
  grows : s.journal <:+ t.journal
  fits : ∀ {e past}, Added e past s t → fits past e

def Event.isInvoked : Event → Bool
  | .invoked _ _ _ _ _ => true
  | _ => false

section Noting

variable {fits : List Event → Event → Prop} {s t u : Container}

theorem Noted.trans (h₁ : Noted fits s t) (h₂ : Noted fits t u) : Noted fits s u := by
  refine ⟨h₁.grows.trans h₂.grows, fun {e past} added => ?_⟩
  obtain ⟨since, later, journal⟩ := added
  -- The event stands in what the second part has added, or was there when it began.
  have place : e :: past <:+ u.journal := ⟨later, journal.symm⟩
  rcases List.suffix_or_suffix_of_suffix h₂.grows place with after | before
  · rcases List.suffix_cons_iff.1 after with last | after
    · exact h₁.fits ⟨since, [], last⟩
    · exact h₂.fits ⟨after, later, journal⟩
  · obtain ⟨between, before⟩ := before
    exact h₁.fits ⟨since, between, before.symm⟩

theorem Noted.imp {other : List Event → Event → Prop} (h : Noted fits s t)
    (weaker : ∀ past e, fits past e → other past e) : Noted other s t :=
  ⟨h.grows, fun added => weaker _ _ (h.fits added)⟩

theorem not_added (e : Event) (past : List Event) (s : Container) : ¬ Added e past s s := by
  rintro ⟨since, later, journal⟩
  have shorter := since.length_le
  rw [journal, List.length_append, List.length_cons] at shorter
  omega

theorem Noted.refl (s : Container) : Noted fits s s :=
  ⟨List.suffix_rfl, fun added => absurd added (not_added _ _ s)⟩

theorem Noted.note (s : Container) {e : Event} (h : fits s.journal e) : Noted fits s (s.note e) := by
  refine ⟨List.suffix_cons _ _, fun {e' past} added => ?_⟩
  obtain ⟨since, later, journal⟩ := added
  have journal : e :: s.journal = later ++ e' :: past := journal
  cases later with
  | nil =>
    obtain ⟨rfl, rfl⟩ := List.cons_eq_cons.1 journal
    exact h
  | cons _ rest => exact absurd ⟨since, rest, (List.cons_eq_cons.1 journal).2⟩ (not_added _ _ s)

variable (plain : ∀ past e, e.isInvoked = false → fits past e)
include plain

theorem Noted.of_appends (journal : Appends (·.isInvoked = false) s t) : Noted fits s t := by
  obtain ⟨new, journal, silent⟩ := journal
  refine ⟨⟨new, journal.symm⟩, fun {e past} added => plain past e (silent e ?_)⟩
  obtain ⟨⟨between, rfl⟩, later, place⟩ := added
  have split : new = later ++ e :: between := by
    refine List.append_cancel_right (journal.symm.trans (place.trans ?_))
    rw [List.append_assoc, List.cons_append]
  rw [split]
  exact List.mem_append_right _ (List.mem_cons_self ..)

theorem Offstage.noted (h : Offstage s t) : Noted fits s t :=
  .of_appends plain (h.journal.imp fun e none => by cases e <;> first | rfl | cases none)

theorem way_noted : Way (fun _ => True) (Noted fits) (fun _ _ => True) where
  refl := fun _ => .refl _
  trans := Noted.trans
  quiet := fun _ quiet => ⟨trivial, quiet.calm.offstage.noted plain⟩
  ready_of_rel := fun _ _ => trivial
  edit := by
    intro s t _ edit
    cases edit <;> exact ⟨trivial, .of_appends plain (.note s rfl)⟩
  advance := fun _ _ => ⟨trivial, .of_appends plain (.note _ rfl)⟩
  exhaust := fun _ _ => ⟨trivial, .of_appends plain (.note _ rfl)⟩
  obtain := by
    intro s f _ _
    rcases f.obtain_calm s with ⟨c, t, calm, given⟩ | ⟨r, t, given, calm, -⟩ <;> rw [given]
    · exact ⟨trivial, (calm.offstage.noted plain).trans (.of_appends plain (.note t rfl)),
        fun _ _ => trivial⟩
    · exact ⟨trivial, calm.offstage.noted plain, fun _ _ => trivial⟩
  servlet := fun _ _ => trivial

theorem meanwhile_noted (outside : Outside) (s : Container) :
    Noted fits s (meanwhile outside s).2 :=
  meanwhile_across .refl .trans (fun p config s => (reload_offstage p config s).noted plain) outside s

theorem visit_noted {calls : Calls} {p : Nat} {r : Registry} {w : Wrapper} {base : Chain}
    (entered : Entered p r w base t u) (inside : Noted fits u (Traversal.doFilter calls u).2) :
    Noted fits t (t.leave (Traversal.doFilter calls u).2) := by
  have entered : Noted fits t u :=
    .of_appends plain (entered.appends rfl fun e h => by cases e <;> first | rfl | cases h)
  have both := entered.trans inside
  exact ⟨both.grows, both.fits⟩

theorem dispatch_noted {calls : Calls} {p : Nat} {dispatcher : Dispatcher} {target : Target}
    (inside : ∀ u ∈ Pipeline.dispatchStarts p dispatcher target s,
      Noted fits u (Traversal.doFilter calls u).2) :
    Noted fits s (Pipeline.dispatch calls p dispatcher target s).2 := by
  rcases dispatch_cases calls p dispatcher target s with
    ⟨-, calm, -⟩ | ⟨x, w, path, base, t, u, -, -, -, starts, before, -, -, entered, -, after⟩
  · exact calm.toCalm.offstage.noted plain
  · rw [starts] at inside
    have visit := visit_noted plain entered (inside u (List.mem_singleton_self u))
    exact ((before.toCalm.offstage.noted plain).trans visit).trans (after.toCalm.offstage.noted plain)

theorem serviceWith_noted {calls : Calls} {p : Nat}
    (inside : ∀ u ∈ Pipeline.serviceStarts calls p s, Noted fits u (Traversal.doFilter calls u).2) :
    Noted fits s (Pipeline.serviceWith calls p s).2 := by
  rcases serviceWith_traverses calls p s with ⟨-, calm, -⟩ | ⟨x, w, -, -, starts, -, after⟩
  · exact calm.toCalm.offstage.noted plain
  · rw [starts] at inside
    have attached : Calm s (x.registry.hold (s.attach p)) :=
      (Quiet.updateRequest s rfl).calm.trans (x.registry.hold_calm _)
    have kept : ∀ {t u}, Noted fits s t → Calm t u → Noted fits s u :=
      fun h calm => h.trans (calm.offstage.noted plain)
    obtain ⟨traversed, -⟩ := traverse_reaches (P := Noted fits s)
      (fun t h => kept h (takeAsync_quiet t).calm) (attached.offstage.noted plain)
      fun dispatcher t before member => by
        rcases dispatchTo_cases calls p x.registry w
            { dispatcher, path := some s.request.path } true t with
          ⟨-, -, v, quiet, ran⟩ | ⟨y, base, v, u, -, -, start, quiet, -, entered, -, after⟩
        · rw [ran]
          exact kept before quiet.calm
        · rw [start] at member
          have visit := visit_noted plain entered
            (inside u (member u (List.mem_singleton_self u)))
          exact kept ((kept before quiet.calm).trans visit) after.calm
    exact traversed.trans (after.toCalm.offstage.noted plain)

end Noting

/-- The event tells that a component is called, and this is how a traversal came to that. -/
def Event.CalledIn (outside : Outside) (levels : Nat) (s : Container) (past : List Event) (e : Event) :
    Prop :=
  e.isInvoked = true → ∃ m g i v, Leads outside levels s m g ∧
    (i, v) ∈ Traversal.invocations (callsAmid outside m) g ∧ v.journal = past ∧
    e = i.event v

theorem Event.CalledIn.plain {outside : Outside} {levels : Nat} {s : Container} (past : List Event)
    (e : Event) (other : e.isInvoked = false) : e.CalledIn outside levels s past := by
  intro invoked
  rw [other] at invoked
  cases invoked

theorem doFilter_calls {outside : Outside} {n : Nat} {s : Container}
    (inner : ∀ c ∈ Traversal.inner (callsAmid outside n) s,
      Noted (fun past e => e.CalledIn outside n s past) c.2 (callsAmid outside n c.1 c.2).2) :
    Noted (fun past e => e.CalledIn outside n s past) s
      (Traversal.doFilter (callsAmid outside n) s).2 :=
  ((way_noted Event.CalledIn.plain).doFilter trivial
    (fun c member _ _ _ => ⟨trivial, .note c.2 fun _ => ⟨n, s, c.1, c.2, .here, member, rfl, rfl⟩⟩)
    fun c member _ _ => ⟨trivial, inner c member⟩).ends.2

/-- Every component that a traversal calls is called in a call to go on that it leads to, by induction
on the levels that are left. -/
theorem doFilter_called (outside : Outside) (levels : Nat) : ∀ s,
    Noted (fun past e => e.CalledIn outside levels s past) s
      (Traversal.doFilter (callsAmid outside levels) s).2 := by
  induction levels with
  | zero => exact fun s => doFilter_calls fun c _ => .refl c.2
  | succ n ih =>
    refine fun s => doFilter_calls fun c made => ?_
    obtain ⟨call, w⟩ := c
    let before := (meanwhile outside w).2
    have inside : ∀ t ∈ call.starts before, Noted (fun past e => e.CalledIn outside (n + 1) s past) t
        (Traversal.doFilter (callsAmid outside n) t).2 := by
      intro t start
      refine (ih t).imp fun past e called invoked => ?_
      obtain ⟨m, g, i, v, leads, rest⟩ := called invoked
      exact ⟨m, g, i, v, .inside made start leads, rest⟩
    have answer : Noted (fun past e => e.CalledIn outside (n + 1) s past) before
        (call.answer (callsAmid outside n) before).2 := by
      cases call with
      | proceed => exact inside before (List.mem_singleton_self _)
      | dispatch p dispatcher target => exact dispatch_noted Event.CalledIn.plain inside
      | reload p config =>
        change Noted _ before ((Pipeline.reload p config >>= fun r => pure _) before).2
        rw [Run.bind_pure_snd]
        exact (reload_offstage p config before).noted Event.CalledIn.plain
    have earlier := (meanwhile_noted Event.CalledIn.plain outside w).trans answer
    obtain ⟨t, rfl | rfl, ran⟩ := callsAmid_answer outside n call w <;> rw [ran]
    · exact earlier
    · exact earlier.trans (meanwhile_noted Event.CalledIn.plain outside _)

/-- The component is called in a traversal that begins in one of these states. -/
def Event.CalledFrom (outside : Outside) (levels : Nat) (starts : List Container) (past : List Event)
    (e : Event) : Prop :=
  e.isInvoked = true → ∃ start ∈ starts, e.CalledIn outside levels start past

theorem Event.CalledFrom.plain {outside : Outside} {levels : Nat} {starts : List Container}
    (past : List Event) (e : Event) (other : e.isInvoked = false) :
    e.CalledFrom outside levels starts past := by
  intro invoked
  rw [other] at invoked
  cases invoked

theorem dispatch_called (outside : Outside) (levels p : Nat) (dispatcher : Dispatcher)
    (target : Target) (s : Container) :
    Noted (fun past e => e.CalledFrom outside levels
        (Pipeline.dispatchStarts p dispatcher target s) past) s
      (Pipeline.dispatch (callsAmid outside levels) p dispatcher target s).2 :=
  dispatch_noted Event.CalledFrom.plain fun u member =>
    (doFilter_called outside levels u).imp fun _ _ called _ => ⟨u, member, called⟩

theorem serviceWith_called (outside : Outside) (levels p : Nat) (s : Container) :
    Noted (fun past e => e.CalledFrom outside levels
        (Pipeline.serviceStarts (callsAmid outside levels) p s) past) s
      (Pipeline.serviceWith (callsAmid outside levels) p s).2 :=
  serviceWith_noted Event.CalledFrom.plain fun u member =>
    (doFilter_called outside levels u).imp fun _ _ called _ => ⟨u, member, called⟩

end ServletFilters
