import ServletFilters.Proofs.Container.Downgrading
import ServletFilters.Proofs.Container.Passage

/-!
The traversals that come of a suspension. A pipeline that services a request visits its servlet once
and then once for each suspension, up to a limit, `serviceWith_resumes`; what is left of a suspension
afterwards is said by `serviceWith_mark`.
-/

namespace ServletFilters

/-! ### Visits at a level -/

/-- The visits that began at a level, the last one first. -/
def Container.visits (s : Container) (level : Nat) : List Visit :=
  s.journal.filterMap (·.visit? level)

/-- A change that ends at the level where it began, with all visits that began since deeper than that. -/
structure Inward (s t : Container) : Prop where
  nesting : t.nesting = s.nesting
  visits : ∀ level ≤ s.nesting, t.visits level = s.visits level

theorem visits_of_appends {s t : Container} {level : Nat}
    (h : Appends (fun e => e.visit? level = none) s t) : t.visits level = s.visits level := by
  obtain ⟨new, journal, none⟩ := h
  rw [Container.visits, journal, List.filterMap_append, List.filterMap_eq_nil_iff.2 none]
  rfl

theorem Inward.trans {s t u : Container} (h₁ : Inward s t) (h₂ : Inward t u) : Inward s u :=
  ⟨h₂.nesting.trans h₁.nesting, fun level le =>
    (h₂.visits level (h₁.nesting ▸ le)).trans (h₁.visits level le)⟩

theorem Aloof.visits {s t : Container} (h : Aloof s t) (level : Nat) :
    t.visits level = s.visits level :=
  visits_of_appends <| h.journal.imp fun e uncharted => by
    cases e <;> first | rfl | cases uncharted

theorem Quiet.visits {s t : Container} (h : Quiet s t) (level : Nat) :
    t.visits level = s.visits level :=
  visits_of_appends <| h.journal.imp fun e plain => by
    cases e <;> first | rfl | cases plain

theorem Entered.visits {p : Nat} {r : Registry} {w : Wrapper} {base : Chain} {s t : Container}
    (h : Entered p r w base s t) (level : Nat) :
    t.visits level = if level = s.nesting + 1 then
      ⟨p, r.serial, w.name, s.request.dispatch⟩ :: s.visits level else s.visits level := by
  rw [h.quiet.visits]
  split
  · rename_i same
    rw [same]
    exact List.filterMap_cons_some (if_pos rfl)
  · rename_i other
    exact List.filterMap_cons_none (if_neg fun same => other same.symm)

theorem carried_inward : Carried Inward where
  aloof := fun aloof => ⟨aloof.nesting, fun level _ => aloof.visits level⟩
  trans := Inward.trans
  visit := by
    intro p r w base s u v entered _ inside
    have deeper : u.nesting = s.nesting + 1 := entered.quiet.nesting
    refine ⟨rfl, fun level le => (inside.visits level (by omega)).trans ?_⟩
    rw [entered.visits, if_neg (by omega)]
  reload := by
    intro p config s
    have offstage := reload_offstage p config s
    refine ⟨offstage.nesting, fun level _ => visits_of_appends (offstage.journal.imp fun e none => ?_)⟩
    exact Event.visit?_of_level (by rw [none]; rintro ⟨⟩)

/-- A visit that a pipeline makes is the only one that begins at its level while it goes on. -/
theorem dispatchTo_visits {calls : Calls} (called : ∀ call, (calls call).Within Inward) {p : Nat}
    {r : Registry} {w : Wrapper} {state : DispatchState} {pooled : Bool} {s : Container}
    {x : Pipeline} (found : s.pipelines.find? p = some x) :
    (Pipeline.dispatchTo calls p r w state pooled s).2.nesting = s.nesting ∧
      (Pipeline.dispatchTo calls p r w state pooled s).2.visits (s.nesting + 1) =
        ⟨p, r.serial, w.name, state⟩ :: s.visits (s.nesting + 1) := by
  rcases dispatchTo_parts calls p r w state pooled s with
    ⟨absent, -⟩ | ⟨y, chain, t, u, -, -, quiet, request, entered, same, ended⟩
  · rw [found] at absent
    cases absent
  have deeper : u.nesting = s.nesting + 1 := entered.quiet.nesting.trans (congrArg (· + 1) quiet.nesting)
  have inside := carried_inward.doFilter called u
  have left : (t.leave (Traversal.doFilter calls u).2).visits (s.nesting + 1) =
      ⟨p, r.serial, w.name, state⟩ :: s.visits (s.nesting + 1) := by
    refine (inside.visits _ (Nat.le_of_eq deeper.symm)).trans ?_
    rw [entered.visits, if_pos (by rw [quiet.nesting]), request]
    rw [quiet.visits]
  rcases ended with aloof | ⟨-, -, chain', aloof⟩
  · exact ⟨aloof.nesting.trans quiet.nesting, (aloof.visits _).trans left⟩
  · have given := giveBack_quiet p w.name chain' (t.leave (Traversal.doFilter calls u).2)
    exact ⟨(aloof.nesting.trans given.nesting).trans quiet.nesting,
      ((aloof.visits _).trans (given.visits _)).trans left⟩

/-! ### Rounds -/

/-- A traversal for a request, with the states around it. -/
@[ext]
structure Round where
  before : Container
  result : Except Halt Result
  after : Container

def Container.unmark (s : Container) : Container :=
  s.updateRequest fun r => { r with asyncStarted := false }

/-- The failure of a request that is suspended too often. -/
def restarted : Failure :=
  .runtime ("request restarted async more than " ++ toString maxAsyncDispatches ++ " times")

namespace Round

/-- The traversal has returned, and has left the request suspended. -/
def Suspends (r : Round) : Prop :=
  r.result = .ok (.ok ()) ∧ r.after.request.asyncStarted = true

instance (r : Round) : Decidable r.Suspends := inferInstanceAs (Decidable (_ ∧ _))

/-- What comes of a request whose last traversal this is. -/
def outcome (r : Round) : Except Halt Result :=
  if r.Suspends then .ok (.error restarted) else r.result

/-- The state that is left by a request whose last traversal this is: a mark that was made before a
failure stays. -/
def ending (r : Round) : Container :=
  if r.result = .ok (.ok ()) then r.after.unmark else r.after

end Round

/-- Traversals that were made one after the other: from each that has returned and left the request
suspended the next one takes over, without the mark, until so many have followed the first one. -/
structure Resumed (visit : Dispatcher → Run Result) (limit : Nat) (s : Container)
    (rounds : List Round) : Prop where
  first : rounds[0]?.map (·.before) = some s
  ran : ∀ i r, rounds[i]? = some r →
    visit (if i = 0 then .request else .async) r.before = (r.result, r.after)
  next : ∀ i r, rounds[i]? = some r → rounds[i + 1]?.map (·.before) =
    if r.Suspends ∧ i < limit then some r.after.unmark else none

/-- The part of `Resumed` that comes after the first traversal. -/
structure Continued (again : Run Result) (limit : Nat) (rounds : List Round) : Prop where
  ran : ∀ i r, rounds[i + 1]? = some r → again r.before = (r.result, r.after)
  next : ∀ i r, rounds[i]? = some r → rounds[i + 1]?.map (·.before) =
    if r.Suspends ∧ i < limit then some r.after.unmark else none

theorem Continued.single {again : Run Result} {limit : Nat} {r : Round}
    (h : ¬ (r.Suspends ∧ 0 < limit)) : Continued again limit [r] := by
  constructor
  · rintro i _ ⟨⟩
  · intro i a here
    cases i with
    | zero =>
      cases here
      rw [if_neg h]
      rfl
    | succ i => cases here

theorem Continued.last {again : Run Result} {limit : Nat} {r : Round}
    (stops : r.result ≠ .ok (.ok ())) : Continued again limit [r] :=
  .single fun h => stops h.1.1

theorem Continued.cons {again : Run Result} {limit : Nat} {r a : Round} {later : List Round}
    (suspends : r.Suspends) (before : a.before = r.after.unmark)
    (ran : again a.before = (a.result, a.after)) (h : Continued again limit (a :: later)) :
    Continued again (limit + 1) (r :: a :: later) := by
  constructor
  · intro i b here
    cases i with
    | zero =>
      cases here
      exact ran
    | succ i => exact h.ran i b here
  · intro i b here
    cases i with
    | zero =>
      cases here
      rw [if_pos ⟨suspends, Nat.zero_lt_succ limit⟩, ← before]
      rfl
    | succ i =>
      have bound : i + 1 < limit + 1 ↔ i < limit := Nat.add_lt_add_iff_right
      simp only [bound]
      exact h.next i b here

theorem resume_unmarked (again : Run Result) (limit : Nat) {s : Container}
    (unmarked : s.request.asyncStarted = false) :
    Pipeline.resume again limit s = (.ok (.ok ()), s.unmark) := by
  cases limit <;> rw [Pipeline.resume, Run.bind_of_ok (takeAsync_apply s), unmarked] <;> rfl

theorem resume_exhausted (again : Run Result) {s : Container}
    (marked : s.request.asyncStarted = true) :
    Pipeline.resume again 0 s = (.ok (.error restarted), s.unmark) := by
  rw [Pipeline.resume, Run.bind_of_ok (takeAsync_apply s), marked]
  rfl

/-- A traversal that returns and that no other one follows says what comes of the request. -/
theorem resume_stops (again : Run Result) {limit : Nat} {r : Round}
    (returned : r.result = .ok (.ok ())) (stops : ¬ (r.Suspends ∧ 0 < limit)) :
    Pipeline.resume again limit r.after = (r.outcome, r.ending) := by
  rw [Round.outcome, Round.ending, if_pos returned]
  cases marked : r.after.request.asyncStarted with
  | false =>
    have still : ¬ r.Suspends := fun h => by
      rw [h.2] at marked
      cases marked
    rw [resume_unmarked again limit marked, if_neg still, returned]
  | true =>
    have suspends : r.Suspends := ⟨returned, marked⟩
    have none : limit = 0 := by
      by_contra room
      exact stops ⟨suspends, Nat.pos_of_ne_zero room⟩
    rw [none, resume_exhausted again marked, if_pos suspends]

/-- By induction on the traversals that may follow: the next one is the last, unless it returns. -/
theorem resume_continues (again : Run Result) (limit : Nat) : ∀ r : Round,
    r.result = .ok (.ok ()) → ∃ later last, Continued again limit (r :: later) ∧
      (r :: later).getLast? = some last ∧
      Pipeline.resume again limit r.after = (last.outcome, last.ending) := by
  induction limit with
  | zero =>
    intro r returned
    have stops : ¬ (r.Suspends ∧ 0 < 0) := fun h => Nat.lt_irrefl 0 h.2
    exact ⟨[], r, .single stops, rfl, resume_stops again returned stops⟩
  | succ n ih =>
    intro r returned
    by_cases suspends : r.Suspends
    · have marked : r.after.request.asyncStarted = true := suspends.2
      rcases ran : again r.after.unmark with ⟨halt | failure | done, t⟩
      · let a : Round := ⟨r.after.unmark, .error halt, t⟩
        refine ⟨[a], a, .cons suspends rfl ran (.last (by rintro ⟨⟩)), rfl, ?_⟩
        rw [Pipeline.resume, Run.bind_of_ok (takeAsync_apply _), marked]
        exact Run.bind_of_error ran
      · let a : Round := ⟨r.after.unmark, .ok (.error failure), t⟩
        refine ⟨[a], a, .cons suspends rfl ran (.last (by rintro ⟨⟩)), rfl, ?_⟩
        rw [Pipeline.resume, Run.bind_of_ok (takeAsync_apply _), marked]
        exact Run.bind_of_ok ran
      · let a : Round := ⟨r.after.unmark, .ok (.ok done), t⟩
        obtain ⟨later, last, continued, ends, after⟩ := ih a rfl
        refine ⟨a :: later, last, .cons suspends rfl ran continued, ?_, ?_⟩
        · rw [List.getLast?_cons_cons]
          exact ends
        · rw [Pipeline.resume, Run.bind_of_ok (takeAsync_apply _), marked]
          exact (Run.bind_of_ok ran).trans after
    · have stops : ¬ (r.Suspends ∧ 0 < n + 1) := fun h => suspends h.1
      exact ⟨[], r, .single stops, rfl, resume_stops again returned stops⟩

theorem Resumed.of_continued {visit : Dispatcher → Run Result} {limit : Nat} {s : Container}
    {a : Round} {later : List Round} (before : a.before = s)
    (ran : visit .request s = (a.result, a.after)) (h : Continued (visit .async) limit (a :: later)) :
    Resumed visit limit s (a :: later) := by
  refine ⟨congrArg some before, fun i b here => ?_, h.next⟩
  cases i with
  | zero =>
    cases here
    rw [before]
    exact ran
  | succ i => exact h.ran i b here

theorem traverse_resumes (calls : Calls) (p : Nat) (r : Registry) (w : Wrapper) (path : String)
    (s : Container) :
    ∃ rounds last,
      Resumed (fun dispatcher => Pipeline.dispatchTo calls p r w { dispatcher, path := some path } true)
        maxAsyncDispatches s rounds ∧
      rounds.getLast? = some last ∧
      Pipeline.traverse calls p r w path s = (last.outcome, last.ending) := by
  rcases ran : Pipeline.dispatchTo calls p r w { dispatcher := .request, path := some path } true s with
    ⟨halt | failure | done, t⟩
  · let a : Round := ⟨s, .error halt, t⟩
    refine ⟨[a], a, .of_continued rfl ran (.last (by rintro ⟨⟩)), rfl, ?_⟩
    exact Run.bind_of_error ran
  · let a : Round := ⟨s, .ok (.error failure), t⟩
    refine ⟨[a], a, .of_continued rfl ran (.last (by rintro ⟨⟩)), rfl, ?_⟩
    exact Run.bind_of_ok ran
  · let a : Round := ⟨s, .ok (.ok done), t⟩
    obtain ⟨later, last, continued, ends, after⟩ := resume_continues
      (Pipeline.dispatchTo calls p r w { dispatcher := .async, path := some path } true)
      maxAsyncDispatches a rfl
    exact ⟨a :: later, last, .of_continued rfl ran continued, ends, (Run.bind_of_ok ran).trans after⟩

/-- The state before a traversal says what comes of it. -/
theorem Round.determined {visit : Run Result} {a b : Option Round}
    (ran : ∀ r, a = some r → visit r.before = (r.result, r.after))
    (ran' : ∀ r, b = some r → visit r.before = (r.result, r.after))
    (same : a.map (·.before) = b.map (·.before)) : a = b := by
  cases a with
  | none =>
    cases b with
    | none => rfl
    | some b => cases same
  | some a =>
    cases b with
    | none => cases same
    | some b =>
      have before : a.before = b.before := Option.some.inj same
      have result := ran a rfl
      rw [before, ran' b rfl] at result
      obtain ⟨result, after⟩ := Prod.mk.inj result
      exact congrArg some (Round.ext before result.symm after.symm)

namespace Resumed

variable {visit : Dispatcher → Run Result} {limit : Nat} {s : Container} {rounds : List Round}
  (resumed : Resumed visit limit s rounds)
include resumed

/-- What was there before a traversal that is not the first one. -/
theorem before {i : Nat} {b : Round} (here : rounds[i + 1]? = some b) :
    ∃ a, rounds[i]? = some a ∧ a.Suspends ∧ i < limit ∧ b.before = a.after.unmark := by
  have inside : i < rounds.length := by
    have := (List.getElem?_eq_some_iff.1 here).1
    omega
  have earlier : rounds[i]? = some rounds[i] := List.getElem?_eq_getElem inside
  have next := resumed.next i _ earlier
  rw [here] at next
  split at next
  · rename_i goes
    exact ⟨_, earlier, goes.1, goes.2, Option.some.inj next⟩
  · cases next

theorem length_le : rounds.length ≤ limit + 1 := by
  by_contra more
  have here : rounds[limit + 1]? = some rounds[limit + 1] := List.getElem?_eq_getElem (by omega)
  obtain ⟨a, -, -, goes, -⟩ := resumed.before here
  exact Nat.lt_irrefl _ goes

/-- After a traversal that suspends the request comes another one, unless enough have been made. -/
theorem goes_on {i : Nat} {a : Round} (here : rounds[i]? = some a) (suspends : a.Suspends)
    (room : i < limit) : i + 1 < rounds.length := by
  have next := resumed.next i a here
  rw [if_pos ⟨suspends, room⟩] at next
  obtain ⟨b, there, -⟩ := Option.map_eq_some_iff.1 next
  exact (List.getElem?_eq_some_iff.1 there).1

theorem last_suspends {last : Round} (ends : rounds.getLast? = some last)
    (suspends : last.Suspends) : rounds.length = limit + 1 := by
  rw [List.getLast?_eq_getElem?] at ends
  have nonempty := (List.getElem?_eq_some_iff.1 ends).1
  have bound := resumed.length_le
  by_contra fewer
  have := resumed.goes_on ends suspends (by omega)
  omega

/-- By induction on the place: at each there is the same traversal, so there is one account only. -/
theorem unique {others : List Round} (h : Resumed visit limit s others) : rounds = others := by
  refine List.ext_getElem? fun i => ?_
  induction i with
  | zero =>
    exact Round.determined (fun r here => resumed.ran 0 r here) (fun r here => h.ran 0 r here)
      (resumed.first.trans h.first.symm)
  | succ i ih =>
    refine Round.determined (fun r here => resumed.ran (i + 1) r here)
      (fun r here => h.ran (i + 1) r here) ?_
    cases here : rounds[i]? with
    | none =>
      have there := ih.symm.trans here
      rw [List.getElem?_eq_none_iff] at here there
      rw [List.getElem?_eq_none (by omega), List.getElem?_eq_none (by omega)]
    | some r => exact (resumed.next i r here).trans (h.next i r (ih.symm.trans here)).symm

end Resumed

section Rounds

variable {outside : Outside} {levels p : Nat} {r : Registry} {w : Wrapper} {path : String}

/-- A traversal that a pipeline makes to service a request. -/
def Pipeline.round (outside : Outside) (levels p : Nat) (r : Registry) (w : Wrapper) (path : String)
    (dispatcher : Dispatcher) : Run Result :=
  dispatchTo (callsAmid outside levels) p r w { dispatcher, path := some path } true

/-- The visit that this is. -/
def Visit.round (p : Nat) (r : Registry) (w : Wrapper) (path : String) (dispatcher : Dispatcher) :
    Visit :=
  ⟨p, r.serial, w.name, { dispatcher, path := some path }⟩

theorem round_visits {s : Container} (found : (s.pipelines.find? p).isSome = true)
    (dispatcher : Dispatcher) {result : Except Halt Result} {t : Container}
    (ran : Pipeline.round outside levels p r w path dispatcher s = (result, t)) :
    (t.pipelines.find? p).isSome = true ∧ t.nesting = s.nesting ∧
      t.visits (s.nesting + 1) = .round p r w path dispatcher :: s.visits (s.nesting + 1) := by
  obtain ⟨x, found⟩ := Option.isSome_iff_exists.1 found
  have told : (Pipeline.round outside levels p r w path dispatcher s).2.nesting = s.nesting ∧
      (Pipeline.round outside levels p r w path dispatcher s).2.visits (s.nesting + 1) =
        .round p r w path dispatcher :: s.visits (s.nesting + 1) :=
    dispatchTo_visits (carried_inward.callsAmid outside levels) found
  have kept : (Pipeline.round outside levels p r w path dispatcher s).2.executing p = s.executing p :=
    (dispatchTo_abides (callsAmid_abides outside levels) p r w
      { dispatcher, path := some path } true s).1.executing p
  rw [ran] at told kept
  refine ⟨?_, told⟩
  unfold Container.executing at kept
  rw [found] at kept
  rw [← Option.isSome_map, kept]
  rfl

/-- By induction on the place of a traversal: those before it began at the same level, the first one
for a request and the others after suspensions. -/
theorem Resumed.visits {limit : Nat} {s : Container} {rounds : List Round}
    (resumed : Resumed (Pipeline.round outside levels p r w path) limit s rounds)
    (found : (s.pipelines.find? p).isSome = true) :
    ∀ i a, rounds[i]? = some a → (a.after.pipelines.find? p).isSome = true ∧
      a.after.nesting = s.nesting ∧ a.after.visits (s.nesting + 1) =
        List.replicate i (.round p r w path .async) ++
          .round p r w path .request :: s.visits (s.nesting + 1) := by
  intro i
  induction i with
  | zero =>
    intro a here
    have start := resumed.first
    rw [here] at start
    obtain rfl := Option.some.inj start
    exact round_visits found .request (resumed.ran 0 a here)
  | succ i ih =>
    intro b here
    obtain ⟨a, earlier, -, -, before⟩ := resumed.before here
    obtain ⟨there, level, told⟩ := ih a earlier
    have ran := resumed.ran (i + 1) b here
    rw [before, if_neg (Nat.succ_ne_zero i)] at ran
    obtain ⟨there', level', told'⟩ := round_visits (s := a.after.unmark) there .async ran
    rw [show a.after.unmark.nesting = s.nesting from level] at level' told'
    refine ⟨there', level', told'.trans ?_⟩
    rw [List.replicate_succ, List.cons_append, ← told]
    rfl

end Rounds

/-! ### Servicing a request -/

theorem serviceOn_ends (calls : Calls) (p : Nat) {r : Registry} {w : Wrapper} {path : String}
    (mapped : r.mapServlet path = some w) (s : Container) :
    (Pipeline.serviceOn calls p r path s).1 =
        (Pipeline.traverse calls p r w path s).1.map (·.mapError .chain) ∧
      (Pipeline.serviceOn calls p r path s).2.request =
        (Pipeline.traverse calls p r w path s).2.request ∧
      Aloof (Pipeline.traverse calls p r w path s).2 (Pipeline.serviceOn calls p r path s).2 := by
  unfold Pipeline.serviceOn
  rw [mapped]
  dsimp only
  rcases ran : Pipeline.traverse calls p r w path s with ⟨halt | failure | done, t⟩
  · rw [Run.bind_of_error ran]
    exact ⟨rfl, rfl, .refl t⟩
  · rw [Run.bind_of_ok ran]
    refine ⟨rfl, rfl, (Aloof.note t (e := .measured (.chainFailed failure.kind)) rfl).trans
      (.note _ rfl)⟩
  · rw [Run.bind_of_ok ran]
    exact ⟨rfl, rfl, .refl t⟩

/-- A pipeline that finds a servlet for a request makes the traversals for it, and ends as the last of
them does. -/
theorem serviceWith_rounds (outside : Outside) (levels : Nat) {p : Nat} {s : Container} {x : Pipeline}
    {w : Wrapper} (found : s.pipelines.find? p = some x)
    (mapped : x.registry.mapServlet s.request.path = some w) :
    ∃ rounds last,
      Resumed (Pipeline.round outside levels p x.registry w s.request.path) maxAsyncDispatches
        (x.registry.hold (s.attach p)) rounds ∧
      rounds.getLast? = some last ∧
      (Pipeline.serviceWith (callsAmid outside levels) p s).1 = last.outcome.map (·.mapError .chain) ∧
      (Pipeline.serviceWith (callsAmid outside levels) p s).2.request = last.ending.request ∧
      Aloof last.ending (Pipeline.serviceWith (callsAmid outside levels) p s).2 := by
  obtain ⟨rounds, last, resumed, ends, ran⟩ := traverse_resumes (callsAmid outside levels) p x.registry w
    s.request.path (x.registry.hold (s.attach p))
  obtain ⟨result, request, aloof⟩ := serviceOn_ends (callsAmid outside levels) p mapped
    (x.registry.hold (s.attach p))
  rw [ran] at result request aloof
  refine ⟨rounds, last, resumed, ends, ?_⟩
  rw [serviceWith_some _ found]
  obtain ⟨_, _, _, frame⟩ := letGo_frame x.registry (Pipeline.serviceOn (callsAmid outside levels) p
    x.registry s.request.path (x.registry.hold (s.attach p))).2
  refine ⟨result, ?_, aloof.trans (x.registry.letGo_aloof _)⟩
  rw [← request, frame]

/-- A pipeline that finds a servlet for a request makes one traversal for the request, and then one for
each time that a traversal has returned and left the request suspended, so many at most, each on the
registry and for the servlet and the path of the first one and each without the mark of the suspension.
It ends as the last traversal does, and fails if that one would have to be followed by another; where
it succeeds, no suspension is left. -/
theorem serviceWith_resumes (outside : Outside) (levels : Nat) {p : Nat} {s : Container}
    {x : Pipeline} {w : Wrapper} (found : s.pipelines.find? p = some x)
    (mapped : x.registry.mapServlet s.request.path = some w) :
    ∃ rounds last,
      Resumed (Pipeline.round outside levels p x.registry w s.request.path) maxAsyncDispatches
        (x.registry.hold (s.attach p)) rounds ∧
      rounds.getLast? = some last ∧
      rounds.length ≤ maxAsyncDispatches + 1 ∧
      (last.Suspends → rounds.length = maxAsyncDispatches + 1) ∧
      (Pipeline.serviceWith (callsAmid outside levels) p s).1 = last.outcome.map (·.mapError .chain) ∧
      (last.result = .ok (.ok ()) →
        (Pipeline.serviceWith (callsAmid outside levels) p s).2.request.asyncStarted = false) ∧
      ((Pipeline.serviceWith (callsAmid outside levels) p s).1 = .ok (.ok ()) →
        ∀ i r, rounds[i]? = some r → r.Suspends → i + 1 < rounds.length) ∧
      (Pipeline.serviceWith (callsAmid outside levels) p s).2.visits (s.nesting + 1) =
        List.replicate (rounds.length - 1) (.round p x.registry w s.request.path .async) ++
          .round p x.registry w s.request.path .request :: s.visits (s.nesting + 1) := by
  obtain ⟨rounds, last, resumed, ends, result, request, aloof⟩ :=
    serviceWith_rounds outside levels found mapped
  have place : rounds[rounds.length - 1]? = some last := by
    rw [← List.getLast?_eq_getElem?]
    exact ends
  refine ⟨rounds, last, resumed, ends, resumed.length_le, resumed.last_suspends ends, result, ?_, ?_, ?_⟩
  · intro returned
    rw [request, Round.ending, if_pos returned]
    rfl
  · intro done i a here suspends
    have inside := (List.getElem?_eq_some_iff.1 here).1
    by_contra no
    obtain rfl : i = rounds.length - 1 := by omega
    rw [here] at place
    cases place
    rw [result, Round.outcome, if_pos suspends] at done
    cases done
  · have there : ((x.registry.hold (s.attach p)).pipelines.find? p).isSome = true := by
      change (s.pipelines.find? p).isSome = true
      rw [found]
      rfl
    have told := (resumed.visits there _ _ place).2.2
    have unmarked : last.ending.visits (s.nesting + 1) = last.after.visits (s.nesting + 1) := by
      unfold Round.ending
      split <;> rfl
    rw [aloof.visits, unmarked]
    refine told.trans ?_
    rw [(x.registry.hold_aloof _).visits]
    rfl

/-- A servlet that suspends the request whenever it is called. -/
def restless : Host :=
  suspendable
    { servlets := [{ name := "page", className := "page", urlPatterns := ["/"], asyncSupported := true }] }
    { servlets := ⟨[("page", ⟨false, fun _ _ => .ready (.startAsync fun _ => .done)⟩)]⟩ } "/"

/-- It is called for the request and sixteen times again, and then the request fails. -/
theorem serviceWith_resumes_restless :
    ∃ x w rounds, restless.box.pipelines.find? 3 = some x ∧
      x.registry.mapServlet restless.box.request.path = some w ∧
      Resumed (Pipeline.round (fun _ => []) 1 3 x.registry w restless.box.request.path)
        maxAsyncDispatches (x.registry.hold (restless.box.attach 3)) rounds ∧
      rounds.length = 17 ∧
      (Pipeline.serviceWith (callsAmid (fun _ => []) 1) 3 restless.box).1 =
        .ok (.error (.chain restarted)) := by
  have there : ((restless.box.pipelines.find? 3).bind fun x =>
      x.registry.mapServlet restless.box.request.path).map (·.name) = some "page" := by decide +kernel
  obtain ⟨w, there, -⟩ := Option.map_eq_some_iff.1 there
  obtain ⟨x, found, mapped⟩ := Option.bind_eq_some_iff.1 there
  obtain ⟨rounds, last, resumed, ends, -, -, -, -, -, told⟩ :=
    serviceWith_resumes (fun _ => []) 1 found mapped
  refine ⟨x, w, rounds, found, mapped, resumed, ?_, by decide +kernel⟩
  have made : ((Pipeline.serviceWith (callsAmid (fun _ => []) 1) 3 restless.box).2.visits
      (restless.box.nesting + 1)).length = 17 := by decide +kernel
  have none : (restless.box.visits (restless.box.nesting + 1)).length = 0 := by decide +kernel
  rw [told, List.length_append, List.length_replicate, List.length_cons, none] at made
  omega

/-- The last traversal that a pipeline makes for the current request fails, and leaves the request
suspended. -/
def Pipeline.FailsSuspended (outside : Outside) (levels p : Nat) (s : Container) (f : Failure) : Prop :=
  ∃ x w rounds last, s.pipelines.find? p = some x ∧
    x.registry.mapServlet s.request.path = some w ∧
    Resumed (Pipeline.round outside levels p x.registry w s.request.path) maxAsyncDispatches
      (x.registry.hold (s.attach p)) rounds ∧
    rounds.getLast? = some last ∧ last.result = .ok (.error f) ∧
    last.after.request.asyncStarted = true

theorem failsSuspended_iff {outside : Outside} {levels p : Nat} {s : Container} {x : Pipeline}
    {w : Wrapper} {rounds : List Round} {last : Round} (found : s.pipelines.find? p = some x)
    (mapped : x.registry.mapServlet s.request.path = some w)
    (resumed : Resumed (Pipeline.round outside levels p x.registry w s.request.path) maxAsyncDispatches
      (x.registry.hold (s.attach p)) rounds) (ends : rounds.getLast? = some last) (f : Failure) :
    Pipeline.FailsSuspended outside levels p s f ↔
      last.result = .ok (.error f) ∧ last.after.request.asyncStarted = true := by
  constructor
  · rintro ⟨y, v, others, other, found', mapped', resumed', ends', failed⟩
    obtain rfl := Option.some.inj (found.symm.trans found')
    obtain rfl := Option.some.inj (mapped.symm.trans mapped')
    obtain rfl := resumed.unique resumed'
    obtain rfl := Option.some.inj (ends.symm.trans ends')
    exact failed
  · exact fun failed => ⟨x, w, rounds, last, found, mapped, resumed, ends, failed⟩

theorem Round.ending_marked (r : Round) : r.ending.request.asyncStarted = true ↔
    r.result ≠ .ok (.ok ()) ∧ r.after.request.asyncStarted = true := by
  unfold Round.ending
  split
  · rename_i returned
    exact ⟨by rintro ⟨⟩, fun h => absurd returned h.1⟩
  · rename_i stopped
    exact ⟨fun marked => ⟨stopped, marked⟩, And.right⟩

/-- A pipeline that finds no servlet for a request leaves the mark as it is. -/
theorem serviceWith_unserved (calls : Calls) {p : Nat} {s : Container}
    (none : ∀ x, s.pipelines.find? p = some x → x.registry.mapServlet s.request.path = none) :
    (Pipeline.serviceWith calls p s).2.request.asyncStarted = s.request.asyncStarted := by
  cases found : s.pipelines.find? p with
  | none =>
    rw [serviceWith_none _ found]
    rfl
  | some x =>
    rcases serviceOn_cases calls p x.registry s.request.path (x.registry.hold (s.attach p)) with
      ⟨-, missing⟩ | ⟨w, mapped, -⟩
    · rw [serviceWith_some _ found, missing]
      obtain ⟨_, _, _, frame⟩ := letGo_frame x.registry (x.registry.hold (s.attach p))
      change (x.registry.letGo _).request.asyncStarted = _
      rw [frame]
      rfl
    · rw [none x found] at mapped
      cases mapped

/-- A service that returns leaves a request suspended, which was not suspended before, exactly if its
last traversal fails and leaves it so. Such a mark stays with the request. -/
theorem serviceWith_mark (outside : Outside) (levels : Nat) {p : Nat} {s t : Container}
    {answer : Except ServiceError Unit} (unmarked : s.request.asyncStarted = false)
    (ran : Pipeline.serviceWith (callsAmid outside levels) p s = (.ok answer, t)) :
    t.request.asyncStarted = true ↔
      ∃ f, Pipeline.FailsSuspended outside levels p s f ∧ answer = .error (.chain f) := by
  by_cases served : ∃ x w, s.pipelines.find? p = some x ∧
      x.registry.mapServlet s.request.path = some w
  · obtain ⟨x, w, found, mapped⟩ := served
    obtain ⟨rounds, last, resumed, ends, result, request, -⟩ :=
      serviceWith_rounds outside levels found mapped
    have fails := failsSuspended_iff found mapped resumed ends
    rw [ran] at result request
    rw [request, last.ending_marked]
    constructor
    · rintro ⟨stopped, marked⟩
      rw [Round.outcome, if_neg fun suspends => stopped suspends.1] at result
      rcases how : last.result with halt | f | done <;> rw [how] at result
      · cases result
      · exact ⟨f, (fails f).2 ⟨how, marked⟩, Except.ok.inj result⟩
      · exact absurd how stopped
    · rintro ⟨f, failed, -⟩
      obtain ⟨how, marked⟩ := (fails f).1 failed
      exact ⟨by rw [how]; rintro ⟨⟩, marked⟩
  · have kept := serviceWith_unserved (callsAmid outside levels) (p := p) (s := s) fun x found => by
      by_contra some
      obtain ⟨w, mapped⟩ := Option.ne_none_iff_exists'.1 some
      exact served ⟨x, w, found, mapped⟩
    rw [ran, unmarked] at kept
    constructor
    · intro marked
      rw [kept] at marked
      cases marked
    · rintro ⟨f, ⟨x, w, _, _, found, mapped, -⟩, -⟩
      exact absurd ⟨x, w, found, mapped⟩ served

/-- A servlet that suspends the request and fails when it is first called, and does nothing when it is
called again. -/
def hapless : Host :=
  suspendable
    { servlets := [{ name := "page", className := "page", urlPatterns := ["/"], asyncSupported := true }] }
    { servlets := ⟨[("page", ⟨false, fun _ _ => .ready (.look fun v =>
        if (v.request.attributes.find? "called").isSome then .done
        else .perform (.setAttribute "called" "yes") (.startAsync fun _ => .fail (.servlet "broken")))⟩)]⟩ }
    "/"

/-- The first service fails and leaves its mark; when the request is serviced again, it is gone on with
after a suspension that this service has not seen. -/
theorem serviceWith_mark_hapless :
    let failed := Pipeline.serviceWith (callsAmid (fun _ => []) 1) 3 hapless.box
    let again := Pipeline.serviceWith (callsAmid (fun _ => []) 1) 3 failed.2
    failed.1 = .ok (.error (.chain (.servlet "broken"))) ∧
      Pipeline.FailsSuspended (fun _ => []) 1 3 hapless.box (.servlet "broken") ∧
      again.1 = .ok (.ok ()) ∧
      (again.2.visits 1).map (·.state.dispatcher) = [.async, .request, .request] := by
  have failed : (Pipeline.serviceWith (callsAmid (fun _ => []) 1) 3 hapless.box).1 =
      .ok (.error (.chain (.servlet "broken"))) := by decide +kernel
  have marked := serviceWith_mark (fun _ => []) 1 (s := hapless.box) (by decide +kernel)
    (Prod.ext failed rfl)
  obtain ⟨f, left, same⟩ := marked.1 (by decide +kernel)
  cases same
  exact ⟨failed, left, by decide +kernel, by decide +kernel⟩

end ServletFilters
