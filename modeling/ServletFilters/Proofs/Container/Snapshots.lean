import ServletFilters.Proofs.Component.Lifetimes

/-!
On which registry a traversal runs. A request that is serviced runs on the registry that its
pipeline had when it came in, suspended or not; a dispatch inside it runs on the registry that
the pipeline has at that moment. `serviceWith_snapshot` says when that is another one.
-/

namespace ServletFilters

def Event.installed? (p : Nat) : Event → Option Nat
  | .installed q r => if q = p then some r else none
  | _ => none

/-- The registry a pipeline is bound to after some events, given the one before. -/
def lastInstalled (p : Nat) (before : Option Nat) (events : List Event) : Option Nat :=
  (events.findSome? (·.installed? p)).or before

/-- An event that begins a traversal begins it where it should: at the top level on a given
registry of a given pipeline, and below it on the registry the pipeline is bound to. -/
def Event.RunsOn (top p snapshot : Nat) (before : Nat → Option Nat) (earlier : List Event) :
    Event → Prop
  | .traversed level q r _ _ => (level = top ∧ q = p ∧ r = snapshot) ∨
      (top < level ∧ lastInstalled q (before q) earlier = some r)
  | _ => True

def AllRunOn (top p snapshot : Nat) (before : Nat → Option Nat) : List Event → Prop
  | [] => True
  | e :: earlier => e.RunsOn top p snapshot before earlier ∧ AllRunOn top p snapshot before earlier

/-! ### Histories -/

theorem lastInstalled_append (p : Nat) (before : Option Nat) (later earlier : List Event) :
    lastInstalled p before (later ++ earlier) =
      lastInstalled p (lastInstalled p before earlier) later := by
  rw [lastInstalled, List.findSome?_append, Option.or_assoc]
  rfl

theorem lastInstalled_of_none {p : Nat} {before : Option Nat} {events : List Event}
    (h : ∀ e ∈ events, e.installed? p = none) : lastInstalled p before events = before := by
  rw [lastInstalled, List.findSome?_eq_none_iff.2 h, Option.none_or]

theorem AllRunOn.append {top p snapshot : Nat} {before : Nat → Option Nat} {later earlier : List Event}
    (h₁ : AllRunOn top p snapshot before earlier)
    (h₂ : AllRunOn top p snapshot (fun q => lastInstalled q (before q) earlier) later) :
    AllRunOn top p snapshot before (later ++ earlier) := by
  induction later with
  | nil => exact h₁
  | cons e rest ih =>
    refine ⟨?_, ih h₂.2⟩
    have here := h₂.1
    cases e with
    | traversed level q r servlet state =>
      rcases here with own | ⟨deeper, current⟩
      · exact .inl own
      · exact .inr ⟨deeper, (lastInstalled_append q _ rest earlier).trans current⟩
    | _ => trivial

theorem AllRunOn.at {top p snapshot : Nat} {before : Nat → Option Nat} {events later earlier : List Event}
    {e : Event} (h : AllRunOn top p snapshot before events) (split : events = later ++ e :: earlier) :
    e.RunsOn top p snapshot before earlier := by
  subst split
  induction later with
  | nil => exact h.1
  | cons _ _ ih => exact ih h.2

def Event.isUncharted : Event → Bool
  | .installed _ _ | .traversed _ _ _ _ _ => false
  | _ => true

theorem Event.isUncharted_of_isCalm {e : Event} (h : e.isCalm = true) : e.isUncharted = true := by
  cases e <;> first | rfl | cases h

theorem allRunOn_of_uncharted {top p snapshot : Nat} {before : Nat → Option Nat} {events : List Event}
    (h : ∀ e ∈ events, e.isUncharted = true) : AllRunOn top p snapshot before events := by
  induction events with
  | nil => trivial
  | cons e rest ih =>
    refine ⟨?_, ih fun e he => h e (List.mem_cons_of_mem _ he)⟩
    have uncharted := h e (List.mem_cons_self ..)
    cases e <;> trivial

theorem installed?_of_uncharted {p : Nat} {events : List Event}
    (h : ∀ e ∈ events, e.isUncharted = true) : ∀ e ∈ events, e.installed? p = none := by
  intro e he
  have uncharted := h e he
  cases e <;> first | rfl | cases uncharted

/-- What happened since: bindings of pipelines to new registries, and traversals that begin where
they should. -/
structure Charted (top p snapshot : Nat) (s t : Container) : Prop where
  nesting : t.nesting = s.nesting
  nextSerial : s.nextSerial ≤ t.nextSerial
  journal : ∃ new, t.journal = new ++ s.journal ∧
    (∀ q r, .installed q r ∈ new → s.nextSerial ≤ r) ∧
    (∀ q, t.bound q = lastInstalled q (s.bound q) new) ∧ AllRunOn top p snapshot s.bound new

namespace Charted

variable {top p snapshot : Nat} {s t u : Container}

theorem trans (h₁ : Charted top p snapshot s t) (h₂ : Charted top p snapshot t u) :
    Charted top p snapshot s u := by
  obtain ⟨new₁, journal₁, fresh₁, bound₁, on₁⟩ := h₁.journal
  obtain ⟨new₂, journal₂, fresh₂, bound₂, on₂⟩ := h₂.journal
  refine ⟨h₂.nesting.trans h₁.nesting, Nat.le_trans h₁.nextSerial h₂.nextSerial, new₂ ++ new₁,
    by rw [journal₂, journal₁, List.append_assoc], ?_, ?_, ?_⟩
  · intro q r member
    rcases List.mem_append.1 member with member | member
    · exact Nat.le_trans h₁.nextSerial (fresh₂ q r member)
    · exact fresh₁ q r member
  · intro q
    rw [bound₂, bound₁, lastInstalled_append]
  · refine on₁.append ?_
    rwa [← funext bound₁]

theorem of_uncharted (nesting : t.nesting = s.nesting) (grown : s.nextSerial ≤ t.nextSerial)
    (current : ∀ q, t.current q = s.current q) (journal : Appends (·.isUncharted = true) s t) :
    Charted top p snapshot s t := by
  obtain ⟨new, journal, uncharted⟩ := journal
  refine ⟨nesting, grown, new, journal, ?_, ?_, allRunOn_of_uncharted uncharted⟩
  · intro q r member
    cases uncharted _ member
  · intro q
    rw [lastInstalled_of_none (installed?_of_uncharted uncharted), Container.bound, current]
    rfl

theorem refl (s : Container) : Charted top p snapshot s s :=
  of_uncharted rfl (Nat.le_refl _) (fun _ => rfl) (.refl s)

theorem of_calm (h : Calm s t) : Charted top p snapshot s t :=
  of_uncharted h.nesting h.nextSerial h.current (h.journal.imp fun _ => Event.isUncharted_of_isCalm)

theorem note (s : Container) {e : Event} (h : e.isUncharted = true) :
    Charted top p snapshot s (s.note e) :=
  of_uncharted rfl (Nat.le_refl _) (fun _ => rfl) (.note s h)

theorem traversed {q : Nat} {r : Registry} {w : Wrapper} {v : Container} (enter : Enters s q r w v)
    (on : (s.nesting + 1 = top ∧ q = p ∧ r.serial = snapshot) ∨
      (top < s.nesting + 1 ∧ s.bound q = some r.serial))
    (inside : Charted top p snapshot v u) : Charted top p snapshot s (s.leave u) := by
  obtain ⟨chain, state, -, -, quiet⟩ := enter
  have first : Charted top p snapshot s (s.leave (({ s with chain, nesting := s.nesting + 1 }).note
      (.traversed (s.nesting + 1) q r.serial w.name state))) := by
    refine ⟨rfl, Nat.le_refl _, [_], rfl, ?_, fun _ => rfl, on, trivial⟩
    intro q r member
    cases List.mem_singleton.1 member
  have left : ∀ {a b : Container}, Charted top p snapshot a b →
      Charted top p snapshot (s.leave a) (s.leave b) :=
    fun h => ⟨rfl, h.nextSerial, h.journal⟩
  exact (first.trans (left (of_calm quiet.calm))).trans (left inside)

end Charted

theorem reload_charted (top p snapshot : Nat) (q : Nat) (config : Config) {s : Container}
    (apart : Apart s) :
    Apart (Pipeline.reload q config s).2 ∧
      Charted top p snapshot s (Pipeline.reload q config s).2 := by
  rcases Pipeline.reload_cases q config s with
    quiet | ⟨old, r, t, u, v, middle, known, quiet, -, numbered, more, rebinds, after⟩
  · exact ⟨apart.same quiet.current quiet.nextSerial, .of_calm quiet.calm⟩
  · have built : Calm s u := (quiet.calm.trans (.note t rfl)).trans more.calm
    have fresh := Nat.le_trans numbered.low_le numbered.middle_le
    have below : r.serial < v.nextSerial :=
      Nat.lt_of_lt_of_le numbered.lt_high (Nat.le_trans more.nextSerial rebinds.nextSerial)
    have grown : s.nextSerial ≤ v.nextSerial := Nat.le_trans built.nextSerial rebinds.nextSerial
    have rest := (old.letGo_calm ((r.hold v).note (.installed q r.serial))).trans after.calm
    have bound : ∀ k, v.current k = if k = q then some r else s.current k :=
      fun k => (rebinds.current k).trans (by rw [built.current])
    refine ⟨apart.bind (fun k => (rest.current k).trans (bound k))
      (Nat.le_trans grown rest.nextSerial) ?_ fresh (Nat.lt_of_lt_of_le below rest.nextSerial), ?_⟩
    · exact Nat.lt_of_lt_of_le (apart.pipeline_lt known) (Nat.le_trans grown rest.nextSerial)
    refine Charted.trans ?_ (.of_calm rest)
    obtain ⟨new, journal, calm⟩ := built.journal
    have uncharted : ∀ e ∈ .held r.serial :: new, e.isUncharted = true := by
      intro e he
      rcases List.mem_cons.1 he with rfl | he
      · rfl
      · exact Event.isUncharted_of_isCalm (calm e he)
    refine ⟨rebinds.nesting.trans built.nesting, grown, .installed q r.serial :: .held r.serial :: new,
      ?_, ?_, ?_, trivial, allRunOn_of_uncharted uncharted⟩
    · change _ :: _ :: v.journal = _
      rw [rebinds.journal, journal]
      rfl
    · intro k a member
      rcases List.mem_cons.1 member with same | member
      · obtain ⟨-, rfl⟩ := Event.installed.inj same
        exact fresh
      · cases uncharted _ member
    · intro k
      change (v.current k).map _ = lastInstalled k (s.bound k) ([_] ++ _)
      rw [bound, lastInstalled_append, lastInstalled_of_none (installed?_of_uncharted uncharted),
        lastInstalled]
      by_cases same : k = q
      · subst same
        simp [Event.installed?]
      · simp [Event.installed?, same, Ne.symm same, Container.bound]

/-! ### Traversals, dispatches and calls -/

/-- Registries are apart, and the traversals going on are as many as here or more. -/
structure Inside (top : Nat) (s : Container) : Prop where
  apart : Apart s
  level : top ≤ s.nesting

theorem Inside.calm {top p snapshot : Nat} {s t : Container} (h : Inside top s) (calm : Calm s t) :
    Inside top t ∧ Charted top p snapshot s t :=
  ⟨⟨h.apart.same calm.current calm.nextSerial, calm.nesting ▸ h.level⟩, .of_calm calm⟩

theorem Inside.note {top p snapshot : Nat} {s : Container} (h : Inside top s) {e : Event}
    (uncharted : e.isUncharted = true) :
    Inside top (s.note e) ∧ Charted top p snapshot s (s.note e) :=
  ⟨⟨h.apart.same (fun _ => rfl) (Nat.le_refl _), h.level⟩, .note s uncharted⟩

/-- A traversal itself binds no pipeline and begins no other traversal. -/
theorem course_charted (top p snapshot : Nat) :
    Course (Inside top) (Charted top p snapshot) (fun _ _ => True) where
  refl := fun _ => .refl _
  trans := Charted.trans
  quiet := fun h quiet => h.calm quiet.calm
  ready_of_rel := fun _ _ => trivial
  edit := by
    intro s t h edit
    have moved : ∀ {e : Event} (f : Chain → Chain), e.isUncharted = true →
        Inside top ((s.note e).updateChain f) ∧ Charted top p snapshot s ((s.note e).updateChain f) :=
      fun f uncharted => ⟨⟨h.apart.same (fun _ => rfl) (Nat.le_refl _), h.level⟩,
        .of_uncharted rfl (Nat.le_refl _) (fun _ => rfl) ⟨[_], rfl, by simpa using uncharted⟩⟩
    cases edit with
    | rewind => exact moved Chain.reuse rfl
    | empty => exact moved Chain.release rfl
  advance := fun h _ => ⟨⟨h.apart.same (fun _ => rfl) (Nat.le_refl _), h.level⟩,
    .of_uncharted rfl (Nat.le_refl _) (fun _ => rfl) ⟨[_], rfl, by simp [Event.isUncharted]⟩⟩
  exhaust := fun h _ => h.note rfl
  obtain := by
    intro s f h _
    rcases f.obtain_calm s with ⟨c, t, calm, given⟩ | ⟨r, t, given, calm, -⟩ <;> rw [given]
    · obtain ⟨inside, charted⟩ : Inside top t ∧ Charted top p snapshot s t := h.calm calm
      obtain ⟨inside', noted⟩ := inside.note (e := .supplied s.nesting f.serial c.serial) rfl
      exact ⟨inside', charted.trans noted, fun _ _ => trivial⟩
    · obtain ⟨inside, charted⟩ : Inside top t ∧ Charted top p snapshot s t := h.calm calm
      exact ⟨inside, charted, fun _ _ => trivial⟩
  servlet := fun _ _ => trivial
  invoke := fun _ h _ => h.note rfl

theorem dispatch_charted {top p snapshot : Nat} {calls : Calls}
    (kept : ∀ call, (calls call).Keeps (Inside top) (Charted top p snapshot)) (q : Nat)
    (dispatcher : Dispatcher) (target : Target) :
    (Pipeline.dispatch calls q dispatcher target).Keeps (Inside top) (Charted top p snapshot) := by
  have course := course_charted top p snapshot
  refine course.dispatch ?_ dispatcher target
  intro dispatcher target s h
  rcases dispatchNested_cases calls q dispatcher target s with same | ⟨r, known, dispatched⟩
  · rw [same]
    exact course.same h
  · rw [dispatched]
    refine course.andThen (h.calm (r.hold_calm s)) fun h => ?_
    refine course.andThen ?_ fun h => h.calm (r.letGo_calm _)
    refine course.divert h (fun _ => course.dispatchTo h ?_ _ _) dispatcher target
    intro u v h quiet enter
    obtain ⟨chain, state, -, -, entered⟩ := id enter
    have inside : Inside top v :=
      ⟨h.apart.same entered.current entered.nextSerial, by
        rw [entered.nesting]
        exact Nat.le_succ_of_le h.level⟩
    obtain ⟨after, charted⟩ := course.doFilter kept v inside
    have bound : u.bound q = some r.serial := by
      rw [Container.bound, quiet.current]
      exact congrArg (Option.map _) known
    exact ⟨⟨after.apart.same (fun _ => rfl) (Nat.le_refl _), h.level⟩,
      charted.traversed enter (.inr ⟨Nat.lt_succ_of_le h.level, bound⟩)⟩

theorem callsAmid_charted (top p snapshot : Nat) (outside : Outside) (levels : Nat) (call : Call) :
    (callsAmid outside levels call).Keeps (Inside top) (Charted top p snapshot) := by
  refine callsAmid_keeps (fun _ : Unit => course_charted top p snapshot) ?_ ?_ outside levels () call
  · exact fun kept _ => dispatch_charted (kept ())
  · intro _ q config s h
    obtain ⟨apart, charted⟩ := reload_charted top p snapshot q config h.apart
    exact ⟨⟨apart, charted.nesting ▸ h.level⟩, charted⟩

/-- Servicing a request runs its own traversals on the registry that its pipeline had when the
request came in. -/
theorem serviceWith_charted (outside : Outside) (levels : Nat) (p : Nat) {s : Container}
    {snapshot : Registry} (known : s.current p = some snapshot) (apart : Apart s) :
    Apart (Pipeline.serviceWith (callsAmid outside levels) p s).2 ∧
      Charted (s.nesting + 1) p snapshot.serial s
        (Pipeline.serviceWith (callsAmid outside levels) p s).2 := by
  let top := s.nesting + 1
  have steady : Steady (fun t => Apart t ∧ t.nesting + 1 = top) (Charted top p snapshot.serial) := by
    refine ⟨fun _ => .refl _, Charted.trans, ?_⟩
    intro t u h quiet
    exact ⟨⟨h.1.same quiet.current quiet.nextSerial, quiet.nesting ▸ h.2⟩, .of_calm quiet.calm⟩
  have calm : ∀ {t u}, Apart t ∧ t.nesting + 1 = top → Calm t u →
      (Apart u ∧ u.nesting + 1 = top) ∧ Charted top p snapshot.serial t u :=
    fun h calm => ⟨⟨h.1.same calm.current calm.nextSerial, calm.nesting ▸ h.2⟩, .of_calm calm⟩
  have visit : ∀ {wrapper state pooled}, snapshot.Serves wrapper →
      (Pipeline.dispatchTo (callsAmid outside levels) p snapshot wrapper state pooled).Keeps
        (fun t => Apart t ∧ t.nesting + 1 = top) (Charted top p snapshot.serial) := by
    intro wrapper state pooled _ t h
    refine steady.dispatchTo h ?_ state pooled
    intro u v h _ enter
    obtain ⟨chain, state, -, -, entered⟩ := id enter
    have inside : Inside top v :=
      ⟨h.1.same entered.current entered.nextSerial, by
        rw [entered.nesting]
        exact Nat.le_of_eq h.2.symm⟩
    obtain ⟨after, charted⟩ := (course_charted top p snapshot.serial).doFilter
      (callsAmid_charted top p snapshot.serial outside levels) v inside
    exact ⟨⟨after.apart.same (fun _ => rfl) (Nat.le_refl _), h.2⟩,
      charted.traversed enter (.inl ⟨h.2, rfl, rfl⟩)⟩
  rcases serviceWith_cases (callsAmid outside levels) p s with ⟨none, -⟩ | ⟨r, t, path, here, quiet, run⟩
  · rw [known] at none
    cases none
  · obtain rfl := Option.some.inj (known.symm.trans here)
    rw [run]
    have serviced := steady.andThen (steady.quiet ⟨apart, rfl⟩ quiet) fun h =>
      steady.andThen (calm h (snapshot.hold_calm _)) fun h =>
        steady.andThen (steady.serviceOn visit path _ h) fun h => calm h (snapshot.letGo_calm _)
    exact ⟨serviced.1.1, serviced.2⟩

/-- While a request is serviced, its own traversals, the first one and one for each suspension,
run on the registry that its pipeline had when it came in. A traversal of a dispatch inside them
runs on that registry exactly if it is one in that pipeline and no reload of the pipeline came
between. -/
theorem serviceWith_snapshot (acts : List Host.Act) (outside : Outside) (levels p : Nat)
    {snapshot : Registry} (known : (Host.run acts).box.current p = some snapshot) :
    ∃ new, (Pipeline.serviceWith (callsAmid outside levels) p (Host.run acts).box).2.journal =
        new ++ (Host.run acts).box.journal ∧
      ∀ later earlier level q r servlet state,
        new = later ++ .traversed level q r servlet state :: earlier →
        (level = (Host.run acts).box.nesting + 1 → q = p ∧ r = snapshot.serial) ∧
        (level ≠ (Host.run acts).box.nesting + 1 → (Host.run acts).box.nesting + 1 < level ∧
          (r = snapshot.serial ↔ q = p ∧ ∀ other, .installed p other ∉ earlier)) := by
  have apart := (Host.run_sound acts).accounted.apart
  obtain ⟨-, charted⟩ := serviceWith_charted outside levels p known apart
  obtain ⟨new, journal, fresh, -, on⟩ := charted.journal
  refine ⟨new, journal, ?_⟩
  intro later earlier level q r servlet state split
  have bound : ∀ k, (Host.run acts).box.bound k = some snapshot.serial ↔ k = p := by
    intro k
    constructor
    · intro same
      obtain ⟨a, current, serial⟩ := Option.map_eq_some_iff.1 same
      exact apart.injective current known serial
    · rintro rfl
      rw [Container.bound, known, Option.map_some]
  rcases on.at split with ⟨top, own, same⟩ | ⟨deeper, current⟩
  · exact ⟨fun _ => ⟨own, same⟩, fun other => absurd top other⟩
  refine ⟨fun top => absurd top (Nat.ne_of_gt deeper), fun _ => ⟨deeper, ?_⟩⟩
  have absent : (∀ other, .installed q other ∉ earlier) ↔
      earlier.findSome? (·.installed? q) = none := by
    rw [List.findSome?_eq_none_iff]
    constructor
    · intro none e he
      cases e with
      | installed k other =>
        refine if_neg ?_
        rintro rfl
        exact none other he
      | _ => rfl
    · intro none other he
      have := none _ he
      simp [Event.installed?] at this
  constructor
  · rintro rfl
    cases found : earlier.findSome? (·.installed? q) with
    | none =>
      rw [lastInstalled, found, Option.none_or, bound] at current
      exact ⟨current, current ▸ absent.2 found⟩
    | some other =>
      rw [lastInstalled, found, Option.some_or, Option.some.injEq] at current
      obtain ⟨e, he, installs⟩ := List.exists_of_findSome?_eq_some found
      cases e with
      | installed k r =>
        simp only [Event.installed?, Option.ite_none_right_eq_some, Option.some.injEq] at installs
        have new_one := fresh k r (split ▸ List.mem_append_right _ (List.mem_cons_of_mem _ he))
        have old := apart.registry_lt known
        omega
      | _ => cases installs
  · rintro ⟨rfl, none⟩
    rw [lastInstalled, absent.1 none, Option.none_or, (bound q).2 rfl, Option.some.injEq] at current
    exact current.symm

/-- A configuration of a servlet that reloads and sends the request on, and of another one. -/
def relayConfig : Config where
  servlets := [
    { name := "relay", className := "relay", urlPatterns := ["/"] },
    { name := "page", className := "page" }]

/-- Servlets of those classes; the reload is to the configuration that was there. -/
def relayComponents : ComponentFactory where
  servlets := ⟨[
    ("relay", ⟨false, fun _ _ => .ready
      (.reload relayConfig fun _ => .dispatch .forward (.named "page") .finish)⟩),
    ("page", ⟨false, fun _ _ => .ready .done⟩)]⟩

def relayActs : List Host.Act := [.openPipeline relayConfig relayComponents none, .request {}]

/-- The servlet that the request is sent on to is taken from the registry of the reload. -/
theorem serviceWith_snapshot_relay :
    ∃ snapshot new, (Host.run relayActs).box.current 4 = some snapshot ∧
      (Pipeline.serviceWith (callsAmid (fun _ => []) 3) 4 (Host.run relayActs).box).2.journal =
        new ++ (Host.run relayActs).box.journal ∧
      ∃ later earlier r state, new = later ++ .traversed 2 4 r "page" state :: earlier ∧
        r ≠ snapshot.serial ∧ ∃ other, .installed 4 other ∈ earlier := by
  have bound : ((Host.run relayActs).box.current 4).map (·.serial) = some 3 := by decide +kernel
  have nesting : (Host.run relayActs).box.nesting = 0 := by decide +kernel
  obtain ⟨snapshot, known, serial⟩ := Option.map_eq_some_iff.1 bound
  obtain ⟨new, journal, runs⟩ := serviceWith_snapshot relayActs (fun _ => []) 3 4 known
  refine ⟨snapshot, new, known, journal, ?_⟩
  let forwarded : Event → Bool := fun e =>
    match e with
    | .traversed level q r servlet _ => level == 2 && q == 4 && servlet == "page" && r != 3
    | _ => false
  have found : ((((Pipeline.serviceWith (callsAmid (fun _ => []) 3) 4
      (Host.run relayActs).box).2.journal.reverse.drop
        (Host.run relayActs).box.journal.length).reverse).any forwarded) = true := by
    decide +kernel
  rw [journal, List.reverse_append, List.drop_left' (List.length_reverse ..), List.reverse_reverse,
    List.any_eq_true] at found
  obtain ⟨e, member, forwards⟩ := found
  obtain ⟨later, earlier, split⟩ := List.append_of_mem member
  cases e with
  | traversed level q r servlet state =>
    simp only [forwarded, Bool.and_eq_true, beq_iff_eq, bne_iff_ne] at forwards
    obtain ⟨⟨⟨rfl, rfl⟩, rfl⟩, other⟩ := forwards
    have apart := (runs later earlier 2 4 r "page" state split).2 (by rw [nesting]; decide)
    rw [serial] at apart
    refine ⟨later, earlier, r, state, split, serial ▸ other, ?_⟩
    by_contra none
    exact other (apart.2.2 ⟨rfl, fun other member => none ⟨other, member⟩⟩)
  | _ => cases forwards

end ServletFilters
