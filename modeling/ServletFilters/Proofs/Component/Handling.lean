import ServletFilters.Proofs.Component.Ledger
import ServletFilters.Proofs.Container.Changes

/-!
A declared filter that is obtained and released, in any order. It gives one instance between two
releases and asks its class only when there is none, `FilterConfig.keeps`. What its class makes is
never given or destroyed after its end; an instance that it was bound to from the start is given
again after each release, and destroyed as often, `FilterConfig.handled_ends`.
-/

namespace ServletFilters

namespace FilterConfig

/-- What the owner of a declared filter does with it. -/
inductive Handling where
  | obtain
  | release

def handle (f : FilterConfig) (s : Container) : Handling → Container
  | .obtain => (f.obtain s).2
  | .release => f.release s

def handled (f : FilterConfig) (s : Container) (acts : List Handling) : Container :=
  acts.foldl f.handle s

/-- The instance that is there from the start. -/
def bound (f : FilterConfig) : Option Component :=
  match f.source with
  | .made _ => none
  | .given c => some c

/-- The number under which the class makes the next instance. -/
def nextCount (f : FilterConfig) (s : Container) : Nat :=
  (s.constructions.find? f.name).getD 0 + 1

/-- How many releases find an instance, if it can always be obtained. -/
def endings (there : Bool) : List Handling → Nat
  | [] => 0
  | .obtain :: rest => endings true rest
  | .release :: rest => there.toNat + endings false rest

/-! ### One act -/

variable {f : FilterConfig} {s : Container}

theorem obtain_found {c : Component} (found : s.instances.find? f.serial = some c) :
    f.obtain s = (.ok (.ok c), s.note (.supplied s.nesting f.serial c.serial)) := by
  unfold FilterConfig.obtain
  rw [Run.get_bind_apply, found]
  rfl

theorem release_found {c : Component} (found : s.instances.find? f.serial = some c) :
    f.release s = { s with instances := s.instances.erase f.serial }.note
      (.destroyed c.serial c.name c.announced) := by
  rw [FilterConfig.release, found]

theorem release_missing (missing : s.instances.find? f.serial = none) : f.release s = s := by
  rw [FilterConfig.release, missing]

theorem release_uninitialised (s : Container) : (f.release s).instances.find? f.serial = none := by
  cases found : s.instances.find? f.serial with
  | none => rw [release_missing found, found]
  | some c =>
    rw [release_found found]
    exact (Dict.find?_erase ..).trans (if_pos rfl)

/-- The filter is there afterwards iff it was given, and it is what was given. -/
theorem obtain_initialised (s : Container) (c : Component) :
    (f.obtain s).2.instances.find? f.serial = some c ↔ (f.obtain s).1 = .ok (.ok c) := by
  rcases f.obtain_cases s with
    ⟨d, found, given⟩ | ⟨d, t, -, -, given⟩ | ⟨r, t, failed, quiet, none⟩
  · rw [given]
    change s.instances.find? f.serial = some c ↔ _
    rw [found]
    simp
  · rw [given]
    change (t.instances.insert f.serial d).find? f.serial = some c ↔ _
    rw [Dict.find?_insert_self]
    simp
  · rw [failed]
    refine iff_of_false (fun found => ?_) (none c)
    rw [quiet.instances] at found
    rw [obtain_found found] at failed
    exact none c (congrArg Prod.fst failed).symm

theorem obtain_missing (missing : s.instances.find? f.serial = none) :
    (f.obtain s).1 = (f.make s).1 ∧ (f.obtain s).2.constructions = (f.make s).2.constructions := by
  unfold FilterConfig.obtain
  rw [Run.get_bind_apply, missing]
  dsimp only
  rcases made : f.make s with ⟨halt | failure | c, t⟩
  · rw [Run.bind_of_error made]
    exact ⟨rfl, rfl⟩
  · rw [Run.bind_of_ok made]
    exact ⟨rfl, rfl⟩
  · rw [Run.bind_of_ok made]
    exact ⟨rfl, rfl⟩

theorem finish_frame (announced : Bool) (name : String) (m : Making) (s t : Container)
    (same : t.nextSerial = s.nextSerial) :
    (m.finish announced name t).1 = (m.finish announced name s).1 ∧
      (m.finish announced name t).2.constructions = t.constructions := by
  cases m with
  | panicked message => exact ⟨rfl, rfl⟩
  | refused failure => exact ⟨rfl, rfl⟩
  | ready program =>
    refine ⟨?_, rfl⟩
    have made (u : Container) : ((Making.ready program).finish announced name u).1 =
        .ok (.ok { serial := u.nextSerial, name, announced, program }) := rfl
    rw [made, made, same]

/-- Without an instance the class decides, and its calls are counted if it is announced. -/
theorem obtain_made {cls : FilterClass} (source : f.source = .made cls)
    (missing : s.instances.find? f.serial = none) :
    (f.obtain s).1 =
        ((cls.make f.definition (f.nextCount s)).finish cls.announced f.name s).1 ∧
      (cls.announced = true →
        (f.obtain s).2.constructions.find? f.name = some (f.nextCount s)) := by
  have finish := finish_frame cls.announced f.name (cls.make f.definition (f.nextCount s)) s
  rw [(obtain_missing missing).1, (obtain_missing missing).2, FilterConfig.make, source]
  dsimp only
  unfold makeComponent
  rw [Run.get_bind_apply]
  cases announced : cls.announced with
  | false =>
    rw [announced] at finish
    exact ⟨(finish s rfl).1, by rintro ⟨⟩⟩
  | true =>
    rw [announced] at finish
    obtain ⟨result, constructions⟩ := finish
      ({ s with constructions := s.constructions.insert f.name (f.nextCount s) }.note
        (.constructing f.name (f.nextCount s))) rfl
    refine ⟨result, fun _ => ?_⟩
    exact (congrArg (·.find? f.name) constructions).trans (Dict.find?_insert_self ..)

/-! ### What was given is kept -/

/-- What becomes of a filter from this state on. What it gives is there afterwards, and is given
again without its class until it is released; where it gives nothing, nothing is there, and the
class decides anew. A release destroys what is there, and does nothing where nothing is. -/
structure Keeps (f : FilterConfig) (s : Container) : Prop where
  same : ∀ c n source, (f.obtain s).1 = .ok (.ok c) →
    ({ f with source }.obtain (f.handled s (List.replicate (n + 1) .obtain))).1 = .ok (.ok c)
  there : ∀ c, (f.obtain s).2.instances.find? f.serial = some c ↔ (f.obtain s).1 = .ok (.ok c)
  retried : f.isInitialised s = false → ∀ cls, f.source = .made cls → (f.obtain s).1 =
    ((cls.make f.definition (f.nextCount s)).finish cls.announced f.name s).1 ∧
    (cls.announced = true → (f.obtain s).2.constructions.find? f.name = some (f.nextCount s))
  released : f.isInitialised (f.release s) = false
  destroyed : ∀ c, s.instances.find? f.serial = some c →
    (f.release s).journal = .destroyed c.serial c.name c.announced :: s.journal
  untouched : f.isInitialised s = false → f.release s = s

theorem obtains_keep {c : Component} (found : s.instances.find? f.serial = some c) (n : Nat) :
    (f.handled s (List.replicate n .obtain)).instances.find? f.serial = some c := by
  induction n generalizing s with
  | zero => exact found
  | succ n ih =>
    refine ih ?_
    rw [handle, obtain_found found]
    exact found

theorem keeps (f : FilterConfig) (s : Container) : f.Keeps s where
  same c n source given := by
    have kept := obtains_keep ((obtain_initialised s c).2 given) n
    exact congrArg Prod.fst (obtain_found (f := { f with source }) kept)
  there := obtain_initialised s
  retried missing cls source := obtain_made source (by simpa [isInitialised] using missing)
  released := by rw [isInitialised, release_uninitialised]; rfl
  destroyed c found := by rw [release_found found]; rfl
  untouched missing := release_missing (by simpa [isInitialised] using missing)

/-! ### Ends -/

/-- The later event neither ends nor uses what the earlier one ended. -/
def Spares (later earlier : Event) : Prop :=
  ∀ c, earlier.ends c = true → later.ends c = false ∧ later.uses c = false

theorem spares_of_isPlain {later : Event} (plain : later.isPlain = true) (earlier : Event) :
    Spares later earlier := by
  cases later <;> first | exact fun _ _ => ⟨rfl, rfl⟩ | cases plain

theorem ends_of_isPlain {e : Event} (plain : e.isPlain = true) (c : Nat) : e.ends c = false := by
  cases e <;> first | rfl | cases plain

theorem countP_ends_le_one {told : List Event} (spares : told.Pairwise Spares) (c : Nat) :
    told.countP (·.ends c) ≤ 1 := by
  induction told with
  | nil => exact Nat.zero_le 1
  | cons e rest ih =>
    obtain ⟨first, others⟩ := List.pairwise_cons.1 spares
    cases ends : e.ends c with
    | false =>
      rw [List.countP_cons_of_neg (by simp [ends])]
      exact ih others
    | true =>
      have none : rest.countP (·.ends c) = 0 := by
        refine List.countP_eq_zero.2 fun g old again => ?_
        rw [(first g old c again).1] at ends
        cases ends
      have one := List.countP_cons_of_pos (l := rest) (p := fun e => Event.ends c e) ends
      omega

/-- What these events ended, newest first, is not there any more and was spared since. -/
structure Spent (f : FilterConfig) (told : List Event) (s : Container) : Prop where
  spares : told.Pairwise Spares
  numbers : ∀ e ∈ told, ∀ c, e.ends c = true → c < s.nextSerial
  there : ∀ c, s.instances.find? f.serial = some c →
    c.serial < s.nextSerial ∧ ∀ e ∈ told, e.ends c.serial = false

theorem Spent.quiet {told : List Event} {t : Container} (h : f.Spent told s) (quiet : Quiet s t) :
    ∃ more, t.journal = more ++ s.journal ∧ (∀ e ∈ more, ∀ c, e.ends c = false) ∧
      f.Spent (more ++ told) t := by
  obtain ⟨more, journal, plain⟩ := quiet.journal
  have idle : ∀ e ∈ more, ∀ c, e.ends c = false := fun e new => ends_of_isPlain (plain e new)
  refine ⟨more, journal, idle, ?_, ?_, ?_⟩
  · refine List.pairwise_append.2 ⟨?_, h.spares, fun e new g _ => spares_of_isPlain (plain e new) g⟩
    exact List.pairwise_of_forall_mem_list fun e new g _ => spares_of_isPlain (plain e new) g
  · intro e new c ends
    rcases List.mem_append.1 new with new | old
    · exact absurd (idle e new c) (by simp [ends])
    · exact Nat.lt_of_lt_of_le (h.numbers e old c ends) quiet.nextSerial
  · intro c found
    rw [quiet.instances] at found
    refine ⟨Nat.lt_of_lt_of_le (h.there c found).1 quiet.nextSerial, fun e new => ?_⟩
    rcases List.mem_append.1 new with new | old
    · exact idle e new _
    · exact (h.there c found).2 e old

theorem Spent.supply {told : List Event} (spares : told.Pairwise Spares)
    (numbers : ∀ e ∈ told, ∀ c, e.ends c = true → c < s.nextSerial) {c : Component}
    (there : s.instances.find? f.serial = some c) (number : c.serial < s.nextSerial)
    (alive : ∀ e ∈ told, e.ends c.serial = false) (level : Nat) :
    f.Spent (.supplied level f.serial c.serial :: told) s := by
  refine ⟨List.pairwise_cons.2 ⟨fun e old d ends => ⟨rfl, ?_⟩, spares⟩, ?_, ?_⟩
  · refine beq_false_of_ne fun same => ?_
    rw [← same, alive e old] at ends
    cases ends
  · exact List.forall_mem_cons.2 ⟨by rintro d ⟨⟩, numbers⟩
  · intro d found
    obtain rfl := Option.some.inj (there.symm.trans found)
    exact ⟨number, List.forall_mem_cons.2 ⟨rfl, alive⟩⟩

/-- An act keeps what ended out of the filter whose class makes its instances. -/
theorem Spent.handle {told : List Event} (h : f.Spent told s) {cls : FilterClass}
    (source : f.source = .made cls) (act : Handling) :
    ∃ more, (f.handle s act).journal = more ++ s.journal ∧
      f.Spent (more ++ told) (f.handle s act) := by
  cases act with
  | obtain =>
    change ∃ more, (f.obtain s).2.journal = more ++ s.journal ∧ f.Spent (more ++ told) (f.obtain s).2
    rcases f.obtain_cases s with
      ⟨c, found, given⟩ | ⟨c, t, -, made, given⟩ | ⟨r, t, given, quiet, -⟩ <;> rw [given]
    · obtain ⟨number, alive⟩ := h.there c found
      exact ⟨[.supplied s.nesting f.serial c.serial], rfl,
        .supply (s := s.note _) h.spares h.numbers found number alive s.nesting⟩
    · obtain ⟨quiet, new⟩ := f.make_makes source s
      rw [made] at quiet new
      obtain ⟨low, high⟩ := new c rfl
      obtain ⟨more, journal, idle, spent⟩ := h.quiet quiet
      refine ⟨.supplied t.nesting f.serial c.serial :: more, congrArg (_ :: ·) journal, ?_⟩
      refine .supply (s := { t with instances := t.instances.insert f.serial c }.note _)
        spent.spares spent.numbers (Dict.find?_insert_self ..) high (fun e there => ?_) t.nesting
      -- The number of the instance is new, so none of these events is about it.
      rcases List.mem_append.1 there with new | old
      · exact idle e new _
      · exact Bool.eq_false_iff.2 fun ends => Nat.not_lt.2 low (h.numbers e old _ ends)
    · obtain ⟨more, journal, -, spent⟩ := h.quiet quiet
      exact ⟨more, journal, spent⟩
  | release =>
    change ∃ more, (f.release s).journal = more ++ s.journal ∧ f.Spent (more ++ told) (f.release s)
    cases found : s.instances.find? f.serial with
    | none =>
      rw [release_missing found]
      exact ⟨[], rfl, h⟩
    | some c =>
      obtain ⟨number, alive⟩ := h.there c found
      have gone := release_uninitialised (f := f) s
      rw [release_found found] at gone ⊢
      refine ⟨[.destroyed c.serial c.name c.announced], rfl, ?_, ?_, ?_⟩
      · refine List.pairwise_cons.2 ⟨fun e old d ends => ⟨beq_false_of_ne fun same => ?_, rfl⟩, h.spares⟩
        rw [← same, alive e old] at ends
        cases ends
      · exact List.forall_mem_cons.2 ⟨fun d ends => eq_of_beq ends ▸ number, h.numbers⟩
      · intro d there
        cases gone.symm.trans there

theorem Spent.handled {told : List Event} (h : f.Spent told s) {cls : FilterClass}
    (source : f.source = .made cls) (acts : List Handling) :
    ∃ more, (f.handled s acts).journal = more ++ s.journal ∧
      f.Spent (more ++ told) (f.handled s acts) := by
  induction acts generalizing s told with
  | nil => exact ⟨[], rfl, h⟩
  | cons act rest ih =>
    obtain ⟨first, journal, spent⟩ := h.handle source act
    obtain ⟨later, journal', spent'⟩ := ih spent
    refine ⟨later ++ first, ?_, ?_⟩
    · rw [List.append_assoc, ← journal]
      exact journal'
    · rwa [List.append_assoc]

/-! ### Instances from the start -/

theorem make_given {c : Component} (source : f.source = .given c) (s : Container) :
    f.make s = (.ok (.ok c), s) := by
  rw [FilterConfig.make, source]
  rfl

/-- The filter gives what it was bound to, whether or not that was destroyed. -/
theorem obtain_given {c : Component} (source : f.source = .given c)
    (bound : ∀ d, s.instances.find? f.serial = some d → d = c) :
    (f.obtain s).1 = .ok (.ok c) ∧
      (f.obtain s).2.journal = .supplied s.nesting f.serial c.serial :: s.journal := by
  cases found : s.instances.find? f.serial with
  | some d =>
    obtain rfl := bound d found
    rw [obtain_found found]
    exact ⟨rfl, rfl⟩
  | none =>
    unfold FilterConfig.obtain
    rw [Run.get_bind_apply, found]
    dsimp only
    rw [Run.bind_of_ok (make_given source s)]
    exact ⟨rfl, rfl⟩

theorem handled_given {c : Component} (source : f.source = .given c) (acts : List Handling)
    (there : Bool) (bound : s.instances.find? f.serial = if there then some c else none) :
    (∀ d, (f.handled s acts).instances.find? f.serial = some d → d = c) ∧
      ∃ told, (f.handled s acts).journal = told ++ s.journal ∧
        ∀ n, told.countP (·.ends n) = if n = c.serial then endings there acts else 0 := by
  have own {s : Container} {there : Bool}
      (bound : s.instances.find? f.serial = if there then some c else none) :
      ∀ d, s.instances.find? f.serial = some d → d = c := by
    intro d found
    rw [bound] at found
    cases there with
    | true => exact (Option.some.inj found).symm
    | false => cases found
  induction acts generalizing s there with
  | nil => exact ⟨own bound, [], rfl, fun n => by simp [endings]⟩
  | cons act rest ih =>
    cases act with
    | obtain =>
      obtain ⟨given, journal⟩ := obtain_given source (own bound)
      obtain ⟨same, told, journal', counts⟩ :=
        ih true ((obtain_initialised s c).2 given)
      refine ⟨same, told ++ [.supplied s.nesting f.serial c.serial], ?_, fun n => ?_⟩
      · rw [List.append_assoc, List.singleton_append, ← journal]
        exact journal'
      · rw [List.countP_append, counts]
        rfl
    | release =>
      obtain ⟨same, told, journal', counts⟩ := ih false (release_uninitialised s)
      cases there with
      | true =>
        have journal : (f.release s).journal =
            .destroyed c.serial c.name c.announced :: s.journal := by rw [release_found bound]; rfl
        refine ⟨same, told ++ [.destroyed c.serial c.name c.announced], ?_, fun n => ?_⟩
        · rw [List.append_assoc, List.singleton_append, ← journal]
          exact journal'
        · rw [List.countP_append, counts, List.countP_singleton, Event.ends, endings]
          by_cases this : n = c.serial
          · simp [this, Nat.add_comm]
          · simp [this, Ne.symm this]
      | false =>
        have unchanged : f.release s = s := release_missing bound
        refine ⟨same, told, journal'.trans (by rw [unchanged]), fun n => ?_⟩
        rw [counts, endings, Bool.toNat_false, Nat.zero_add]

/-- However a declared filter is obtained and released, it keeps what it gave until it is released,
and has its class make it again afterwards. What its class made is neither given nor destroyed once
it was destroyed; the one instance that a filter was bound to is given at every time, and destroyed
by each release that finds it. -/
theorem handled_ends (f : FilterConfig) (s : Container)
    (declared : s.instances.find? f.serial = f.bound) (acts : List Handling) :
    f.Keeps (f.handled s acts) ∧
      ∃ told, (f.handled s acts).journal = told ++ s.journal ∧
        (∀ cls, f.source = .made cls → told.Pairwise Spares ∧ ∀ n, told.countP (·.ends n) ≤ 1) ∧
        ∀ c, f.source = .given c → (f.obtain (f.handled s acts)).1 = .ok (.ok c) ∧
          ∀ n, told.countP (·.ends n) = if n = c.serial then endings true acts else 0 := by
  refine ⟨keeps f _, ?_⟩
  cases source : f.source with
  | made cls =>
    rw [bound, source] at declared
    have new : f.Spent [] s :=
      ⟨.nil, List.forall_mem_nil _, fun c found => by rw [declared] at found; cases found⟩
    obtain ⟨told, journal, spent⟩ := new.handled source acts
    rw [List.append_nil] at spent
    exact ⟨told, journal, fun _ _ => ⟨spent.spares, countP_ends_le_one spent.spares⟩, by rintro c ⟨⟩⟩
  | given c =>
    rw [bound, source] at declared
    obtain ⟨same, told, journal, counts⟩ := handled_given source acts true declared
    refine ⟨told, journal, by rintro cls ⟨⟩, ?_⟩
    rintro d ⟨⟩
    exact ⟨(obtain_given source same).1, counts⟩

/-- A filter that is bound to an instance, and obtained between two releases, destroys it twice. -/
theorem handled_ends_bound :
    ∃ (f : FilterConfig) (c : Component) (s : Container), f.source = .given c ∧
      s.instances.find? f.serial = f.bound ∧
      (f.obtain (f.handled s [.release])).1 = .ok (.ok c) ∧
      ∃ told, (f.handled s [.release, .obtain, .release]).journal = told ++ s.journal ∧
        told.countP (·.ends c.serial) = 2 := by
  let c : Component := { serial := 2, name := "gate", program := .proceed .finish }
  let f : FilterConfig :=
    { serial := 1, definition := { name := "gate", className := "script" }, source := .given c }
  let s : Container := { nextSerial := 3, instances := .ofList [(1, c)] }
  have declared : s.instances.find? f.serial = f.bound := rfl
  obtain ⟨-, _, -, -, once⟩ := handled_ends f s declared [.release]
  obtain ⟨-, told, journal, -, twice⟩ := handled_ends f s declared [.release, .obtain, .release]
  exact ⟨f, c, s, rfl, declared, (once c rfl).1, told, journal, (twice c rfl).2 2⟩

end FilterConfig

end ServletFilters
