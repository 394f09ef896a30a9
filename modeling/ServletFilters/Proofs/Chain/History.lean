import ServletFilters.Proofs.Chain.Reuse
import ServletFilters.Proofs.Container.Occasions

/-!
The history of a chain. Whatever is done with it, by its owner or by the components that it runs, a
chain holds what was added since it was emptied last, each filter once, and has room for as many
filters as it ever held, in tens, `history_sound`.
-/

namespace ServletFilters

/-- The filters of a list, each declaration where it comes first. -/
def FilterConfig.distinct : List FilterConfig → List FilterConfig
  | [] => []
  | f :: rest => f :: (distinct rest).filter fun g => g.serial != f.serial

/-- The container with this chain in place of the current one. -/
def Container.holding (box : Container) (c : Chain) : Container := { box with chain := c }

/-- What happened in a container since an earlier state, newest first. -/
def Container.since (s t : Container) : List Event :=
  t.journal.take (t.journal.length - s.journal.length)

namespace Chain

/-- What is done with a chain. -/
inductive Deed where
  | add (f : FilterConfig)
  | configure (filters : List FilterConfig) (servlet : Component) (async : Bool)
  | setServlet (servlet : Component) (async : Bool)
  /-- Has the chain run its components through an executor and put the exchange on record, or not. -/
  | fit (executor : Option Executor) (tracking : Bool)
  /-- Fills the chain for a servlet and for the way the request of this container came. -/
  | populate (registry : Registry) (wrapper : Wrapper) (box : Container)
  | release
  | reuse
  /-- Goes on with the chain in this container, where components do what they are made for and others
  reload the pipelines, and it ends somehow. -/
  | goOn (outside : Outside) (levels : Nat) (box : Container)

def goneOn (c : Chain) (outside : Outside) (levels : Nat) (box : Container) : Container :=
  (Traversal.doFilter (callsAmid outside levels) (box.holding c)).2

def Deed.act (c : Chain) : Deed → Chain
  | .add f => c.addFilter f
  | .configure filters servlet async => c.configure filters servlet async
  | .setServlet servlet async => c.setServlet servlet async
  | .fit executor tracking => { c with executor, tracking }
  | .populate registry wrapper box => (Chain.populate registry wrapper (box.holding c)).2.chain
  | .release => c.release
  | .reuse => c.reuse
  | .goOn outside levels box => (c.goneOn outside levels box).chain

structure History where
  chain : Chain := {}
  /-- The filters that were added since the chain was emptied last, in order. -/
  added : List FilterConfig := []
  /-- The largest number of filters that the chain held. -/
  most : Nat := 0

namespace History

def add (h : History) (f : FilterConfig) : History where
  chain := h.chain.addFilter f
  added := h.added ++ [f]
  most := max h.most (h.chain.addFilter f).filters.length

def empty (h : History) : History := { h with chain := h.chain.release, added := [] }

/-- What becomes of the chain, one filter after the other. A filter that the chain comes to may empty
it. -/
def after (h : History) : Deed → History
  | .add f => h.add f
  | .configure filters servlet async =>
    let filled := filters.foldl add h.empty
    { filled with chain := filled.chain.setServlet servlet async }
  | .setServlet servlet async => { h with chain := h.chain.setServlet servlet async }
  | .fit executor tracking => { h with chain := { h.chain with executor, tracking } }
  | .populate registry wrapper box =>
    let d := box.request.dispatch
    let names := resolve registry.mappings d.dispatcher d.path (some wrapper.name)
    let bound := h.empty.chain.setServlet wrapper.servlet wrapper.asyncSupported
    (declared registry names).foldl add { h.empty with chain := bound }
  | .release => h.empty
  | .reuse => { h with chain := h.chain.reuse }
  | .goOn outside levels box =>
    let t := h.chain.goneOn outside levels box
    { chain := t.chain
      added := if (box.since t).any (·.empties box.nesting) then [] else h.added
      most := max h.most t.chain.filters.length }

/-- The history of a new chain with which all this was done. -/
def of (deeds : List Deed) : History := deeds.foldl after {}

theorem foldl_add_chain (fs : List FilterConfig) (h : History) :
    (fs.foldl add h).chain = fs.foldl addFilter h.chain := by
  induction fs generalizing h with
  | nil => rfl
  | cons f rest ih => exact ih _

theorem after_chain (h : History) (d : Deed) : (h.after d).chain = d.act h.chain := by
  cases d with
  | configure filters servlet async =>
    exact congrArg (·.setServlet servlet async) (foldl_add_chain filters h.empty)
  | populate registry wrapper box =>
    simp only [Deed.act, populate_eq]
    exact foldl_add_chain _ _
  | _ => rfl

theorem of_chain (deeds : List Deed) : (of deeds).chain = deeds.foldl Deed.act {} := by
  suffices ∀ h : History, (deeds.foldl after h).chain = deeds.foldl Deed.act h.chain from this {}
  induction deeds with
  | nil => exact fun _ => rfl
  | cons d rest ih =>
    intro h
    rw [List.foldl_cons, List.foldl_cons, ih, after_chain]

end History

/-- A chain as it is after these filters were added to it and it held so many. -/
structure Sound (c : Chain) (added : List FilterConfig) (most : Nat) : Prop where
  distinct : (c.filters.map (·.serial)).Nodup
  filters : c.filters = FilterConfig.distinct added
  position : c.position ≤ c.filters.length
  held : c.filters.length ≤ most
  capacity : c.capacity = 10 * ((most + 9) / 10)

end Chain

/-- A state on the way of a chain that goes on: a component is called in it, a component makes a call,
or the call to go on is over. -/
inductive Traversal.Amidst (outside : Outside) : Nat → Container → Container → Prop where
  | invoked {n s i t} : (i, t) ∈ invocations (callsAmid outside n) s → Amidst outside n s t
  | calling {n s call t} : (call, t) ∈ inner (callsAmid outside n) s → Amidst outside n s t
  | ended {n s} : Amidst outside n s (doFilter (callsAmid outside n) s).2
  | further {n s t u} : (.proceed, t) ∈ inner (callsAmid outside (n + 1)) s →
      Amidst outside n (meanwhile outside t).2 u → Amidst outside (n + 1) s u

/-! ### Adding filters -/

namespace FilterConfig

theorem any_distinct (fs : List FilterConfig) (n : Nat) :
    (distinct fs).any (fun g => g.serial == n) = fs.any fun g => g.serial == n := by
  induction fs with
  | nil => rfl
  | cons f rest ih =>
    rw [distinct, List.any_cons, List.any_cons, List.any_filter, ← ih]
    by_cases here : f.serial = n
    · simp [here]
    · have spared (g : FilterConfig) : (g.serial != f.serial && g.serial == n) = (g.serial == n) := by
        by_cases other : g.serial = n
        · simp [other, Ne.symm here]
        · simp [other]
      simp only [spared]

theorem distinct_append_single (fs : List FilterConfig) (f : FilterConfig) :
    distinct (fs ++ [f]) =
      if fs.any (fun g => g.serial == f.serial) then distinct fs else distinct fs ++ [f] := by
  induction fs with
  | nil => rfl
  | cons g rest ih =>
    rw [List.cons_append, distinct, ih, distinct, List.any_cons]
    by_cases before : rest.any fun g => g.serial == f.serial
    · simp [before]
    · by_cases here : g.serial = f.serial
      · simp [before, here]
      · simp [before, here, Ne.symm here]

theorem distinct_nodup (fs : List FilterConfig) : ((distinct fs).map (·.serial)).Nodup := by
  induction fs with
  | nil => exact List.nodup_nil
  | cons f rest ih =>
    rw [distinct, List.map_cons, List.nodup_cons]
    refine ⟨?_, ih.sublist (List.filter_sublist.map _)⟩
    simp

end FilterConfig

namespace Chain

variable {c : Chain} {added : List FilterConfig} {most : Nat}

namespace Sound

theorem of_filters (filters : c.filters = FilterConfig.distinct added)
    (position : c.position ≤ c.filters.length) (held : c.filters.length ≤ most)
    (capacity : c.capacity = 10 * ((most + 9) / 10)) : c.Sound added most :=
  ⟨filters ▸ FilterConfig.distinct_nodup added, filters, position, held, capacity⟩

theorem new : Sound {} [] 0 := of_filters rfl (Nat.le_refl 0) (Nat.le_refl 0) rfl

theorem addFilter (h : c.Sound added most) (f : FilterConfig) :
    (c.addFilter f).Sound (added ++ [f]) (max most (c.addFilter f).filters.length) := by
  have first := FilterConfig.distinct_append_single added f
  rw [← FilterConfig.any_distinct, ← h.filters] at first
  have held := h.held
  have capacity := h.capacity
  unfold Chain.addFilter
  split
  · rename_i there
    rw [if_pos there] at first
    rw [Nat.max_eq_left held]
    exact of_filters first.symm h.position held capacity
  · rename_i absent
    rw [if_neg absent] at first
    refine of_filters first.symm ?_ (Nat.le_max_right _ _) ?_
    · exact Nat.le_trans h.position (by simp)
    · -- A full chain holds as many as it ever did, so the room goes up to the next ten.
      simp only [List.length_append, List.length_singleton, increment]
      split <;> omega

theorem release (h : c.Sound added most) : c.release.Sound [] most :=
  of_filters rfl (Nat.le_refl 0) (Nat.zero_le most) h.capacity

theorem reuse (h : c.Sound added most) : c.reuse.Sound added most :=
  of_filters h.filters (Nat.zero_le _) h.held h.capacity

theorem setServlet (h : c.Sound added most) (servlet : Component) (async : Bool) :
    (c.setServlet servlet async).Sound added most :=
  of_filters h.filters h.position h.held h.capacity

end Sound

end Chain

/-! ### Going on -/

/-- What components may have done with their chain since: it goes on, is put back, or is emptied. -/
structure Used (s t : Container) : Prop where
  nesting : t.nesting = s.nesting
  capacity : t.chain.capacity = s.chain.capacity
  position : s.chain.position ≤ s.chain.filters.length → t.chain.position ≤ t.chain.filters.length
  filters : ∃ new, t.journal = new ++ s.journal ∧
    t.chain.filters = if new.any (·.empties s.nesting) then [] else s.chain.filters

namespace Used

variable {s t u : Container}

theorem refl (s : Container) : Used s s := ⟨rfl, rfl, id, [], rfl, rfl⟩

theorem trans (h₁ : Used s t) (h₂ : Used t u) : Used s u := by
  obtain ⟨new₁, journal₁, filters₁⟩ := h₁.filters
  obtain ⟨new₂, journal₂, filters₂⟩ := h₂.filters
  refine ⟨h₂.nesting.trans h₁.nesting, h₂.capacity.trans h₁.capacity, h₂.position ∘ h₁.position,
    new₂ ++ new₁, ?_, ?_⟩
  · rw [journal₂, journal₁, List.append_assoc]
  · rw [filters₂, filters₁, h₁.nesting, List.any_append]
    by_cases last : new₂.any (·.empties s.nesting) <;> simp [last]

theorem note (s : Container) {e : Event} (keeps : e.empties s.nesting = false) : Used s (s.note e) :=
  ⟨rfl, rfl, id, [e], rfl, by simp [Container.note, keeps]⟩

end Used

theorem Event.empties_of_deeper {n : Nat} {e : Event} (deeper : e.FromLevel (n + 1)) :
    e.empties n = false := by
  cases e with
  | emptied level =>
    have below : n + 1 ≤ level := deeper level rfl
    simp only [empties, beq_eq_false_iff_ne]
    omega
  | _ => rfl

theorem Aside.used {s t : Container} (h : Aside s t) : Used s t := by
  obtain ⟨new, journal, deeper⟩ := h.journal
  have spared : new.any (·.empties s.nesting) = false := by
    simpa using fun e member => Event.empties_of_deeper (deeper e member)
  refine ⟨h.nesting, by rw [h.chain], by rw [h.chain]; exact id, new, journal, ?_⟩
  rw [spared, h.chain]
  rfl

theorem edit_used {s t : Container} (edit : ChainAction.Edit s t) : Used s t := by
  cases edit with
  | rewind => exact ⟨rfl, rfl, fun _ => Nat.zero_le _, [_], rfl, rfl⟩
  | empty =>
    have empties : [Event.emptied s.nesting].any (·.empties s.nesting) = true := by
      simp [Event.empties]
    exact ⟨rfl, rfl, fun _ => Nat.le_refl 0, [_], rfl, (if_pos empties).symm⟩

theorem advance_used {s : Container} {f : FilterConfig}
    (next : s.chain.filters[s.chain.position]? = some f) : Used s s.advance := by
  obtain ⟨inside, -⟩ := List.getElem?_eq_some_iff.1 next
  exact ⟨rfl, rfl, fun _ => inside, [_], rfl, rfl⟩

theorem course_used : Course (fun _ => True) Used (fun _ _ => True) where
  refl := fun _ => .refl _
  trans := Used.trans
  quiet := fun _ quiet => ⟨trivial, quiet.aside.used⟩
  ready_of_rel := fun _ _ => trivial
  edit := fun _ edit => ⟨trivial, edit_used edit⟩
  advance := fun _ next => ⟨trivial, advance_used next⟩
  exhaust := fun _ _ => ⟨trivial, .note _ rfl⟩
  obtain := by
    intro s f _ _
    refine ⟨trivial, ?_, fun _ _ => trivial⟩
    rcases f.obtain_calm s with ⟨c, t, calm, given⟩ | ⟨r, t, given, calm, -⟩ <;> rw [given]
    · exact calm.aside.used.trans (.note t rfl)
    · exact calm.aside.used
  servlet := fun _ _ => trivial
  invoke := fun _ _ _ => ⟨trivial, .note _ rfl⟩

theorem callsAmid_used (outside : Outside) (levels : Nat) (call : Call) :
    (callsAmid outside levels call).Keeps (fun _ => True) Used :=
  callsAmid_keeps_aside course_used Aside.used outside levels call

theorem doFilter_used (outside : Outside) (levels : Nat) (s : Container) :
    Traversal.Keeps (fun _ => True) Used (fun _ _ => True) (callsAmid outside levels) s :=
  course_used.toWay.doFilter trivial
    (fun c _ here _ able => course_used.invoke c.1.stage here able)
    fun c _ here _ => callsAmid_used outside levels c.1 c.2 here

theorem Traversal.Amidst.used {outside : Outside} {n : Nat} {s t : Container}
    (h : Amidst outside n s t) : Used s t := by
  induction h with
  | invoked member => exact ((doFilter_used outside _ _).invocations _ member).1.2
  | calling member => exact ((doFilter_used outside _ _).inner _ member).2
  | ended => exact (doFilter_used outside _ _).ends.2
  | further made _ ih =>
    have called := ((doFilter_used outside _ _).inner _ made).2
    exact called.trans ((meanwhile_aside outside _).used.trans ih)

namespace Chain

/-- A chain is sound all the way, as one to which nothing was added after a filter emptied it. -/
theorem Sound.used {s t : Container} {added : List FilterConfig} {most : Nat}
    (h : s.chain.Sound added most) (used : Used s t) :
    ∃ new, t.journal = new ++ s.journal ∧
      t.chain.Sound (if new.any (·.empties s.nesting) then [] else added) most := by
  obtain ⟨new, journal, filters⟩ := used.filters
  refine ⟨new, journal, of_filters ?_ (used.position h.position) ?_ (used.capacity.trans h.capacity)⟩
  · rw [filters, h.filters]
    split <;> rfl
  · rw [filters]
    split
    · exact Nat.zero_le most
    · exact h.held

/-! ### Histories -/

theorem since_eq {s t : Container} {new : List Event} (journal : t.journal = new ++ s.journal) :
    s.since t = new := by
  simp [Container.since, journal]

namespace History

def Sound (h : History) : Prop := h.chain.Sound h.added h.most

variable {h : History}

theorem Sound.add (sound : h.Sound) (f : FilterConfig) : (h.add f).Sound := Chain.Sound.addFilter sound f

theorem Sound.empty (sound : h.Sound) : h.empty.Sound := Chain.Sound.release sound

theorem Sound.foldl_add (sound : h.Sound) (fs : List FilterConfig) : (fs.foldl History.add h).Sound := by
  induction fs generalizing h with
  | nil => exact sound
  | cons f rest ih => exact ih (sound.add f)

theorem Sound.after (sound : h.Sound) (d : Deed) : (h.after d).Sound := by
  cases d with
  | add f => exact sound.add f
  | configure filters servlet async =>
    exact Chain.Sound.setServlet (sound.empty.foldl_add filters) servlet async
  | setServlet servlet async => exact Chain.Sound.setServlet sound servlet async
  | fit executor tracking =>
    exact .of_filters sound.filters sound.position sound.held sound.capacity
  | populate registry wrapper box =>
    have bound : History.Sound { h.empty with
        chain := h.empty.chain.setServlet wrapper.servlet wrapper.asyncSupported } :=
      Chain.Sound.setServlet sound.empty wrapper.servlet wrapper.asyncSupported
    exact bound.foldl_add _
  | release => exact sound.empty
  | reuse => exact Chain.Sound.reuse sound
  | goOn outside levels box =>
    -- No filter is added on the way, so the chain holds no more than it did before.
    have used : Used (box.holding h.chain) (h.chain.goneOn outside levels box) :=
      (doFilter_used outside levels _).ends.2
    have start : (box.holding h.chain).chain.Sound h.added h.most := sound
    obtain ⟨new, journal, ended⟩ := start.used used
    have told : box.since (h.chain.goneOn outside levels box) = new := since_eq journal
    unfold History.Sound History.after
    simp only [told]
    rw [Nat.max_eq_left ended.held]
    exact ended

theorem of_sound (deeds : List Deed) : (of deeds).Sound :=
  List.foldlRecOn deeds after (motive := History.Sound) Chain.Sound.new fun _ sound d _ => sound.after d

end History

/-- Whatever is done with a new chain, its filters are those that were added since it was emptied last,
each declaration once and where it came first, by the owner of the chain or by a filter on the way; it
has come no further than behind the last one, and has room for the largest number of filters that it
ever held, rounded up to tens. So it is too wherever a component is called or calls, or a call is over,
while the chain goes on. -/
theorem history_sound (deeds : List Deed) :
    let h := History.of deeds
    h.chain = deeds.foldl Deed.act {} ∧ h.chain.Sound h.added h.most ∧
      ∀ (outside : Outside) (levels : Nat) (box t : Container),
        Traversal.Amidst outside levels (box.holding h.chain) t →
        ∃ new, t.journal = new ++ box.journal ∧
          t.chain.Sound (if new.any (·.empties box.nesting) then [] else h.added) h.most := by
  intro h
  have sound : (box : Container) → (box.holding h.chain).chain.Sound h.added h.most :=
    fun _ => History.of_sound deeds
  exact ⟨History.of_chain deeds, sound {}, fun outside levels box t amidst =>
    (sound box).used amidst.used⟩

/-- A filter that empties its chain and then goes on. -/
def sweeping : FilterConfig where
  serial := 5
  definition := { name := "sweeping", className := "sweeping" }
  source := .given
    { serial := 6, name := "sweeping", program := .chain .release fun _ => .proceed .finish }

/-- Eleven filters are added, and then others put in their place. -/
def sweptDeeds : List Deed :=
  (List.range 11).map (fun n => .add { curious with serial := 10 + n }) ++
    [.configure [curious, sweeping, curious] soldOut false]

/-- The chain keeps the room of the eleven, also after the second filter has emptied it. -/
theorem history_sound_swept :
    let h := History.of sweptDeeds
    let t := h.chain.goneOn (fun _ => []) 3 {}
    h.chain.filterNames = ["curious", "sweeping"] ∧ h.most = 11 ∧ h.chain.capacity = 20 ∧
      Traversal.Amidst (fun _ => []) 3 (({} : Container).holding h.chain) t ∧
      t.journal.any (·.empties 0) ∧ t.chain.filters = [] ∧ t.chain.capacity = 20 := by
  intro h t
  have most : h.most = 11 := by decide +kernel
  have swept : t.journal.any (·.empties 0) = true := by decide +kernel
  have amidst : Traversal.Amidst (fun _ => []) 3 (({} : Container).holding h.chain) t := .ended
  obtain ⟨-, sound, amid⟩ := history_sound sweptDeeds
  obtain ⟨new, journal, later⟩ := amid _ _ _ _ amidst
  obtain rfl : t.journal = new := journal.trans (List.append_nil new)
  rw [show (({} : Container).nesting) = 0 from rfl, if_pos swept] at later
  exact ⟨by decide +kernel, most, sound.capacity.trans (by rw [most]), amidst, swept, later.filters,
    later.capacity.trans (by rw [most])⟩

end Chain

end ServletFilters
