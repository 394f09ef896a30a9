import ServletFilters.Proofs.Chain.Room
import ServletFilters.Proofs.Container.Depth

/-!
Chains that are used again. Unless a filter empties it, a traversal moves a chain and changes nothing
else of it, so a chain that is put back to its first filter goes on as a new one would that was
configured alike, `doFilter_reuse`.
-/

namespace ServletFilters

/-- A filter emptied the chain at a level. -/
def Event.empties (level : Nat) : Event → Bool
  | .emptied l => l == level
  | _ => false

def Unreleased (level : Nat) (events : List Event) : Prop := ∀ e ∈ events, e.empties level = false

instance (level : Nat) (events : List Event) : Decidable (Unreleased level events) :=
  inferInstanceAs (Decidable (∀ e ∈ events, e.empties level = false))

/-! ### Places -/

/-- Since the earlier state the chain was emptied, or only its place may be another one. -/
structure Placed (s t : Container) : Prop where
  nesting : t.nesting = s.nesting
  chain : ∃ new, t.journal = new ++ s.journal ∧
    (Unreleased s.nesting new → ∃ position, t.chain = { s.chain with position })

namespace Placed

variable {s t u : Container}

theorem refl (s : Container) : Placed s s := ⟨rfl, [], rfl, fun _ => ⟨s.chain.position, rfl⟩⟩

theorem trans (h₁ : Placed s t) (h₂ : Placed t u) : Placed s u := by
  obtain ⟨new₁, journal₁, chain₁⟩ := h₁.chain
  obtain ⟨new₂, journal₂, chain₂⟩ := h₂.chain
  refine ⟨h₂.nesting.trans h₁.nesting, new₂ ++ new₁, ?_, fun unreleased => ?_⟩
  · rw [journal₂, journal₁, List.append_assoc]
  · obtain ⟨later, earlier⟩ := List.forall_mem_append.1 unreleased
    obtain ⟨i, moved⟩ := chain₁ earlier
    obtain ⟨j, moved'⟩ := chain₂ (h₁.nesting ▸ later)
    exact ⟨j, by rw [moved', moved]⟩

theorem note (s : Container) (e : Event) : Placed s (s.note e) :=
  ⟨rfl, [e], rfl, fun _ => ⟨s.chain.position, rfl⟩⟩

end Placed

theorem Aside.placed {s t : Container} (h : Aside s t) : Placed s t := by
  obtain ⟨new, journal, -⟩ := h.journal
  exact ⟨h.nesting, new, journal, fun _ => ⟨s.chain.position, h.chain⟩⟩

theorem edit_placed {s t : Container} (edit : ChainAction.Edit s t) : Placed s t := by
  cases edit with
  | rewind => exact ⟨rfl, [_], rfl, fun _ => ⟨0, rfl⟩⟩
  | empty =>
    refine ⟨rfl, [.emptied s.nesting], rfl, fun unreleased => ?_⟩
    have empties := unreleased _ (List.mem_singleton_self _)
    exact absurd ((beq_self_eq_true s.nesting).symm.trans empties) (by decide)

theorem course_placed : Course (fun _ => True) Placed (fun _ _ => True) where
  refl := fun _ => .refl _
  trans := Placed.trans
  quiet := fun _ quiet => ⟨trivial, quiet.aside.placed⟩
  ready_of_rel := fun _ _ => trivial
  edit := fun _ edit => ⟨trivial, edit_placed edit⟩
  advance := fun _ _ => ⟨trivial, rfl, [_], rfl, fun _ => ⟨_, rfl⟩⟩
  exhaust := fun _ _ => ⟨trivial, .note _ _⟩
  obtain := by
    intro s f _ _
    refine ⟨trivial, ?_, fun _ _ => trivial⟩
    rcases f.obtain_calm s with ⟨c, t, calm, given⟩ | ⟨r, t, given, calm, -⟩ <;> rw [given]
    · exact calm.aside.placed.trans (.note t _)
    · exact calm.aside.placed
  servlet := fun _ _ => trivial
  invoke := fun _ _ _ => ⟨trivial, .note _ _⟩

/-- Whatever a component calls, nothing of the chain is changed but its place, unless the chain is
emptied. -/
theorem nestedCalls_placed (levels : Nat) :
    ∀ call, (nestedCalls levels call).Keeps (fun _ => True) Placed := by
  rw [← callsAmid_nothing]
  exact callsAmid_keeps_aside course_placed Aside.placed (fun _ => []) levels

/-! ### New chains -/

/-- A new chain that runs its components and keeps record of the exchange as this one does. -/
def Chain.anew (c : Chain) : Chain := { executor := c.executor, tracking := c.tracking }

/-- A chain that is configured is as a new one, but for its room. -/
theorem configure_anew (c : Chain) (filters : List FilterConfig) (servlet : Component) (async : Bool) :
    ∃ capacity, c.configure filters servlet async =
      { c.anew.configure filters servlet async with capacity } := by
  obtain ⟨n, room⟩ := foldl_addFilter_room filters c.anew.release c.capacity
  exact ⟨n, congrArg (·.setServlet servlet async) room⟩

theorem configure_position (c : Chain) (filters : List FilterConfig) (servlet : Component)
    (async : Bool) : (c.configure filters servlet async).position = 0 := by
  obtain ⟨_, _, frame⟩ := foldl_addFilter_frame filters c.release
  exact congrArg Chain.position frame

/-! ### Reuse -/

/-- A traversal of a chain that was configured, wherever it goes on from and however it ends, changes
nothing of the chain but its place, unless a filter empties the chain. So after it is put back to its
first filter, going on with it in any state, whatever the request and the response and whichever
filters are made, comes to the same as going on with a new chain that is configured alike, as long as
none of its filters asks for its room where the new chain has another one. -/
theorem doFilter_reuse {base : Chain} {filters : List FilterConfig} {servlet : Component}
    {async : Bool} {place levels : Nat} {s : Container}
    (configured : s.chain = { base.configure filters servlet async with position := place })
    {new : List Event}
    (journal : (Traversal.doFilter (nestedCalls levels) s).2.journal = new ++ s.journal)
    (unreleased : Unreleased s.nesting new) :
    (∃ position, (Traversal.doFilter (nestedCalls levels) s).2.chain = { s.chain with position }) ∧
      ∀ (t : Container) (levels' : Nat),
        t.chain = (Traversal.doFilter (nestedCalls levels) s).2.chain.reuse →
        (t.chain.capacity ≠ (base.anew.configure filters servlet async).capacity →
          Ungauging t (Traversal.doFilter (nestedCalls levels') t).2) →
        Agree (Traversal.doFilter (nestedCalls levels') t)
          (Traversal.doFilter (nestedCalls levels')
            { t with chain := base.anew.configure filters servlet async }) := by
  obtain ⟨new', journal', moves⟩ :=
    (course_placed.doFilter (nestedCalls_placed levels) s trivial).2.chain
  obtain rfl := List.append_cancel_right (journal.symm.trans journal')
  obtain ⟨position, moved⟩ := moves unreleased
  refine ⟨⟨position, moved⟩, fun t levels' rewound unasked => ?_⟩
  obtain ⟨n, room⟩ := configure_anew base filters servlet async
  have start : t.chain = { base.anew.configure filters servlet async with capacity := n } := by
    rw [rewound, moved, configured, ← room]
    change { base.configure filters servlet async with position := 0 } = _
    rw [← configure_position base filters servlet async]
  have upToRoom : UpToRoom t { t with chain := base.anew.configure filters servlet async } := by
    refine ⟨(base.anew.configure filters servlet async).capacity, t.journal, ?_, rfl⟩
    rw [Container.refit, start]
  let free := decide (t.chain.capacity ≠ (base.anew.configure filters servlet async).capacity)
  have alike : RoomAlike free t { t with chain := base.anew.configure filters servlet async } :=
    ⟨upToRoom, fun tight => (Decidable.not_not.1 (of_decide_eq_false tight)).symm⟩
  obtain ⟨ends, after⟩ := (Traversal.doFilter_blind (nestedCalls_blind levels')).agree alike
    fun differs => unasked (of_decide_eq_true differs)
  exact ⟨ends, after.upToRoom⟩

/-- A filter that is ready, looks at its chain, goes on and then puts the chain back. -/
def curious : FilterConfig where
  serial := 1
  definition := { name := "curious", className := "curious" }
  source := .given
    { serial := 2
      name := "curious"
      program := .chain .observe fun _ => .proceed fun result => .chain .reuse fun _ => .finish result }

/-- A filter that is made when it is needed. -/
def prompt : FilterConfig where
  serial := 3
  definition := { name := "prompt", className := "prompt", asyncSupport := .unsupported }
  source := .made ⟨true, fun _ _ => .ready (.proceed .finish)⟩

/-- A chain that has room already, and was used before. -/
def wornChain : Chain := { position := 5, executor := some .trace, tracking := true, capacity := 1 }

def soldOut : Component where
  serial := 4
  name := "shop"
  program := .fail (.runtime "sold out")

/-- The filters and the servlet in a used chain, before a request that may be suspended. -/
def wornStart : Container where
  nextSerial := 5
  request := { asyncSupported := true }
  chain := wornChain.configure [curious, prompt, curious] soldOut false

/-- The chain is put back to its first filter, before another request. -/
def wornAgain : Container :=
  { (Traversal.doFilter (nestedCalls 4) wornStart).2.updateChain Chain.reuse with
    request := { path := "/again" }
    journal := [] }

/-- The used chain has more room than the new one, and no filter asks for it. -/
theorem doFilter_reuse_worn :
    wornStart.chain =
        { wornChain.configure [curious, prompt, curious] soldOut false with position := 0 } ∧
      Unreleased 0 (Traversal.doFilter (nestedCalls 4) wornStart).2.journal ∧
      wornAgain.chain.capacity ≠
        (wornChain.anew.configure [curious, prompt, curious] soldOut false).capacity ∧
      Ungauging wornAgain (Traversal.doFilter (nestedCalls 4) wornAgain).2 ∧
      (∃ position, (Traversal.doFilter (nestedCalls 4) wornStart).2.chain =
        { wornStart.chain with position }) ∧
      Agree (Traversal.doFilter (nestedCalls 4) wornAgain) (Traversal.doFilter (nestedCalls 4)
        { wornAgain with
          chain := wornChain.anew.configure [curious, prompt, curious] soldOut false }) := by
  have configured : wornStart.chain =
      { wornChain.configure [curious, prompt, curious] soldOut false with position := 0 } := rfl
  have unreleased : Unreleased 0 (Traversal.doFilter (nestedCalls 4) wornStart).2.journal := by
    decide +kernel
  have journal : (Traversal.doFilter (nestedCalls 4) wornStart).2.journal =
      (Traversal.doFilter (nestedCalls 4) wornStart).2.journal ++ wornStart.journal :=
    (List.append_nil _).symm
  have unasked : Ungauging wornAgain (Traversal.doFilter (nestedCalls 4) wornAgain).2 :=
    .of_ungauged (by decide +kernel)
  obtain ⟨moved, alike⟩ := doFilter_reuse configured journal unreleased
  exact ⟨configured, unreleased, by decide +kernel, unasked, moved,
    alike wornAgain 4 rfl fun _ => unasked⟩

end ServletFilters
