import ServletFilters.Proofs.Container.Depth

/-!
The moves of a chain, as the journal tells them. `passes` is what several calls to go on leave there
that take one slot after the other, and when all slots are taken the servlet; `prepare_passesNext`
says that a single call leaves what it should.
-/

namespace ServletFilters

/-- What a chain does, as the journal tells it. -/
inductive Move where
  /-- It goes on to the filter in this slot, or to its servlet. -/
  | advance (slot : Option Nat)
  /-- The filter of this declaration gives its instance. -/
  | supply (filter component : Nat)
  | invoke (stage : Stage) (component : Nat)
  deriving DecidableEq

/-- The move that an event tells of the chain at a level. -/
def Event.move? (level : Nat) : Event → Option Move
  | .advanced l slot => if l = level then some (.advance slot) else none
  | .supplied l filter component => if l = level then some (.supply filter component) else none
  | .invoked l stage component _ _ => if l = level then some (.invoke stage component) else none
  | _ => none

def moves (level : Nat) (events : List Event) : List Move :=
  events.reverse.filterMap (·.move? level)

/-- A filter put the chain at a level back to its first filter, or emptied it. -/
def Event.edits (level : Nat) : Event → Bool
  | .rewound l | .emptied l => l == level
  | _ => false

def Unedited (level : Nat) (events : List Event) : Prop := ∀ e ∈ events, e.edits level = false

instance (level : Nat) (events : List Event) : Decidable (Unedited level events) :=
  inferInstanceAs (Decidable (∀ e ∈ events, e.edits level = false))

/-- The moves of one call to go on from a slot. If the filter there has an instance, it is called;
behind the last slot it is the servlet that is called. -/
def Chain.pass (c : Chain) (slot : Nat) (made : Option Nat) : List Move :=
  match c.filters[slot]? with
  | some f => .advance (some slot) ::
      made.elim [] fun component => [.supply f.serial component, .invoke .filter component]
  | none => .advance none :: c.servlet.elim [] fun servlet => [.invoke .servlet servlet.serial]

/-- The moves of several calls to go on, the first of them from this slot. For each call the
instance is given that the filter in its slot has, if it has one. -/
def Chain.passes (c : Chain) : Nat → List (Option Nat) → List Move
  | _, [] => []
  | slot, made :: rest => c.pass slot made ++ c.passes (slot + 1) rest

/-- The chain after several calls to go on: no further than behind its last filter. -/
def Chain.moveOn (c : Chain) (calls : Nat) : Chain :=
  { c with position := min c.filters.length (c.position + calls) }

def Move.slot? : Move → Option (Option Nat)
  | .advance slot => some slot
  | _ => none

def Move.called? : Move → Option Nat
  | .invoke .filter component => some component
  | _ => none

/-! ### The moves of passes -/

theorem passes_append (c : Chain) (slot : Nat) (first second : List (Option Nat)) :
    c.passes slot (first ++ second) =
      c.passes slot first ++ c.passes (slot + first.length) second := by
  induction first generalizing slot with
  | nil => rfl
  | cons made rest ih =>
    rw [List.cons_append, Chain.passes, Chain.passes, ih, List.append_assoc, List.length_cons,
      Nat.add_assoc, Nat.add_comm 1]

/-- Behind the last slot it does not matter from where a call goes on. -/
theorem passes_behind (c : Chain) {i j : Nat} (hi : c.filters.length ≤ i)
    (hj : c.filters.length ≤ j) (made : List (Option Nat)) : c.passes i made = c.passes j made := by
  induction made generalizing i j with
  | nil => rfl
  | cons m rest ih =>
    have same : c.pass i m = c.pass j m := by
      rw [Chain.pass, Chain.pass, List.getElem?_eq_none hi, List.getElem?_eq_none hj]
    rw [Chain.passes, Chain.passes, same, ih (Nat.le_succ_of_le hi) (Nat.le_succ_of_le hj)]

theorem passes_min (c : Chain) (slot : Nat) (made : List (Option Nat)) :
    c.passes (min c.filters.length slot) made = c.passes slot made := by
  rcases Nat.le_total c.filters.length slot with behind | before
  · rw [Nat.min_eq_left behind]
    exact passes_behind c (Nat.le_refl _) behind made
  · rw [Nat.min_eq_right before]

theorem passes_moveOn (c : Chain) (calls slot : Nat) (made : List (Option Nat)) :
    (c.moveOn calls).passes slot made = c.passes slot made := by
  induction made generalizing slot with
  | nil => rfl
  | cons m rest ih =>
    rw [Chain.passes, Chain.passes, ih]
    rfl

theorem Chain.moveOn_zero {c : Chain} (inside : c.position ≤ c.filters.length) : c.moveOn 0 = c := by
  rw [Chain.moveOn, Nat.add_zero, Nat.min_eq_right inside]

theorem Chain.moveOn_moveOn (c : Chain) (first second : Nat) :
    (c.moveOn first).moveOn second = c.moveOn (first + second) := by
  unfold Chain.moveOn
  congr 1
  dsimp only
  omega

theorem pass_slots (c : Chain) (slot : Nat) (made : Option Nat) :
    (c.pass slot made).filterMap Move.slot? =
      [if slot < c.filters.length then some slot else none] := by
  unfold Chain.pass
  split
  · rename_i f here
    obtain ⟨inside, -⟩ := List.getElem?_eq_some_iff.1 here
    cases made <;> simp [Move.slot?, inside]
  · rename_i behind
    have outside := List.getElem?_eq_none_iff.1 behind
    cases c.servlet <;> simp [Move.slot?, Nat.not_lt.2 outside]

/-- The calls take the slots in order, and behind the last one the servlet. -/
theorem passes_slots (c : Chain) (slot : Nat) (made : List (Option Nat)) :
    (c.passes slot made).filterMap Move.slot? =
      (List.range' slot made.length).map fun i => if i < c.filters.length then some i else none := by
  induction made generalizing slot with
  | nil => rfl
  | cons m rest ih =>
    rw [Chain.passes, List.filterMap_append, pass_slots, ih, List.length_cons, List.range'_succ,
      List.map_cons, List.singleton_append]

theorem passes_called (c : Chain) (slot : Nat) (made : List (Option Nat)) :
    (c.passes slot made).filterMap Move.called? =
      (made.take (c.filters.length - slot)).filterMap id := by
  induction made generalizing slot with
  | nil => simp [Chain.passes]
  | cons m rest ih =>
    rw [Chain.passes, List.filterMap_append, ih, Chain.pass]
    split
    · rename_i f here
      obtain ⟨inside, -⟩ := List.getElem?_eq_some_iff.1 here
      rw [show c.filters.length - slot = (c.filters.length - (slot + 1)) + 1 by omega,
        List.take_succ_cons]
      cases m <;> rfl
    · rename_i behind
      have outside := List.getElem?_eq_none_iff.1 behind
      rw [Nat.sub_eq_zero_of_le outside, Nat.sub_eq_zero_of_le (Nat.le_succ_of_le outside)]
      cases c.servlet <;> simp [Move.called?]

theorem passes_servlet (c : Chain) (slot : Nat) (made : List (Option Nat)) :
    (c.passes slot made).count (.advance none) = made.length - (c.filters.length - slot) := by
  induction made generalizing slot with
  | nil => simp [Chain.passes]
  | cons m rest ih =>
    rw [Chain.passes, List.count_append, ih, List.length_cons, Chain.pass]
    split
    · rename_i f here
      obtain ⟨inside, -⟩ := List.getElem?_eq_some_iff.1 here
      cases m <;> simp <;> omega
    · rename_i behind
      have outside := List.getElem?_eq_none_iff.1 behind
      cases c.servlet <;> simp <;> omega

/-! ### Telling moves -/

theorem moves_append (level : Nat) (later earlier : List Event) :
    moves level (later ++ earlier) = moves level earlier ++ moves level later := by
  rw [moves, List.reverse_append, List.filterMap_append]
  rfl

theorem Unedited.append {level : Nat} {later earlier : List Event} :
    Unedited level (later ++ earlier) ↔ Unedited level later ∧ Unedited level earlier := by
  unfold Unedited
  rw [List.forall_mem_append]

theorem moves_of_silent {level : Nat} {events : List Event}
    (h : ∀ e ∈ events, e.move? level = none) : moves level events = [] :=
  List.filterMap_eq_nil_iff.2 fun e he => h e (List.mem_reverse.1 he)

/-- Since the earlier state the chain at a level made these moves, and was not edited. -/
def Tells (level : Nat) (told : List Move) (s t : Container) : Prop :=
  ∃ new, t.journal = new ++ s.journal ∧ Unedited level new ∧ moves level new = told

theorem Tells.trans {level : Nat} {first second : List Move} {s t u : Container}
    (h₁ : Tells level first s t) (h₂ : Tells level second t u) :
    Tells level (first ++ second) s u := by
  obtain ⟨new₁, journal₁, unedited₁, rfl⟩ := h₁
  obtain ⟨new₂, journal₂, unedited₂, rfl⟩ := h₂
  exact ⟨new₂ ++ new₁, by rw [journal₂, journal₁, List.append_assoc],
    Unedited.append.2 ⟨unedited₂, unedited₁⟩, moves_append level new₂ new₁⟩

theorem Tells.note {level : Nat} {m : Move} (s : Container) {e : Event}
    (h : e.move? level = some m) : Tells level [m] s (s.note e) := by
  refine ⟨[e], rfl, ?_, ?_⟩
  · intro e' he
    obtain rfl := List.mem_singleton.1 he
    cases e' <;> first | rfl | cases h
  · simp [moves, h]

theorem Aside.tells {s t : Container} (h : Aside s t) : Tells s.nesting [] s t := by
  obtain ⟨new, journal, deep⟩ := h.journal
  refine ⟨new, journal, ?_, moves_of_silent ?_⟩
  · intro e he
    have deep := deep e he
    cases e <;> first | rfl | exact beq_false_of_ne fun same => absurd (deep _ rfl) (by omega)
  · intro e he
    have deep := deep e he
    cases e <;> simp only [Event.move?] <;>
      exact if_neg fun same => absurd (deep _ rfl) (by omega)

/-! ### One call to go on -/

/-- The chain has no executor, and its place is one of its slots or behind them. -/
def Chain.Direct (c : Chain) : Prop := c.executor = none ∧ c.position ≤ c.filters.length

theorem Aside.direct {s t : Container} (h : Aside s t) (direct : s.chain.Direct) : t.chain.Direct :=
  h.chain ▸ direct

/-- A component is got ready and called, which is what a pass of the next slot tells; or none is got
ready, and the pass is a short one. -/
def Container.PassesNext (s : Container) : Prop :=
  (∃ i t, Traversal.prepare s = (.ok (.ok i), t) ∧ t.nesting = s.nesting ∧
      t.chain = s.chain.moveOn 1 ∧ Tells s.nesting
        (s.chain.pass s.chain.position (some i.component.serial)) s
        (t.invoke i.stage i.component)) ∨
    ∃ r t, Traversal.prepare s = (r, t) ∧ (∀ i, r ≠ .ok (.ok i)) ∧ t.nesting = s.nesting ∧
      t.chain = s.chain.moveOn 1 ∧ Tells s.nesting (s.chain.pass s.chain.position none) s t

theorem invoke_tells {level : Nat} {t : Container} (stage : Stage) (c : Component)
    (here : t.nesting = level) : Tells level [.invoke stage c.serial] t (t.invoke stage c) :=
  .note _ (by rw [here]; exact if_pos rfl)

theorem filter_passesNext {s : Container} {f : FilterConfig}
    (next : s.chain.filters[s.chain.position]? = some f) : s.PassesNext := by
  obtain ⟨inside, -⟩ := List.getElem?_eq_some_iff.1 next
  have moved : s.advance.chain = s.chain.moveOn 1 := by
    rw [Chain.moveOn, Nat.min_eq_right inside]
    rfl
  have told : Tells s.nesting [.advance (some s.chain.position)] s s.advance :=
    Tells.note s (e := .advanced s.nesting (some s.chain.position)) (if_pos rfl)
  unfold Container.PassesNext
  rw [prepare_filter next]
  rcases f.obtain_calm s.advance with ⟨c, t, calm, given⟩ | ⟨r, t, given, calm, failed⟩
  · have supplied : Tells s.nesting [.supply f.serial c.serial] t
        (t.note (.supplied s.advance.nesting f.serial c.serial)) := .note t (if_pos rfl)
    have level : t.nesting = s.nesting := calm.nesting
    obtain ⟨u, quiet, ready⟩ := prepareFilter_ok given
    refine .inl ⟨_, u, ready, quiet.nesting.trans level, quiet.chain.trans (calm.chain.trans moved), ?_⟩
    have before := (told.trans calm.aside.tells).trans supplied
    have here := quiet.aside.tells
    rw [show (t.note (.supplied s.advance.nesting f.serial c.serial)).nesting = s.nesting
      from level] at here
    have called := (before.trans here).trans (invoke_tells .filter c (quiet.nesting.trans level))
    rw [Chain.pass, next]
    exact called
  · have short : Tells s.nesting (s.chain.pass s.chain.position none) s t := by
      rw [Chain.pass, next]
      exact told.trans calm.aside.tells
    have unready : ∃ out, Traversal.prepareFilter f s.advance = (out, t) ∧ ∀ i, out ≠ .ok (.ok i) := by
      rcases r with halt | failure | c
      · exact ⟨_, Run.bind_of_error given, by rintro i ⟨⟩⟩
      · exact ⟨_, Run.bind_of_ok given, by rintro i ⟨⟩⟩
      · exact absurd rfl (failed c)
    obtain ⟨out, ran, none⟩ := unready
    exact .inr ⟨out, t, ran, none, calm.nesting, calm.chain.trans moved, short⟩

theorem servlet_passesNext {s : Container} (direct : s.chain.Direct)
    (next : s.chain.filters[s.chain.position]? = none) : s.PassesNext := by
  have behind := List.getElem?_eq_none_iff.1 next
  have stays : s.chain = s.chain.moveOn 1 := by
    have place := direct.2
    rw [Chain.moveOn, show min s.chain.filters.length (s.chain.position + 1) = s.chain.position by
      omega]
  have told : Tells s.nesting [.advance none] s (s.note (.advanced s.nesting none)) :=
    .note s (if_pos rfl)
  unfold Container.PassesNext
  rw [prepare_servlet next]
  rcases prepareServlet_cases (s.note (.advanced s.nesting none)) with
    ⟨found, ran⟩ | ⟨c, t, found, quiet, ran⟩
  · refine .inr ⟨_, _, ran, by rintro i ⟨⟩, rfl, stays, ?_⟩
    rw [Chain.pass, next, show s.chain.servlet = none from found]
    exact told
  · refine .inl ⟨_, t, ran, quiet.nesting, quiet.chain.trans stays, ?_⟩
    rw [Chain.pass, next, show s.chain.servlet = some c from found]
    exact (told.trans quiet.aside.tells).trans (invoke_tells .servlet c quiet.nesting)

theorem prepare_passesNext {s : Container} (direct : s.chain.Direct) : s.PassesNext := by
  cases next : s.chain.filters[s.chain.position]? with
  | some f => exact filter_passesNext next
  | none => exact servlet_passesNext direct next

/-- A call that is none to go on is aside of the chain. -/
theorem nestedCalls_aside (levels : Nat) {call : Call} (other : call ≠ .proceed) (s : Container) :
    Aside s (nestedCalls levels call s).2 := by
  cases levels with
  | zero => exact .refl s
  | succ n =>
    cases call with
    | proceed => exact absurd rfl other
    | dispatch p dispatcher target =>
      refine dispatch_aside ?_ p dispatcher target s
      rw [← callsAmid_nothing]
      exact callsAmid_deeper _ n
    | reload p config =>
      change Aside s ((Pipeline.reload p config >>= fun r => pure _) s).2
      rw [Run.bind_pure_snd]
      exact reload_aside p config s

end ServletFilters
