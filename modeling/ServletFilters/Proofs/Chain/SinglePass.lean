import ServletFilters.Proofs.Chain.Moves
import ServletFilters.Proofs.Container.Course

/-!
A chain without an executor passes its filters once. The calls to go on of a traversal are a tree,
`Traversal.pass`, in which the calls that a component makes are below the one that it was called by.
Each of them takes the next slot, in the order of time, and when all slots are taken the servlet,
`doFilter_single_pass`.
-/

namespace ServletFilters

/-- A call to go on. -/
structure Pass where
  /-- The component that was called for it, if there was one. -/
  made : Option Nat
  /-- The calls to go on that were made by that component. -/
  further : List Pass

namespace Pass

mutual
/-- A call and all calls within it, in the order of time. -/
def all : Pass → List (Option Nat)
  | ⟨made, further⟩ => made :: allOf further
def allOf : List Pass → List (Option Nat)
  | [] => []
  | p :: rest => p.all ++ allOf rest
end

theorem allOf_append (first second : List Pass) :
    allOf (first ++ second) = allOf first ++ allOf second := by
  induction first with
  | nil => rfl
  | cons p rest ih => rw [List.cons_append, allOf, allOf, ih, List.append_assoc]

theorem all_eq_singleton {p : Pass} {made : Option Nat} (h : p.all = [made]) :
    p.made = made ∧ p.further = [] := by
  obtain ⟨m, further⟩ := p
  rw [all] at h
  obtain ⟨rfl, nothing⟩ := List.cons_eq_cons.1 h
  cases further with
  | nil => exact ⟨rfl, rfl⟩
  | cons q rest =>
    obtain ⟨m', further'⟩ := q
    rw [allOf, all] at nothing
    cases nothing

end Pass

/-- The number of the component that a call to go on gets ready, if it does. -/
def Traversal.readied (s : Container) : Option Nat :=
  match (prepare s).1 with
  | .ok (.ok i) => some i.component.serial
  | _ => none

/-- A call to go on as a tree. A call for which there are no levels left comes to nothing. -/
def Call.pass? : Nat → Call × Container → Option Pass
  | 0, _ => none
  | n + 1, (.proceed, s) =>
    some ⟨Traversal.readied s, (Traversal.inner (nestedCalls n) s).filterMap (pass? n)⟩
  | _ + 1, (.dispatch _ _ _, _) => none
  | _ + 1, (.reload _ _, _) => none

/-- The call to go on that a state begins, with so many levels left for the calls inside it. -/
def Traversal.pass (levels : Nat) (s : Container) : Pass :=
  ⟨readied s, (inner (nestedCalls levels) s).filterMap (Call.pass? levels)⟩

/-- Since the earlier state just these calls to go on were made, from its place and in this order,
unless the chain was edited. -/
structure Passed (made : List (Option Nat)) (s t : Container) : Prop extends Further s t where
  passes : ∀ new, t.journal = new ++ s.journal → Unedited s.nesting new →
    t.chain = s.chain.moveOn made.length ∧
      moves s.nesting new = s.chain.passes s.chain.position made

namespace Passed

variable {made first second : List (Option Nat)} {s t u : Container}

theorem of_tells (nesting : t.nesting = s.nesting) (chain : t.chain = s.chain.moveOn made.length)
    (tells : Tells s.nesting (s.chain.passes s.chain.position made) s t) : Passed made s t := by
  obtain ⟨new, journal, -, told⟩ := tells
  refine ⟨⟨nesting, ⟨new, journal.symm⟩⟩, fun new' journal' _ => ?_⟩
  obtain rfl := List.append_cancel_right (journal'.symm.trans journal)
  exact ⟨chain, told⟩

theorem of_aside (h : Aside s t) (direct : s.chain.Direct) : Passed [] s t := by
  refine .of_tells h.nesting ?_ h.tells
  rw [h.chain, List.length_nil, Chain.moveOn_zero direct.2]

theorem trans (h₁ : Passed first s t) (h₂ : Passed second t u) : Passed (first ++ second) s u := by
  obtain ⟨new₁, journal₁⟩ := h₁.grows
  obtain ⟨new₂, journal₂⟩ := h₂.grows
  refine ⟨h₁.toFurther.trans h₂.toFurther, fun new grown unedited => ?_⟩
  obtain rfl : new = new₂ ++ new₁ := by
    refine List.append_cancel_right (grown.symm.trans ?_)
    rw [← journal₂, ← journal₁, List.append_assoc]
  obtain ⟨later, earlier⟩ := Unedited.append.1 unedited
  obtain ⟨chain₁, moves₁⟩ := h₁.passes new₁ journal₁.symm earlier
  obtain ⟨chain₂, moves₂⟩ := h₂.passes new₂ journal₂.symm (h₁.nesting ▸ later)
  rw [h₁.nesting] at moves₂
  refine ⟨?_, ?_⟩
  · rw [chain₂, chain₁, Chain.moveOn_moveOn, List.length_append]
  · rw [moves_append, moves₁, moves₂, chain₁, passes_append, passes_moveOn]
    exact congrArg _ (passes_min s.chain _ second)

theorem of_edit (edit : ChainAction.Edit s t) (later : Further t u) : Passed made s u := by
  have edited : ∀ {e : Event}, e.edits s.nesting = true → t.journal = e :: s.journal →
      t.nesting = s.nesting → Passed made s u := by
    intro e edits before level
    obtain ⟨new, journal⟩ := later.grows
    have whole : u.journal = (new ++ [e]) ++ s.journal := by
      rw [← journal, before, List.append_assoc, List.singleton_append]
    refine ⟨⟨later.nesting.trans level, ⟨_, whole.symm⟩⟩, fun new' journal' unedited => ?_⟩
    obtain rfl := List.append_cancel_right (journal'.symm.trans whole)
    rw [unedited e (List.mem_append_right _ (List.mem_singleton_self e))] at edits
    cases edits
  cases edit with
  | rewind => exact edited (e := .rewound s.nesting) (beq_self_eq_true _) rfl rfl
  | empty => exact edited (e := .emptied s.nesting) (beq_self_eq_true _) rfl rfl

end Passed

theorem steady_further : Steady (·.chain.Direct) Further where
  refl := fun _ => .refl _
  trans := Further.trans
  quiet := by
    intro s t direct quiet
    obtain ⟨new, journal, -⟩ := quiet.aside.journal
    exact ⟨quiet.chain ▸ direct, quiet.nesting, new, journal.symm⟩

theorem edit_further {s t : Container} (direct : s.chain.Direct) (edit : ChainAction.Edit s t) :
    t.chain.Direct ∧ Further s t := by
  cases edit with
  | rewind => exact ⟨⟨direct.1, Nat.zero_le _⟩, rfl, [_], rfl⟩
  | empty => exact ⟨⟨direct.1, Nat.zero_le _⟩, rfl, [_], rfl⟩

/-- The computation makes these passes where the chain has no executor. -/
def Run.Passes (x : Run α) (s : Container) (calls : List Pass) : Prop :=
  (x s).2.chain.Direct ∧ Passed (Pass.allOf calls) s (x s).2

theorem Run.Passes.bind {x : Run α} {f : α → Run β} {s : Container} {first : List Pass}
    {next : α → Container → List Pass} (begun : x.Passes s first)
    (rest : ∀ a t, x s = (.ok a, t) → t.chain.Direct → (f a).Passes t (next a t)) :
    (x >>= f).Passes s (first ++ x.thence next s) := by
  unfold Run.Passes at begun ⊢
  rcases ran : x s with ⟨halt | a, t⟩ <;> rw [ran] at begun
  · rw [Run.bind_of_error ran, Run.thence_of_error ran, List.append_nil]
    exact begun
  · obtain ⟨direct, passed⟩ := rest a t ran begun.1
    rw [Run.bind_of_ok ran, Run.thence_of_ok ran, Pass.allOf_append]
    exact ⟨direct, begun.2.trans passed⟩

theorem Run.Passes.onResponse {body : Run Result} {s : Container} {made : List Pass}
    (response : Response) (direct : s.chain.Direct)
    (inside : body.Passes (s.newResponse response) made) :
    (onResponse response body).Passes s made := by
  obtain ⟨after, passed⟩ := inside
  have opened := Passed.of_aside (Quiet.newResponse s response).aside direct
  have closed := Passed.of_aside
    (Quiet.response (body (s.newResponse response)).2 s.response).aside after
  have whole := (opened.trans passed).trans closed
  rw [List.nil_append, List.append_nil] at whole
  exact ⟨after, whole⟩

theorem Run.filterMap_thence (x : Run α) (next : α → Container → List β) (f : β → Option γ)
    (s : Container) : (x.thence next s).filterMap f = x.thence (fun a t => (next a t).filterMap f) s := by
  unfold Run.thence
  rcases x s with ⟨halt | a, t⟩ <;> rfl

theorem Run.Passes.of_quiet {x : Run α} {s : Container} (direct : s.chain.Direct)
    (quiet : Quiet s (x s).2) : x.Passes s [] :=
  ⟨quiet.chain ▸ direct, .of_aside quiet.aside direct⟩

/-- Some calls, and then those of the rest. -/
theorem Run.Passes.thence {sub : Call × Container → Option Pass} {x : Run α} {f : α → Run β}
    {next : α → Container → List (Call × Container)} {s : Container} (met : List (Call × Container))
    (first : x.Passes s (met.filterMap sub))
    (rest : ∀ a t, t.chain.Direct → (f a).Passes t ((next a t).filterMap sub)) :
    (x >>= f).Passes s ((met ++ x.thence next s).filterMap sub) := by
  rw [List.filterMap_append, Run.filterMap_thence]
  exact first.bind fun a t _ direct => rest a t direct

section Step

variable {calls : Calls} {sub : Call × Container → Option Pass}
  (known : ∀ call s, s.chain.Direct → (calls call).Passes s (sub (call, s)).toList)
include known

theorem known_keeps (call : Call) : (calls call).Keeps (·.chain.Direct) Further := fun s direct =>
  ⟨(known call s direct).1, (known call s direct).2.toFurther⟩

theorem called_passes (call : Call) {s : Container} (direct : s.chain.Direct) :
    (calls call).Passes s ([(call, s)].filterMap sub) := by
  have passes := known call s direct
  cases found : sub (call, s) <;> simpa [found] using passes

/-- Of a chain that was edited nothing is said, so after an edit a program makes any passes. -/
theorem edited_passes (who : Component) (program : Program) {s t : Container}
    (edit : ChainAction.Edit s t) (direct : s.chain.Direct) (made : List Pass) :
    (program.run calls who true t).2.chain.Direct ∧
      Passed (Pass.allOf made) s (program.run calls who true t).2 := by
  have later := steady_further.run edit_further (known_keeps known) who true program t
    (edit_further direct edit).1
  exact ⟨later.1, .of_edit edit later.2⟩

theorem run_passes (who : Component) (hasChain : Bool) (program : Program) : ∀ s, s.chain.Direct →
    (program.run calls who hasChain).Passes s
      ((program.made calls who hasChain s).filterMap sub) := by
  induction program with
  | finish result => exact fun s direct => .of_quiet direct (.refl s)
  | panic message => exact fun s direct => .of_quiet direct (.refl s)
  | act action next ih =>
    intro s direct
    exact .thence [] (.of_quiet direct (perform_quiet who action s)) ih
  | chain action next ih =>
    intro s direct
    cases hasChain with
    | false => exact .of_quiet direct (.refl s)
    | true =>
      cases action with
      | proceed => exact .thence [(.proceed, s)] (called_passes known .proceed direct) ih
      | observe | gauge => exact .thence [] (.of_quiet direct (.note s rfl)) ih
      | reuse => exact edited_passes known who (next ()) (.rewind s) direct _
      | release => exact edited_passes known who (next ()) (.empty s) direct _
  | dispatch dispatcher target next ih =>
    intro s direct
    unfold Run.Passes Program.run Program.made
    rw [Run.get_bind_apply]
    cases s.attachedPipeline? with
    | none => exact ih _ s direct
    | some p =>
      exact Run.Passes.thence [(.dispatch p dispatcher target, s)] (called_passes known _ direct) ih
  | withResponse response body next inside ih =>
    intro s direct
    exact .thence _ (.onResponse response direct (inside (s.newResponse response) direct))
      fun answer => ih answer.1 answer.2
  | reload config next ih =>
    intro s direct
    unfold Run.Passes Program.run Program.made
    rw [Run.get_bind_apply]
    cases s.attachedPipeline? with
    | none => exact ih _ s direct
    | some p => exact Run.Passes.thence [(.reload p config, s)] (called_passes known _ direct) ih

theorem step_passes {s : Container} (direct : s.chain.Direct) :
    (Traversal.step calls).Passes s
      [⟨Traversal.readied s, (Traversal.inner calls s).filterMap sub⟩] := by
  have still : (s.chain.moveOn 1).Direct := ⟨direct.1, Nat.min_le_left _ _⟩
  unfold Run.Passes
  rw [step_eq, Pass.allOf, Pass.allOf, Pass.all, List.append_nil]
  rcases prepare_passesNext direct with ⟨i, t, ready, level, moved, told⟩ |
    ⟨r, t, ran, unready, level, moved, told⟩
  · have direct' : (t.invoke i.stage i.component).chain.Direct := moved ▸ still
    have readied : Traversal.readied s = some i.component.serial := by
      rw [Traversal.readied, ready]
    have inner : Traversal.inner calls s = i.made calls t := by
      have alone : Traversal.actions i.stage.operation (i.run calls) t = [t] := by
        unfold Traversal.actions
        rw [show t.chain.executor = none from direct'.1]
      unfold Traversal.inner Traversal.invocations
      rw [Traversal.actions, direct.1, List.flatMap_singleton, Run.thence_of_ok ready]
      dsimp only
      rw [alone, List.map_singleton, List.flatMap_singleton]
    have first : Passed [some i.component.serial] s (t.invoke i.stage i.component) := by
      refine .of_tells level moved ?_
      rw [Chain.passes, Chain.passes, List.append_nil]
      exact told
    obtain ⟨after, passed⟩ := run_passes known i.component i.stage.hasChain
      i.component.program _ direct'
    have closed := i.close_quiet
      (i.component.program.run calls i.component i.stage.hasChain (t.invoke i.stage i.component)).2
    rw [Run.bind_of_ok ready, call_apply, privileged_direct (s := t) direct'.1, readied, inner]
    refine ⟨closed.chain ▸ after, ?_⟩
    have whole := (first.trans passed).trans (.of_aside closed.aside after)
    rw [List.append_nil] at whole
    exact whole
  · have alone : t.chain.Direct ∧ Passed [none] s t := by
      refine ⟨moved ▸ still, .of_tells level moved ?_⟩
      rw [Chain.passes, Chain.passes, List.append_nil]
      exact told
    rw [Traversal.readied, Traversal.inner, Traversal.invocations, Traversal.actions, direct.1,
      List.flatMap_singleton, ran]
    rcases r with halt | failure | i
    · rw [Run.bind_of_error ran, Run.thence_of_error ran]
      exact alone
    · rw [Run.bind_of_ok ran, Run.thence_of_ok ran]
      exact alone
    · exact absurd rfl (unready i)

end Step

/-- A call makes the pass that it is, and those within it: by induction on the levels that are
left. -/
theorem nestedCalls_passes (levels : Nat) : ∀ call s, s.chain.Direct →
    (nestedCalls levels call).Passes s (Call.pass? levels (call, s)).toList := by
  have aside : ∀ {s t : Container}, s.chain.Direct → Aside s t → t.chain.Direct ∧ Passed [] s t :=
    fun direct h => ⟨h.direct direct, .of_aside h direct⟩
  induction levels with
  | zero => exact fun _ s direct => aside direct (.refl s)
  | succ n ih =>
    intro call s direct
    cases call with
    | proceed =>
      change (Traversal.doFilter _ s).2.chain.Direct ∧ Passed _ s (Traversal.doFilter _ s).2
      rw [doFilter_direct direct.1]
      exact step_passes ih direct
    | dispatch p dispatcher target => exact aside direct (nestedCalls_aside _ (by rintro ⟨⟩) s)
    | reload p config => exact aside direct (nestedCalls_aside _ (by rintro ⟨⟩) s)

/-- A traversal makes just the calls to go on that are in its tree. -/
theorem doFilter_passed (levels : Nat) {s : Container} (direct : s.chain.Direct) :
    Passed (Traversal.pass levels s).all s (Traversal.doFilter (nestedCalls levels) s).2 := by
  obtain ⟨-, passed⟩ := step_passes (nestedCalls_passes levels) direct
  rw [← doFilter_direct direct.1, Pass.allOf, Pass.allOf, List.append_nil] at passed
  exact passed

/-- A traversal of a chain without an executor, whose filters do not edit it, is one pass. Its calls
to go on take the slots in the order of time, each once, and after the last slot the servlet; a
filter is called where its slot is taken, unless it has no instance, and nowhere else. -/
theorem doFilter_single_pass (levels : Nat) {s : Container} (direct : s.chain.executor = none)
    (start : s.chain.position = 0) {new : List Event}
    (journal : (Traversal.doFilter (nestedCalls levels) s).2.journal = new ++ s.journal)
    (unedited : Unedited s.nesting new) :
    moves s.nesting new = s.chain.passes 0 (Traversal.pass levels s).all ∧
      (moves s.nesting new).filterMap Move.slot? =
        (List.range (Traversal.pass levels s).all.length).map
          (fun i => if i < s.chain.filters.length then some i else none) ∧
      (moves s.nesting new).filterMap Move.called? =
        ((Traversal.pass levels s).all.take s.chain.filters.length).filterMap id ∧
      (moves s.nesting new).count (.advance none) =
        (Traversal.pass levels s).all.length - s.chain.filters.length ∧
      (Traversal.doFilter (nestedCalls levels) s).2.chain =
        { s.chain with
          position := min s.chain.filters.length (Traversal.pass levels s).all.length } := by
  obtain ⟨chain, told⟩ :=
    (doFilter_passed levels ⟨direct, start ▸ Nat.zero_le _⟩).passes new journal unedited
  rw [start] at told
  refine ⟨told, ?_, ?_, ?_, ?_⟩
  · rw [told, passes_slots, List.range_eq_range']
  · rw [told, passes_called, Nat.sub_zero]
  · rw [told, passes_servlet, Nat.sub_zero]
  · rw [chain, Chain.moveOn, start, Nat.zero_add]

/-- A chain of two filters: the first goes on twice, and the second cannot be made. -/
def insistentChain : Chain where
  filters := [
    { serial := 1
      definition := { name := "insists", className := "insists" }
      source := .made ⟨false, fun _ _ => .ready (.proceed fun _ => .proceed .finish)⟩ },
    { serial := 2
      definition := { name := "broken", className := "broken" }
      source := .made ⟨false, fun _ _ => .refused (.runtime "no")⟩ }]
  servlet := some { serial := 3, name := "shop", program := .done }

/-- Three calls to go on: one into the chain, and two by its first filter. -/
theorem doFilter_single_pass_insistent :
    insistentChain.executor = none ∧ insistentChain.position = 0 ∧
      Unedited 0 (Traversal.doFilter (nestedCalls 4) { nextSerial := 4, chain := insistentChain }).2.journal ∧
      (Traversal.pass 4 { nextSerial := 4, chain := insistentChain }).all = [some 4, none, some 3] ∧
      moves 0 (Traversal.doFilter (nestedCalls 4)
        { nextSerial := 4, chain := insistentChain }).2.journal =
          insistentChain.passes 0 [some 4, none, some 3] ∧
      (Traversal.doFilter (nestedCalls 4)
        { nextSerial := 4, chain := insistentChain }).2.chain.position = 2 := by
  have unedited : Unedited 0 (Traversal.doFilter (nestedCalls 4)
      { nextSerial := 4, chain := insistentChain }).2.journal := by decide
  have calls : (Traversal.pass 4 { nextSerial := 4, chain := insistentChain }).all =
      [some 4, none, some 3] := by decide +kernel
  obtain ⟨told, -, -, -, chain⟩ := doFilter_single_pass 4
    (s := { nextSerial := 4, chain := insistentChain }) rfl rfl (List.append_nil _).symm unedited
  rw [calls] at told chain
  exact ⟨rfl, rfl, unedited, calls, told, congrArg Chain.position chain⟩

end ServletFilters
