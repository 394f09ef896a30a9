import ServletFilters.Proofs.Container.Nesting

/-!
The course of a traversal as a sequence of changes. What every change keeps, and what calls keep,
is kept by a traversal, `Course.doFilter`, and so by calls of every depth, `callsAmid_keeps`.
-/

namespace ServletFilters

/-- Wherever the invariant holds, the computation keeps it and relates the states around it,
however it ends. -/
def Run.Keeps (inv : Container → Prop) (rel : Container → Container → Prop) (x : Run α) : Prop :=
  ∀ s, inv s → inv (x s).2 ∧ rel s (x s).2

/-- A filter puts its chain back to the first filter, or empties it. -/
inductive ChainAction.Edit : Container → Container → Prop where
  | rewind (s : Container) : Edit s ((s.note (.rewound s.nesting)).updateChain Chain.reuse)
  | empty (s : Container) : Edit s ((s.note (.emptied s.nesting)).updateChain Chain.release)

/-- An invariant and a relation that quiet changes keep and that add up along a computation. -/
structure Steady (inv : Container → Prop) (rel : Container → Container → Prop) : Prop where
  refl : ∀ {s}, inv s → rel s s
  trans : ∀ {s t u}, rel s t → rel t u → rel s u
  quiet : ∀ {s t}, inv s → Quiet s t → inv t ∧ rel s t

/-- The invariant holds where a computation ends and where something was met on the way, and these
states are related to the first one. -/
structure Along (inv : Container → Prop) (rel : Container → Container → Prop)
    (place : γ → Container) (met : List γ) (s t : Container) : Prop where
  ends : inv t ∧ rel s t
  met : ∀ x ∈ met, inv (place x) ∧ rel s (place x)

theorem Along.nil {inv : Container → Prop} {rel : Container → Container → Prop}
    {place : γ → Container} {s t : Container} (h : inv t ∧ rel s t) :
    Along inv rel place [] s t := ⟨h, by rintro x ⟨⟩⟩

namespace Steady

variable {inv : Container → Prop} {rel : Container → Container → Prop} (steady : Steady inv rel)
include steady

theorem same {s : Container} (h : inv s) : inv s ∧ rel s s := ⟨h, steady.refl h⟩

theorem andThen {s t u : Container} (first : inv t ∧ rel s t) (second : inv t → inv u ∧ rel t u) :
    inv u ∧ rel s u :=
  ⟨(second first.1).1, steady.trans first.2 (second first.1).2⟩

theorem bind {x : Run α} {f : α → Run β} {s : Container} (first : inv (x s).2 ∧ rel s (x s).2)
    (second : ∀ a t, x s = (.ok a, t) → inv t → rel s t → inv (f a t).2 ∧ rel t (f a t).2) :
    inv ((x >>= f) s).2 ∧ rel s ((x >>= f) s).2 := by
  rcases run : x s with ⟨halt | a, t⟩
  · rw [Run.bind_of_error run]
    rwa [run] at first
  · rw [Run.bind_of_ok run]
    rw [run] at first
    exact steady.andThen first fun h => second a t run h first.2

theorem keeps_bind {x : Run α} {f : α → Run β} (first : x.Keeps inv rel)
    (second : ∀ a, (f a).Keeps inv rel) : (x >>= f).Keeps inv rel :=
  fun s h => steady.bind (first s h) fun a t _ h _ => second a t h

theorem keeps_quiet {x : Run α} (h : ∀ s, Quiet s (x s).2) : x.Keeps inv rel :=
  fun s hs => steady.quiet hs (h s)

theorem keeps_pure (a : α) : (pure a : Run α).Keeps inv rel := fun _ h => steady.same h

theorem keeps_halt (halt : Halt) : (Run.halt halt : Run α).Keeps inv rel :=
  fun _ h => steady.same h

theorem keeps_record {e : Event} (plain : e.isPlain = true) : (record e).Keeps inv rel :=
  steady.keeps_quiet fun s => .note s plain

/-- What is met along a computation that goes on from another one is kept, as far as both keep what
they meet. -/
theorem along_bind {place : γ → Container} {kept : γ → Prop} (met : List γ) {x : Run α}
    {f : α → Run β} {next : α → Container → List γ} {s : Container}
    (keeps : ∀ c ∈ met ++ x.thence next s, inv (place c) → rel s (place c) → kept c)
    (first : Along inv rel place met s (x s).2)
    (second : ∀ a t, inv t → (∀ c ∈ next a t, inv (place c) → rel t (place c) → kept c) →
      Along inv rel place (next a t) t (f a t).2) :
    Along inv rel place (met ++ x.thence next s) s ((x >>= f) s).2 := by
  rcases run : x s with ⟨halt | a, t⟩ <;> rw [run] at first
  · rw [Run.bind_of_error run, Run.thence_of_error run, List.append_nil]
    exact first
  · rw [Run.thence_of_ok run] at keeps
    rw [Run.bind_of_ok run, Run.thence_of_ok run]
    have rest := second a t first.ends.1 fun c member there path =>
      keeps c (List.mem_append_right _ member) there (steady.trans first.ends.2 path)
    refine ⟨steady.andThen first.ends fun _ => rest.ends, fun y member => ?_⟩
    rcases List.mem_append.1 member with before | after
    · exact first.met y before
    · exact steady.andThen first.ends fun _ => rest.met y after

theorem along_once {place : γ → Container} {x : γ} {t : Container} (h : inv (place x))
    (ends : inv t ∧ rel (place x) t) : Along inv rel place [x] (place x) t := by
  refine ⟨ends, fun y member => ?_⟩
  obtain rfl := List.mem_singleton.1 member
  exact steady.same h

theorem carryOut (operation : Operation) (principal : Option String) {step : Run Result}
    (plan : Plan) : ∀ s, inv s →
      (∀ t ∈ plan.runs operation principal step s, inv t → rel s t →
        inv (step t).2 ∧ rel t (step t).2) →
      Along inv rel id (plan.runs operation principal step s) s
        (plan.carryOut operation principal step s).2 := by
  induction plan with
  | finish result => exact fun s h _ => Along.nil (steady.same h)
  | panic message => exact fun s h _ => Along.nil (steady.same h)
  | report next ih =>
    intro s h kept
    have told := steady.keeps_record (e := .executed operation principal) rfl s h
    have rest := ih _ told.1 fun t member here path =>
      kept t member here (steady.trans told.2 path)
    exact ⟨steady.andThen told fun _ => rest.ends, fun t member =>
      steady.andThen told fun _ => rest.met t member⟩
  | run next ih =>
    intro s h kept
    have once : Along inv rel id [s] s (step s).2 :=
      steady.along_once h (kept s (List.mem_cons_self ..) h (steady.refl h))
    exact steady.along_bind [s] kept once ih

theorem privileged {operation : Operation} {step : Run Result} {s : Container} (h : inv s)
    (kept : ∀ t ∈ Traversal.actions operation step s, inv t → rel s t →
      inv (step t).2 ∧ rel t (step t).2) :
    Along inv rel id (Traversal.actions operation step s) s
      (Traversal.privileged operation step s).2 := by
  unfold Traversal.privileged
  unfold Traversal.actions at kept ⊢
  rw [Run.get_bind_apply]
  cases executor : s.chain.executor with
  | none =>
    rw [executor] at kept
    exact steady.along_once h (kept s (List.mem_singleton_self s) h (steady.refl h))
  | some executor =>
    rw [executor] at kept
    exact steady.carryOut _ _ _ s h kept

/-- A program keeps what its edits of the chain keep and what its calls keep where it makes them, by
induction on the program. -/
theorem made {calls : Calls} (edit : ∀ {s t}, inv s → ChainAction.Edit s t → inv t ∧ rel s t)
    (who : Component) (hasChain : Bool) (program : Program) : ∀ s, inv s →
      (∀ c ∈ program.made calls who hasChain s, inv c.2 → rel s c.2 →
        inv (calls c.1 c.2).2 ∧ rel c.2 (calls c.1 c.2).2) →
      Along inv rel Prod.snd (program.made calls who hasChain s) s
        (program.run calls who hasChain s).2 := by
  have once : ∀ {call : Call} {rest : List (Call × Container)} {s : Container}, inv s →
      (∀ c ∈ (call, s) :: rest, inv c.2 → rel s c.2 →
        inv (calls c.1 c.2).2 ∧ rel c.2 (calls c.1 c.2).2) →
      Along inv rel Prod.snd [(call, s)] s (calls call s).2 := by
    intro call rest s h kept
    exact steady.along_once (x := (call, s)) h (kept _ (List.mem_cons_self ..) h (steady.refl h))
  induction program with
  | finish result => exact fun s h _ => Along.nil (steady.same h)
  | panic message => exact fun s h _ => Along.nil (steady.same h)
  | act action next ih =>
    intro s h kept
    exact steady.along_bind [] kept (Along.nil (steady.quiet h (perform_quiet who action s))) ih
  | chain action next ih =>
    intro s h kept
    cases hasChain with
    | false => exact Along.nil (steady.same h)
    | true =>
      cases action with
      | proceed => exact steady.along_bind _ kept (once h kept) ih
      | reuse => exact steady.along_bind [] kept (Along.nil (edit h (.rewind s))) ih
      | release => exact steady.along_bind [] kept (Along.nil (edit h (.empty s))) ih
      | observe => exact steady.along_bind [] kept (Along.nil (steady.quiet h (.note s rfl))) ih
      | gauge => exact steady.along_bind [] kept (Along.nil (steady.quiet h (.note s rfl))) ih
  | dispatch dispatcher target next ih =>
    intro s
    unfold Program.run Program.made
    rw [Run.get_bind_apply]
    cases s.attachedPipeline? with
    | none => exact ih _ s
    | some p => exact fun h kept => steady.along_bind _ kept (once h kept) ih
  | withResponse response body next inside ih =>
    intro s h kept
    refine steady.along_bind _ kept ?_ fun answer => ih answer.1 answer.2
    have opened := steady.quiet h (.newResponse s response)
    have along := inside _ opened.1 fun c member here path =>
      kept c (List.mem_append_left _ member) here (steady.trans opened.2 path)
    refine ⟨steady.andThen opened fun _ => ?_, fun c member =>
      steady.andThen opened fun _ => along.met c member⟩
    exact steady.andThen along.ends fun here => steady.quiet here (.response _ s.response)
  | reload config next ih =>
    intro s
    unfold Program.run Program.made
    rw [Run.get_bind_apply]
    cases s.attachedPipeline? with
    | none => exact ih _ s
    | some p => exact fun h kept => steady.along_bind _ kept (once h kept) ih

theorem run {calls : Calls} (edit : ∀ {s t}, inv s → ChainAction.Edit s t → inv t ∧ rel s t)
    (kept : ∀ call, (calls call).Keeps inv rel) (who : Component) (hasChain : Bool)
    (program : Program) : (program.run calls who hasChain).Keeps inv rel := fun s h =>
  (steady.made edit who hasChain program s h fun c _ here _ => kept c.1 c.2 here).ends

end Steady

/-- An invariant and a relation that all of a traversal keeps but the calls of components, and the
components that it may call at the time. -/
structure Way (inv : Container → Prop) (rel : Container → Container → Prop)
    (ready : Component → Container → Prop) : Prop extends Steady inv rel where
  ready_of_rel : ∀ {c s t}, rel s t → ready c s → ready c t
  edit : ∀ {s t}, inv s → ChainAction.Edit s t → inv t ∧ rel s t
  advance : ∀ {s f}, inv s → s.chain.filters[s.chain.position]? = some f →
    inv s.advance ∧ rel s s.advance
  exhaust : ∀ {s}, inv s → s.chain.filters[s.chain.position]? = none →
    inv (s.note (.advanced s.nesting none)) ∧ rel s (s.note (.advanced s.nesting none))
  obtain : ∀ {s f}, inv s → f ∈ s.chain.filters → inv (f.obtain s).2 ∧ rel s (f.obtain s).2 ∧
    ∀ c, (f.obtain s).1 = .ok (.ok c) → ready c (f.obtain s).2
  servlet : ∀ {s c}, inv s → s.chain.servlet = some c → ready c s

/-- What holds all along a call to go on. -/
structure Traversal.Keeps (inv : Container → Prop) (rel : Container → Container → Prop)
    (ready : Component → Container → Prop) (calls : Calls) (s : Container) : Prop where
  ends : inv (Traversal.doFilter calls s).2 ∧ rel s (Traversal.doFilter calls s).2
  steps : ∀ t ∈ Traversal.actions .doFilter (Traversal.step calls) s, inv t ∧ rel s t
  invocations : ∀ c ∈ Traversal.invocations calls s, (inv c.2 ∧ rel s c.2) ∧ ready c.1.component c.2
  inner : ∀ c ∈ Traversal.inner calls s, inv c.2 ∧ rel s c.2

namespace Way

variable {inv : Container → Prop} {rel : Container → Container → Prop}
  {ready : Component → Container → Prop} (way : Way inv rel ready)
include way

theorem prepareFilter {f : FilterConfig} {s : Container} (h : inv s)
    (member : f ∈ s.chain.filters) :
    (inv (Traversal.prepareFilter f s).2 ∧ rel s (Traversal.prepareFilter f s).2) ∧
      ∀ i, (Traversal.prepareFilter f s).1 = .ok (.ok i) →
        ready i.component (Traversal.prepareFilter f s).2 := by
  obtain ⟨here, path, able⟩ := way.obtain h member
  rcases given : f.obtain s with ⟨halt | failure | c, t⟩ <;> rw [given] at here path able
  · rw [Traversal.prepareFilter, Run.bind_of_error given]
    exact ⟨⟨here, path⟩, by rintro i ⟨⟩⟩
  · rw [Traversal.prepareFilter, Run.bind_of_ok given]
    exact ⟨⟨here, path⟩, by rintro i ⟨⟩⟩
  · obtain ⟨u, quiet, ran⟩ := prepareFilter_ok given
    rw [ran]
    have later := way.quiet here quiet
    refine ⟨⟨later.1, way.trans path later.2⟩, ?_⟩
    rintro i ⟨⟩
    exact way.ready_of_rel later.2 (able c rfl)

theorem prepareServlet {s : Container} (h : inv s) :
    (inv (Traversal.prepareServlet s).2 ∧ rel s (Traversal.prepareServlet s).2) ∧
      ∀ i, (Traversal.prepareServlet s).1 = .ok (.ok i) →
        ready i.component (Traversal.prepareServlet s).2 := by
  rcases prepareServlet_cases s with ⟨-, ran⟩ | ⟨c, t, found, quiet, ran⟩ <;> rw [ran]
  · exact ⟨way.same h, by rintro i ⟨⟩⟩
  · have later := way.quiet h quiet
    refine ⟨later, ?_⟩
    rintro i ⟨⟩
    exact way.ready_of_rel later.2 (way.servlet h found)

theorem prepare {s : Container} (h : inv s) :
    (inv (Traversal.prepare s).2 ∧ rel s (Traversal.prepare s).2) ∧
      ∀ i, (Traversal.prepare s).1 = .ok (.ok i) → ready i.component (Traversal.prepare s).2 := by
  cases next : s.chain.filters[s.chain.position]? with
  | some f =>
    rw [prepare_filter next]
    have first := way.advance h next
    obtain ⟨rest, able⟩ := way.prepareFilter first.1 (List.mem_of_getElem? next)
    exact ⟨way.andThen first fun _ => rest, able⟩
  | none =>
    rw [prepare_servlet next]
    have first := way.exhaust h next
    obtain ⟨rest, able⟩ := way.prepareServlet first.1
    exact ⟨way.andThen first fun _ => rest, able⟩

theorem call {calls : Calls} {i : Invocation} {s : Container} (h : inv s)
    (invoke : ∀ t ∈ Traversal.actions i.stage.operation (i.run calls) s, inv t → rel s t →
      inv (t.invoke i.stage i.component) ∧ rel t (t.invoke i.stage i.component))
    (kept : ∀ t ∈ Traversal.actions i.stage.operation (i.run calls) s, ∀ c ∈ i.made calls t,
      inv c.2 → rel s c.2 → inv (calls c.1 c.2).2 ∧ rel c.2 (calls c.1 c.2).2) :
    Along inv rel id (Traversal.actions i.stage.operation (i.run calls) s) s
        (Traversal.call calls (.ok i) s).2 ∧
      ∀ t ∈ Traversal.actions i.stage.operation (i.run calls) s, ∀ c ∈ i.made calls t,
        inv c.2 ∧ rel s c.2 := by
  have run : ∀ t ∈ Traversal.actions i.stage.operation (i.run calls) s, inv t → rel s t →
      Along inv rel Prod.snd (i.made calls t) t (i.run calls t).2 := by
    intro t member here path
    have called := invoke t member here path
    have rest := way.made way.edit i.component i.stage.hasChain i.component.program _ called.1
      fun c inside there path' =>
        kept t member c inside there (way.trans path (way.trans called.2 path'))
    exact ⟨way.andThen called fun _ => rest.ends, fun c inside =>
      way.andThen called fun _ => rest.met c inside⟩
  have along := way.privileged h fun t member here path => (run t member here path).ends
  refine ⟨⟨?_, along.met⟩, ?_⟩
  · rw [call_apply]
    exact way.andThen along.ends fun here => way.quiet here (i.close_quiet _)
  · intro t member c inside
    obtain ⟨here, path⟩ := along.met t member
    exact way.andThen ⟨here, path⟩ fun _ => (run t member here path).met c inside

theorem step {calls : Calls} {s : Container} (h : inv s)
    (invoke : ∀ i t, Traversal.prepare s = (.ok (.ok i), t) →
      ∀ u ∈ Traversal.actions i.stage.operation (i.run calls) t, inv u → rel s u →
        ready i.component u → inv (u.invoke i.stage i.component) ∧
          rel u (u.invoke i.stage i.component))
    (kept : ∀ i t, Traversal.prepare s = (.ok (.ok i), t) →
      ∀ u ∈ Traversal.actions i.stage.operation (i.run calls) t, ∀ c ∈ i.made calls u,
        inv c.2 → rel s c.2 → inv (calls c.1 c.2).2 ∧ rel c.2 (calls c.1 c.2).2) :
    (inv (Traversal.step calls s).2 ∧ rel s (Traversal.step calls s).2) ∧
      ∀ i t, Traversal.prepare s = (.ok (.ok i), t) →
        ∀ u ∈ Traversal.actions i.stage.operation (i.run calls) t,
          ((inv u ∧ rel s u) ∧ ready i.component u) ∧
            ∀ c ∈ i.made calls u, inv c.2 ∧ rel s c.2 := by
  obtain ⟨prepared, able⟩ := way.prepare h
  rw [step_eq]
  rcases ran : Traversal.prepare s with ⟨halt | failure | i, t⟩ <;> rw [ran] at prepared able
  · rw [Run.bind_of_error ran]
    exact ⟨prepared, by rintro i t ⟨⟩⟩
  · rw [Run.bind_of_ok ran]
    exact ⟨prepared, by rintro i t ⟨⟩⟩
  · rw [Run.bind_of_ok ran]
    have able := able i rfl
    obtain ⟨along, made⟩ := way.call prepared.1
      (fun u member here path => invoke i t ran u member here (way.trans prepared.2 path)
        (way.ready_of_rel path able))
      fun u member c inside here path =>
        kept i t ran u member c inside here (way.trans prepared.2 path)
    refine ⟨way.andThen prepared fun _ => along.ends, ?_⟩
    rintro j t' ⟨⟩ u member
    have met := along.met u member
    exact ⟨⟨way.andThen prepared fun _ => met, way.ready_of_rel met.2 able⟩, fun c inside =>
      way.andThen prepared fun _ => made u member c inside⟩

/-- A call to go on keeps what its invocations and the calls inside it keep. -/
theorem doFilter {calls : Calls} {s : Container} (h : inv s)
    (invoke : ∀ c ∈ Traversal.invocations calls s, inv c.2 → rel s c.2 → ready c.1.component c.2 →
      inv (c.2.invoke c.1.stage c.1.component) ∧ rel c.2 (c.2.invoke c.1.stage c.1.component))
    (kept : ∀ c ∈ Traversal.inner calls s, inv c.2 → rel s c.2 →
      inv (calls c.1 c.2).2 ∧ rel c.2 (calls c.1 c.2).2) :
    Traversal.Keeps inv rel ready calls s := by
  have step : ∀ t ∈ Traversal.actions .doFilter (Traversal.step calls) s, inv t → rel s t → _ :=
    fun t member here path => way.step here
      (fun i u ran v acts there path' => invoke (i, v) (mem_invocations.2 ⟨t, member, u, ran, acts⟩)
        there (way.trans path path'))
      fun i u ran v acts c inside there path' => kept c
        (mem_inner.2 ⟨(i, v), mem_invocations.2 ⟨t, member, u, ran, acts⟩, inside⟩) there
        (way.trans path path')
  have along := way.privileged h fun t member here path => (step t member here path).1
  have met : ∀ c ∈ Traversal.invocations calls s,
      ((inv c.2 ∧ rel s c.2) ∧ ready c.1.component c.2) ∧
        ∀ d ∈ c.1.made calls c.2, inv d.2 ∧ rel s d.2 := by
    intro c member
    obtain ⟨t, acts, u, ran, called⟩ := mem_invocations.1 member
    obtain ⟨here, path⟩ := along.met t acts
    obtain ⟨⟨there, able⟩, made⟩ := (step t acts here path).2 c.1 u ran c.2 called
    exact ⟨⟨way.andThen ⟨here, path⟩ fun _ => there, able⟩, fun d inside =>
      way.andThen ⟨here, path⟩ fun _ => made d inside⟩
  refine ⟨?_, along.met, fun c member => (met c member).1, fun c member => ?_⟩
  · unfold Traversal.doFilter
    rw [Run.get_bind_apply]
    cases executor : s.chain.executor with
    | none =>
      refine (step s ?_ h (way.refl h)).1
      rw [Traversal.actions, executor]
      exact List.mem_singleton_self s
    | some executor =>
      dsimp only
      rw [Run.bind_pure_snd]
      exact along.ends
  · obtain ⟨x, called, inside⟩ := mem_inner.1 member
    exact (met x called).2 c inside

end Way

/-- An invariant and a relation that are kept all along a traversal, as far as calls keep them. -/
structure Course (inv : Container → Prop) (rel : Container → Container → Prop)
    (ready : Component → Container → Prop) : Prop extends Way inv rel ready where
  invoke : ∀ {s c} (stage : Stage), inv s → ready c s →
    inv (s.invoke stage c) ∧ rel s (s.invoke stage c)

theorem Course.doFilter {inv : Container → Prop} {rel : Container → Container → Prop}
    {ready : Component → Container → Prop} (course : Course inv rel ready)
    {calls : Calls} (kept : ∀ call, (calls call).Keeps inv rel) :
    (Traversal.doFilter calls).Keeps inv rel := fun _ h =>
  (course.toWay.doFilter h (fun c _ here _ able => course.invoke c.1.stage here able)
    fun c _ here _ => kept c.1 c.2 here).ends

end ServletFilters
