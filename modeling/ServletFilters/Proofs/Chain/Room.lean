import ServletFilters.Proofs.Container.Starts

/-!
The room of a chain is of no account. Runs that begin in states which differ in nothing but the room
of their chain go the same way, `nestedCalls_blind`: they end alike, in states that differ in nothing
but that room again, and in what was seen of it.
-/

namespace ServletFilters

/-! ### States -/

/-- The event without the room of a chain that was seen. -/
def Event.roomless : Event → Event
  | .observed who (.chain view) => .observed who (.chain { view with capacity := 0 })
  | e => e

/-- The state with another room for its chain, and another journal. -/
def Container.refit (s : Container) (capacity : Nat) (journal : List Event) : Container :=
  { s with chain := { s.chain with capacity }, journal }

/-- The states differ in nothing but the room of their chain, and in what was seen of it. -/
def UpToRoom (s t : Container) : Prop :=
  ∃ capacity journal, t = s.refit capacity journal ∧
    journal.map Event.roomless = s.journal.map Event.roomless

/-- The states differ in the room of their chain only if that is free. -/
structure RoomAlike (free : Bool) (s t : Container) : Prop where
  upToRoom : UpToRoom s t
  room : free = false → t.chain.capacity = s.chain.capacity

namespace RoomAlike

variable {free : Bool} {s t : Container}

theorem note (h : RoomAlike free s t) {e e' : Event} (same : e'.roomless = e.roomless) :
    RoomAlike free (s.note e) (t.note e') := by
  obtain ⟨⟨n, j, rfl, journal⟩, room⟩ := h
  exact ⟨⟨n, e' :: j, rfl, congrArg₂ List.cons same journal⟩, room⟩

end RoomAlike

/-- The change is told, and takes no account of the room of the chain. -/
structure BlindChange (g : Container → Container) : Prop where
  further : ∀ s, Further s (g s)
  alike : ∀ {free s t}, RoomAlike free s t → RoomAlike free (g s) (g t)

namespace BlindChange

variable {g : Container → Container}

/-- A change that is one of neither the level, the chain's room nor the journal. -/
theorem of_aside (aside : ∀ s n j, g (s.refit n j) = (g s).refit n j)
    (still : ∀ s, (g s).nesting = s.nesting ∧ (g s).journal = s.journal ∧
      (g s).chain.capacity = s.chain.capacity) : BlindChange g where
  further s := ⟨(still s).1, (still s).2.1 ▸ List.suffix_rfl⟩
  alike := by
    rintro free s _ ⟨⟨n, j, rfl, journal⟩, room⟩
    rw [aside]
    exact ⟨⟨n, j, rfl, journal.trans (congrArg _ (still s).2.1.symm)⟩,
      fun tight => (room tight).trans (still s).2.2.symm⟩

theorem note (e : Event) : BlindChange (·.note e) := ⟨fun s => .note s e, fun h => h.note rfl⟩

theorem comp (h : BlindChange g) {g' : Container → Container} (h' : BlindChange g') :
    BlindChange fun s => g' (g s) :=
  ⟨fun s => (h.further s).trans (h'.further _), fun alike => h'.alike (h.alike alike)⟩

theorem foldl {g : Container → β → Container} (each : ∀ b, BlindChange fun s => g s b)
    (bs : List β) : BlindChange fun s => bs.foldl g s := by
  induction bs with
  | nil => exact ⟨.refl, id⟩
  | cons b rest ih => exact (each b).comp ih

end BlindChange

/-! ### Computations -/

/-- A filter asked for the room of the chain at a level. -/
def Event.gauges (level : Nat) : Event → Bool
  | .gauged l => l == level
  | _ => false

def Ungauged (level : Nat) (events : List Event) : Prop := ∀ e ∈ events, e.gauges level = false

instance (level : Nat) (events : List Event) : Decidable (Ungauged level events) :=
  inferInstanceAs (Decidable (∀ e ∈ events, e.gauges level = false))

/-- No filter has asked for the room of the chain since the earlier state. -/
def Ungauging (s t : Container) : Prop :=
  ∀ new, t.journal = new ++ s.journal → Ungauged s.nesting new

theorem Ungauging.of_ungauged {s t : Container} (h : Ungauged s.nesting t.journal) :
    Ungauging s t :=
  fun _ journal _ member => h _ (journal ▸ List.mem_append_left _ member)

theorem Ungauging.split {s t u : Container} (h : Ungauging s u) (first : Further s t)
    (second : Further t u) : Ungauging s t ∧ Ungauging t u := by
  obtain ⟨earlier, before⟩ := first.grows
  obtain ⟨later, after⟩ := second.grows
  constructor
  · intro new journal e member
    refine h (later ++ new) ?_ e (List.mem_append_right _ member)
    rw [← after, journal, List.append_assoc]
  · intro new journal e member
    rw [first.nesting]
    refine h (new ++ earlier) ?_ e (List.mem_append_left _ member)
    rw [journal, ← before, List.append_assoc]

/-- The computations end alike, in states that differ in nothing but the room of their chain. -/
def Agree (x y : Except Halt α × Container) : Prop := y.1 = x.1 ∧ UpToRoom x.2 y.2

/-- The computation takes no account of the room of the chain where nobody asks for it; nor does it
where the room is the same. -/
structure Run.Blind (x : Run α) : Prop where
  further : ∀ s, Further s (x s).2
  agree : ∀ {free s t}, RoomAlike free s t → (free = true → Ungauging s (x s).2) →
    (x t).1 = (x s).1 ∧ RoomAlike free (x s).2 (x t).2

namespace Run

theorem blind_pure (a : α) : (pure a : Run α).Blind := ⟨.refl, fun h _ => ⟨rfl, h⟩⟩

theorem blind_halt (halt : Halt) : (Run.halt halt : Run α).Blind := ⟨.refl, fun h _ => ⟨rfl, h⟩⟩

theorem blind_record (e : Event) : (record e).Blind :=
  ⟨fun s => .note s e, fun h _ => ⟨rfl, h.note rfl⟩⟩

theorem blind_modify {g : Container → Container} (change : BlindChange g) :
    (modify g : Run PUnit).Blind := ⟨change.further, fun h _ => ⟨rfl, change.alike h⟩⟩

theorem further_bind {x : Run α} {f : α → Run β} (first : ∀ s, Further s (x s).2)
    (rest : ∀ a s, Further s (f a s).2) (s : Container) : Further s ((x >>= f) s).2 := by
  have before := first s
  rcases ran : x s with ⟨halt | a, t⟩ <;> rw [ran] at before
  · rw [Run.bind_of_error ran]
    exact before
  · rw [Run.bind_of_ok ran]
    exact before.trans (rest a t)

theorem Blind.bind {x : Run α} {f : α → Run β} (first : x.Blind) (rest : ∀ a, (f a).Blind) :
    (x >>= f).Blind := by
  refine ⟨further_bind first.further fun a => (rest a).further, fun {free s t} h unasked => ?_⟩
  have before := first.further s
  have agree := first.agree h
  rcases ran : x s with ⟨halt | a, u⟩ <;> rcases ran' : x t with ⟨out, v⟩ <;>
    rw [ran] at before <;> rw [ran, ran'] at agree
  · rw [Run.bind_of_error ran] at unasked ⊢
    obtain ⟨rfl, after⟩ := agree unasked
    rw [Run.bind_of_error ran']
    exact ⟨rfl, after⟩
  · rw [Run.bind_of_ok ran] at unasked ⊢
    have split := fun tight => (unasked tight).split before ((rest a).further u)
    obtain ⟨rfl, after⟩ := agree fun tight => (split tight).1
    rw [Run.bind_of_ok ran']
    exact (rest a).agree after fun tight => (split tight).2

/-- What is read of a state is the same whatever the room of the chain. -/
theorem blind_get {f : Container → Run β} (same : ∀ s n j, f (s.refit n j) = f s)
    (rest : ∀ s, (f s).Blind) : ((get : Run Container) >>= f).Blind := by
  refine ⟨fun s => (rest s).further s, ?_⟩
  rintro free s _ ⟨⟨n, j, rfl, journal⟩, room⟩ unasked
  rw [Run.get_bind_apply] at unasked ⊢
  rw [Run.get_bind_apply, same]
  exact (rest s).agree ⟨⟨n, j, rfl, journal⟩, room⟩ unasked

/-- A change that is one of neither the level, the chain's room nor the journal makes no difference. -/
theorem Blind.after {g : Container → Container} {f : PUnit → Run β}
    (aside : ∀ s n j, g (s.refit n j) = (g s).refit n j)
    (still : ∀ s, (g s).nesting = s.nesting ∧ (g s).journal = s.journal ∧
      (g s).chain.capacity = s.chain.capacity)
    (rest : (f ⟨⟩).Blind) : ((modify g : Run PUnit) >>= f).Blind :=
  (blind_modify (.of_aside aside still)).bind fun _ => rest

theorem Blind.cleanedBy {x : Run α} (h : x.Blind) {cleanUp : Container → Container}
    (change : BlindChange cleanUp) : (x.cleanedBy cleanUp).Blind := by
  refine ⟨fun s => (h.further s).trans (change.further _), fun alike unasked => ?_⟩
  have ends := h.agree alike fun tight => ((unasked tight).split (h.further _) (change.further _)).1
  exact ⟨ends.1, change.alike ends.2⟩

end Run

/-! ### The life of components -/

theorem freshSerial_blind : freshSerial.Blind := by
  refine ⟨fun _ => ⟨rfl, List.suffix_rfl⟩, ?_⟩
  rintro free s _ ⟨⟨n, j, rfl, journal⟩, room⟩ -
  exact ⟨rfl, ⟨n, j, rfl, journal⟩, room⟩

theorem makeComponent_blind (announced : Bool) (name : String) (make : Nat → Making) :
    (makeComponent announced name make).Blind := by
  have finish : ∀ m : Making, (m.finish announced name).Blind := by
    intro m
    cases m with
    | ready program =>
      exact freshSerial_blind.bind fun _ => (Run.blind_record _).bind fun _ => Run.blind_pure _
    | refused failure => exact Run.blind_pure _
    | panicked message => exact Run.blind_halt _
  refine Run.blind_get (fun _ _ _ => rfl) fun s => ?_
  cases announced with
  | false => exact finish _
  | true =>
    refine Run.Blind.after (fun _ _ _ => rfl) (fun _ => ⟨rfl, rfl, rfl⟩) ?_
    exact (Run.blind_record _).bind fun _ => finish _

namespace FilterConfig

theorem make_blind (f : FilterConfig) : f.make.Blind := by
  unfold make
  cases f.source with
  | given component => exact Run.blind_pure _
  | made cls => exact makeComponent_blind _ _ _

theorem recordSupply_blind (f : FilterConfig) (component : Component) :
    (f.recordSupply component).Blind :=
  Run.blind_get (fun _ _ _ => rfl) fun _ => Run.blind_record _

theorem obtain_blind (f : FilterConfig) : f.obtain.Blind := by
  refine Run.blind_get (fun _ _ _ => rfl) fun s => ?_
  cases s.instances.find? f.serial with
  | some component => exact (f.recordSupply_blind component).bind fun _ => Run.blind_pure _
  | none =>
    refine f.make_blind.bind fun made => ?_
    cases made with
    | error failure => exact (Run.blind_record _).bind fun _ => Run.blind_pure _
    | ok component =>
      refine Run.Blind.after (fun _ _ _ => rfl) (fun _ => ⟨rfl, rfl, rfl⟩) ?_
      exact (f.recordSupply_blind component).bind fun _ => Run.blind_pure _

theorem release_blind (f : FilterConfig) : BlindChange f.release := by
  have erased : BlindChange fun s => { s with instances := s.instances.erase f.serial } :=
    .of_aside (fun _ _ _ => rfl) fun _ => ⟨rfl, rfl, rfl⟩
  refine ⟨fun s => ?_, ?_⟩
  · unfold release
    cases s.instances.find? f.serial with
    | none => exact .refl s
    | some c => exact (erased.comp (.note _)).further s
  · rintro free s _ ⟨⟨n, j, rfl, journal⟩, room⟩
    have same : (s.refit n j).instances = s.instances := rfl
    unfold release
    rw [same]
    cases s.instances.find? f.serial with
    | none => exact ⟨⟨n, j, rfl, journal⟩, room⟩
    | some c => exact (erased.comp (.note _)).alike ⟨⟨n, j, rfl, journal⟩, room⟩

end FilterConfig

namespace Registry

theorem hold_blind (r : Registry) : BlindChange r.hold :=
  .comp (g := fun s => { s with holders := r.serial :: s.holders })
    (.of_aside (fun _ _ _ => rfl) fun _ => ⟨rfl, rfl, rfl⟩) (.note _)

theorem destroy_blind (r : Registry) : BlindChange r.destroy :=
  .comp (.foldl (fun f => f.release_blind) r.filters.values)
    (.foldl (fun _ => .note _) r.wrappers)

theorem letGo_blind (r : Registry) : BlindChange r.letGo := by
  let left (u : Container) : Container :=
    { u with holders := u.holders.erase r.serial }.note (.released r.serial)
  have released : BlindChange left :=
    .comp (g := fun u => { u with holders := u.holders.erase r.serial })
      (.of_aside (fun _ _ _ => rfl) fun _ => ⟨rfl, rfl, rfl⟩) (.note _)
  have leaves : ∀ u, r.letGo u = if r.serial ∈ (left u).holders then left u else r.destroy (left u) :=
    fun _ => rfl
  refine ⟨fun s => ?_, fun {free s t} h => ?_⟩
  · rw [leaves]
    split
    · exact released.further s
    · exact (released.further s).trans (r.destroy_blind.further _)
  · have held : (left t).holders = (left s).holders := by
      obtain ⟨⟨n, j, rfl, -⟩, -⟩ := h
      rfl
    rw [leaves, leaves, held]
    split
    · exact released.alike h
    · exact r.destroy_blind.alike (released.alike h)

theorem whileHeld_blind (r : Registry) {body : Run α} (h : body.Blind) : (r.whileHeld body).Blind :=
  (Run.blind_modify r.hold_blind).bind fun _ => h.cleanedBy r.letGo_blind

theorem makeWrappers_blind (components : ComponentFactory) (entries : List Config.ServletEntry) :
    (makeWrappers components entries).Blind := by
  induction entries with
  | nil => exact Run.blind_pure _
  | cons entry rest ih =>
    unfold makeWrappers
    cases components.servlets.find? entry.className with
    | none => exact Run.blind_pure _
    | some cls =>
      refine (makeComponent_blind _ _ _).bind fun made => ?_
      cases made with
      | error failure => exact Run.blind_pure _
      | ok servlet => exact ih.bind fun _ => Run.blind_pure _

theorem declareFilters_blind (components : ComponentFactory) (entries : List Config.FilterEntry) :
    ∀ declared, (declareFilters components entries declared).Blind := by
  induction entries with
  | nil => exact fun _ => Run.blind_pure _
  | cons entry rest ih =>
    intro declared
    unfold declareFilters
    cases components.filters.find? entry.className with
    | none => exact Run.blind_pure _
    | some cls => exact freshSerial_blind.bind fun _ => ih _

theorem build_blind (config : Config) (components : ComponentFactory) :
    (build config components).Blind := by
  refine (declareFilters_blind components _ _).bind fun declared => ?_
  cases declared with
  | error e => exact Run.blind_pure _
  | ok filters =>
    dsimp only
    cases config.filterMappings.mapM FilterMapping.ofEntry with
    | error e => exact Run.blind_pure _
    | ok mappings =>
      refine (makeWrappers_blind components _).bind fun made => ?_
      cases made with
      | error e => exact Run.blind_pure _
      | ok wrappers =>
        dsimp only
        cases chooseDefault wrappers config.defaultServlet with
        | error e => exact Run.blind_pure _
        | ok default =>
          refine (Run.blind_record _).bind fun _ => freshSerial_blind.bind fun serial => ?_
          exact (Run.blind_record _).bind fun _ => Run.blind_pure _

end Registry

/-! ### Traversals -/

section Traversals

theorem perform_blind (who : Component) (action : Action) : (action.perform who).Blind := by
  cases action with
  | look | retrieve =>
    refine ⟨.refl, ?_⟩
    rintro free s _ ⟨⟨n, j, rfl, journal⟩, room⟩ -
    exact ⟨rfl, ⟨n, j, rfl, journal⟩, room⟩
  | startAsync =>
    have performed : ∀ s, Action.startAsync.perform who s = if s.request.asyncSupported
        then (.ok (.ok ()), s.updateRequest fun r => { r with asyncStarted := true })
        else (.ok (.error s.request.asyncRefusal), s) := fun _ => rfl
    refine ⟨fun s => ?_, ?_⟩
    · rw [performed]
      split <;> exact ⟨rfl, List.suffix_rfl⟩
    · rintro free s _ ⟨⟨n, j, rfl, journal⟩, room⟩ -
      have same : (s.refit n j).request = s.request := rfl
      rw [performed, performed, same]
      split <;> exact ⟨rfl, ⟨n, j, rfl, journal⟩, room⟩
  | observe value => exact Run.blind_record _
  | log entry => exact Run.blind_record _
  | _ => exact Run.blind_modify (.of_aside (fun _ _ _ => rfl) fun _ => ⟨rfl, rfl, rfl⟩)

theorem downgrade_blind (declined : Bool) : (Traversal.downgrade declined).Blind := by
  refine ⟨fun s => ⟨(downgrade_quiet declined s).nesting, ?_⟩, ?_⟩
  · unfold Traversal.downgrade
    rw [Run.modify_apply]
    split <;> exact List.suffix_rfl
  · rintro free s _ ⟨⟨n, j, rfl, journal⟩, room⟩ -
    have same : (s.refit n j).request = s.request := rfl
    unfold Traversal.downgrade
    rw [Run.modify_apply, Run.modify_apply, same]
    cases s.request.asyncSupported && declined <;> exact ⟨rfl, ⟨n, j, rfl, journal⟩, room⟩

/-- A response of its own makes no difference to a computation but the response. -/
theorem onResponse_blind (response : Response) {body : Run Result} (h : body.Blind) :
    (onResponse response body).Blind := by
  refine ⟨fun s => ?_, ?_⟩
  · have inside := h.further (s.newResponse response)
    exact ⟨inside.nesting, inside.grows⟩
  · rintro free s _ ⟨⟨n, j, rfl, journal⟩, room⟩ unasked
    have opened : RoomAlike free (s.newResponse response) ((s.refit n j).newResponse response) :=
      ⟨⟨n, j, rfl, journal⟩, room⟩
    obtain ⟨ends, ⟨m, k, left, told⟩, after⟩ := h.agree opened unasked
    unfold onResponse
    rcases ran : body (s.newResponse response) with ⟨out, t⟩
    rcases ran' : body ((s.refit n j).newResponse response) with ⟨out', t'⟩
    rw [ran, ran'] at ends left after
    rw [ran] at told
    subst left
    obtain rfl : out' = out := ends
    exact ⟨rfl, ⟨m, k, rfl, told⟩, after⟩

theorem carryOut_blind (operation : Operation) (principal : Option String) {step : Run Result}
    (h : step.Blind) (plan : Plan) : (plan.carryOut operation principal step).Blind := by
  induction plan with
  | finish result => exact Run.blind_pure _
  | panic message => exact Run.blind_halt _
  | report next ih => exact (Run.blind_record _).bind fun _ => ih
  | run next ih => exact h.bind ih

theorem privileged_blind (operation : Operation) {step : Run Result} (h : step.Blind) :
    (Traversal.privileged operation step).Blind := by
  refine Run.blind_get (fun _ _ _ => rfl) fun s => ?_
  cases s.chain.executor with
  | none => exact h
  | some executor => exact carryOut_blind _ _ h _

theorem recordInvocation_blind (stage : Stage) (c : Component) :
    (Traversal.recordInvocation stage c).Blind :=
  Run.blind_get (fun _ _ _ => rfl) fun _ => Run.blind_record _

variable {calls : Calls} (blind : ∀ call, (calls call).Blind)
include blind

theorem chainAction_blind (who : Component) (action : ChainAction) :
    (action.perform calls who).Blind := by
  cases action with
  | proceed => exact blind .proceed
  | reuse =>
    refine Run.blind_get (fun _ _ _ => rfl) fun s => (Run.blind_record _).bind fun _ => ?_
    exact Run.blind_modify (.of_aside (fun _ _ _ => rfl) fun _ => ⟨rfl, rfl, rfl⟩)
  | release =>
    refine Run.blind_get (fun _ _ _ => rfl) fun s => (Run.blind_record _).bind fun _ => ?_
    exact Run.blind_modify (.of_aside (fun _ _ _ => rfl) fun _ => ⟨rfl, rfl, rfl⟩)
  | observe =>
    -- The room is reported, but it is not what the filter sees.
    refine ⟨fun s => .note s _, ?_⟩
    rintro free s _ ⟨⟨n, j, rfl, journal⟩, room⟩ -
    exact ⟨rfl, RoomAlike.note ⟨⟨n, j, rfl, journal⟩, room⟩ rfl⟩
  | gauge =>
    refine ⟨fun s => .note s _, ?_⟩
    rintro (- | -) s _ ⟨⟨n, j, rfl, journal⟩, room⟩ unasked
    · exact ⟨congrArg Except.ok (room rfl), RoomAlike.note ⟨⟨n, j, rfl, journal⟩, room⟩ rfl⟩
    · have asked := unasked rfl [.gauged s.nesting] rfl _ (List.mem_singleton_self _)
      exact absurd ((beq_self_eq_true s.nesting).symm.trans asked) (by decide)

theorem program_blind (who : Component) (hasChain : Bool) (program : Program) :
    (program.run calls who hasChain).Blind := by
  induction program with
  | finish result => exact Run.blind_pure _
  | panic message => exact Run.blind_halt _
  | act action next ih => exact (perform_blind who action).bind ih
  | chain action next ih =>
    cases hasChain with
    | false => exact Run.blind_pure _
    | true => exact (chainAction_blind blind who action).bind ih
  | dispatch dispatcher target next ih =>
    refine Run.blind_get (fun _ _ _ => rfl) fun s => ?_
    cases s.attachedPipeline? with
    | none => exact ih _
    | some p => exact (blind _).bind ih
  | withResponse response body next inside ih =>
    exact (onResponse_blind response inside).bind fun answer => ih answer.1 answer.2
  | reload config next ih =>
    refine Run.blind_get (fun _ _ _ => rfl) fun s => ?_
    cases s.attachedPipeline? with
    | none => exact ih _
    | some p => exact (blind _).bind ih

theorem invokeFilter_blind (f : FilterConfig) : (Traversal.invokeFilter calls f).Blind := by
  refine f.obtain_blind.bind fun given => ?_
  cases given with
  | error failure => exact Run.blind_pure _
  | ok filter =>
    refine (downgrade_blind _).bind fun _ => (Run.blind_record _).bind fun _ => ?_
    refine privileged_blind _ ((recordInvocation_blind _ _).bind fun _ => ?_)
    exact program_blind blind _ _ _

theorem invokeServlet_blind : (Traversal.invokeServlet calls).Blind := by
  refine Run.blind_get (fun _ _ _ => rfl) fun s => ?_
  dsimp only
  cases s.chain.servlet with
  | none => exact Run.blind_pure _
  | some servlet =>
    have called : (Traversal.privileged .service (do
        Traversal.recordInvocation .servlet servlet
        servlet.program.run calls servlet false)).Blind :=
      privileged_blind _ ((recordInvocation_blind _ _).bind fun _ => program_blind blind _ _ _)
    have body := (downgrade_blind !s.chain.servletAsync).bind fun _ =>
      (Run.blind_record (.measured .servletInvoked)).bind fun _ => called
    cases s.chain.tracking with
    | false => exact body
    | true =>
      refine Run.Blind.after (fun _ _ _ => rfl) (fun _ => ⟨rfl, rfl, rfl⟩) ?_
      exact body.cleanedBy (.of_aside (fun _ _ _ => rfl) fun _ => ⟨rfl, rfl, rfl⟩)

theorem step_blind : (Traversal.step calls).Blind := by
  refine Run.blind_get (fun _ _ _ => rfl) fun s => ?_
  cases s.chain.filters[s.chain.position]? with
  | some f =>
    refine (Run.blind_record _).bind fun _ => ?_
    refine Run.Blind.after (fun _ _ _ => rfl) (fun _ => ⟨rfl, rfl, rfl⟩) ?_
    exact (invokeFilter_blind blind f).bind fun _ => Run.blind_pure _
  | none =>
    refine (Run.blind_record _).bind fun _ => ?_
    exact (invokeServlet_blind blind).bind fun _ => Run.blind_pure _

theorem Traversal.doFilter_blind : (Traversal.doFilter calls).Blind := by
  refine Run.blind_get (fun _ _ _ => rfl) fun s => ?_
  cases s.chain.executor with
  | none => exact step_blind blind
  | some executor => exact (privileged_blind _ (step_blind blind)).bind fun _ => Run.blind_pure _

end Traversals

/-! ### Dispatches -/

/-- The room that a chain had shows in nothing but its room when it was filled. -/
theorem foldl_addFilter_room (fs : List FilterConfig) : ∀ (c : Chain) (n : Nat),
    ∃ m, fs.foldl Chain.addFilter { c with capacity := n } =
      { fs.foldl Chain.addFilter c with capacity := m } := by
  induction fs with
  | nil => exact fun c n => ⟨n, rfl⟩
  | cons f rest ih =>
    intro c n
    rw [List.foldl_cons, List.foldl_cons]
    by_cases present : c.filters.any (fun g => g.serial == f.serial) = true
    · have kept : ∀ k, Chain.addFilter { c with capacity := k } f = { c with capacity := k } :=
        fun _ => if_pos present
      rw [kept n, kept c.capacity]
      exact ih c n
    · have added : ∀ k, Chain.addFilter { c with capacity := k } f =
          { c with
            filters := c.filters ++ [f]
            capacity := if c.filters.length = k then k + Chain.increment else k } :=
        fun _ => if_neg present
      rw [added n, added c.capacity]
      exact ih { c with filters := c.filters ++ [f], capacity := _ } _

theorem populate_blind (r : Registry) (w : Wrapper) : (Chain.populate r w).Blind := by
  refine ⟨fun s => ?_, ?_⟩
  · rw [populate_eq]
    exact ⟨rfl, _, rfl⟩
  rintro free s _ ⟨⟨n, j, rfl, journal⟩, room⟩ -
  let d := s.request.dispatch
  obtain ⟨m, refilled⟩ := foldl_addFilter_room
    (Chain.declared r (resolve r.mappings d.dispatcher d.path (some w.name)))
    (s.chain.release.setServlet w.servlet w.asyncSupported) n
  have populated : (s.refit n j).chain.populated r w d =
      { s.chain.populated r w d with capacity := m } := refilled
  have written : (s.refit n j).chain.populating r w d = s.chain.populating r w d := by
    rw [Chain.populating, populated]
    rfl
  have tight : free = false → (s.refit n j).chain = s.chain := by
    intro tight
    obtain rfl : n = s.chain.capacity := room tight
    rfl
  rw [populate_eq, populate_eq]
  refine ⟨rfl, ⟨m, s.chain.populating r w d ++ j, ?_, ?_⟩, fun kept => ?_⟩
  · change ({ s.refit n j with
      chain := (s.refit n j).chain.populated r w d
      journal := (s.refit n j).chain.populating r w d ++ j } : Container) = _
    rw [populated, written]
    rfl
  · rw [List.map_append, journal]
    exact List.map_append.symm
  · change ((s.refit n j).chain.populated r w d).capacity = _
    rw [tight kept]

namespace Pipeline

theorem enter_blind (p : Nat) (r : Registry) (w : Wrapper) : (enter p r w).Blind := by
  refine Run.blind_get (fun _ _ _ => rfl) fun s => (Run.blind_record _).bind fun _ => ?_
  refine (populate_blind r w).bind fun _ => ?_
  exact Run.blind_modify (.of_aside (fun _ _ _ => rfl) fun _ => ⟨rfl, rfl, rfl⟩)

/-- A nested visit runs a new chain and does not give it back, so its room gets nowhere. -/
theorem runChain_nested (calls : Calls) {p : Nat} (r : Registry) (w : Wrapper) {x : Pipeline}
    {s : Container} (found : s.pipelines.find? p = some x) :
    runChain calls p r w false s =
      ((do enter p r w; Traversal.doFilter calls : Run Result)
          { s with chain := x.newChain, nesting := s.nesting + 1 }).map id s.leave := by
  rw [runChain_some calls r w false found, show take p x w.name false = pure x.newChain from rfl,
    pure_bind, Run.bind_apply, inChain_apply]
  rcases (do enter p r w; Traversal.doFilter calls : Run Result)
    { s with chain := x.newChain, nesting := s.nesting + 1 } with ⟨halt | result, t⟩ <;> rfl

variable {calls : Calls} (blind : ∀ call, (calls call).Blind)
include blind

theorem runChain_blind (p : Nat) (r : Registry) (w : Wrapper) :
    (runChain calls p r w false).Blind := by
  have inside := (enter_blind p r w).bind fun _ => Traversal.doFilter_blind blind
  refine ⟨fun s => ?_, ?_⟩
  · cases found : s.pipelines.find? p with
    | none =>
      rw [runChain_none calls r w false found]
      exact .refl s
    | some x =>
      rw [runChain_nested calls r w found]
      exact ⟨rfl, (inside.further { s with chain := x.newChain, nesting := s.nesting + 1 }).grows⟩
  rintro free s _ ⟨⟨n, j, rfl, journal⟩, room⟩ -
  have same : (s.refit n j).pipelines = s.pipelines := rfl
  cases found : s.pipelines.find? p with
  | none =>
    rw [runChain_none calls r w false found, runChain_none calls r w false (same ▸ found)]
    exact ⟨rfl, ⟨n, j, rfl, journal⟩, room⟩
  | some x =>
    -- The new chain has the same room in both runs, so it does not matter who asks for it.
    have begun : RoomAlike false { s with chain := x.newChain, nesting := s.nesting + 1 }
        { s.refit n j with chain := x.newChain, nesting := s.nesting + 1 } :=
      ⟨⟨_, j, rfl, journal⟩, fun _ => rfl⟩
    obtain ⟨ends, ⟨m, k, left, told⟩, -⟩ := inside.agree begun (by rintro ⟨⟩)
    rw [runChain_nested calls r w found, runChain_nested calls r w (same ▸ found)]
    exact ⟨ends, ⟨n, k, congrArg (s.refit n j).leave left, told⟩, room⟩

theorem dispatchTo_blind (p : Nat) (r : Registry) (w : Wrapper) (state : DispatchState) :
    (dispatchTo calls p r w state false).Blind := by
  refine Run.blind_get (fun _ _ _ => rfl) fun s => ?_
  refine Run.Blind.after (fun _ _ _ => rfl) (fun _ => ⟨rfl, rfl, rfl⟩) ?_
  refine (runChain_blind blind p r w).bind fun result => ?_
  exact Run.Blind.after (fun _ _ _ => rfl) (fun _ => ⟨rfl, rfl, rfl⟩) (Run.blind_pure _)

theorem divert_blind (p : Nat) (r : Registry) (dispatcher : Dispatcher) (target : Target) :
    (divert calls p r dispatcher target).Blind := by
  unfold divert
  rcases locate r target with ⟨_ | w, path⟩
  · exact Run.blind_pure _
  · exact dispatchTo_blind blind p r w _

theorem dispatchNested_blind (p : Nat) (dispatcher : Dispatcher) (target : Target) :
    (dispatchNested calls p dispatcher target).Blind := by
  refine Run.blind_get (fun _ _ _ => rfl) fun s => ?_
  cases s.pipelines.find? p with
  | none => exact Run.blind_pure _
  | some x => exact x.registry.whileHeld_blind (divert_blind blind p x.registry dispatcher target)

theorem dispatch_blind (p : Nat) (dispatcher : Dispatcher) (target : Target) :
    (dispatch calls p dispatcher target).Blind := by
  have left : ∀ result : Result, (do
      modify (·.updateRequest fun r => { r with depth := r.depth - 1 })
      return result : Run Result).Blind := fun result =>
    Run.Blind.after (fun _ _ _ => rfl) (fun _ => ⟨rfl, rfl, rfl⟩) (Run.blind_pure _)
  refine Run.Blind.after (fun _ _ _ => rfl) (fun _ => ⟨rfl, rfl, rfl⟩) ?_
  refine Run.blind_get (fun _ _ _ => rfl) fun s => ?_
  dsimp only
  split
  · exact (Run.blind_record _).bind fun _ => (Run.blind_pure _).bind left
  · exact (dispatchNested_blind blind p dispatcher target).bind left

end Pipeline

/-! ### Reloads -/

namespace Pipeline

theorem updatePipeline_blind (p : Nat) (f : Pipeline → Pipeline) :
    BlindChange (·.updatePipeline p f) := by
  refine ⟨fun s => ?_, ?_⟩
  · obtain ⟨pipelines, frame⟩ := updatePipeline_frame s p f
    rw [frame]
    exact ⟨rfl, List.suffix_rfl⟩
  · rintro free s _ ⟨⟨n, j, rfl, journal⟩, room⟩
    have same : (s.refit n j).pipelines = s.pipelines := rfl
    unfold Container.updatePipeline
    rw [same]
    cases s.pipelines.find? p with
    | none => exact ⟨⟨n, j, rfl, journal⟩, room⟩
    | some x => exact ⟨⟨n, j, rfl, journal⟩, room⟩

theorem swapRegistry_blind (p : Nat) (r : Registry) : BlindChange (swapRegistry p r) := by
  have swapped (x : Pipeline) : BlindChange fun s => x.registry.letGo ((r.hold
      (s.updatePipeline p fun x => { x with registry := r })).note (.installed p r.serial)) :=
    (((updatePipeline_blind p _).comp r.hold_blind).comp (.note _)).comp x.registry.letGo_blind
  refine ⟨fun s => ?_, fun {free s t} h => ?_⟩
  · unfold swapRegistry
    cases s.pipelines.find? p with
    | none => exact .refl s
    | some x => exact (swapped x).further s
  · have same : t.pipelines = s.pipelines := by
      obtain ⟨⟨n, j, rfl, -⟩, -⟩ := h
      rfl
    unfold swapRegistry
    rw [same]
    cases s.pipelines.find? p with
    | none => exact h
    | some x => exact (swapped x).alike h

theorem reload_blind (p : Nat) (config : Config) : (reload p config).Blind := by
  refine Run.blind_get (fun _ _ _ => rfl) fun s => ?_
  cases s.pipelines.find? p with
  | none => exact Run.blind_pure _
  | some x =>
    refine (Registry.build_blind config x.components).bind fun built => ?_
    cases built with
    | error e => exact Run.blind_pure _
    | ok r =>
      have swapped : (do
          modify (swapRegistry p r)
          modify (·.updatePipeline p fun p =>
            { p with trackLastServiced := config.isolation.trackLastServiced, pool := p.pool.clear })
          log .info "Pipeline registry reloaded" []
          return .ok () : Run (Except RegistryError Unit)).Blind :=
        (Run.blind_modify (swapRegistry_blind p r)).bind fun _ =>
          (Run.blind_modify (updatePipeline_blind p _)).bind fun _ =>
            (Run.blind_record _).bind fun _ => Run.blind_pure _
      dsimp only
      split
      · exact (Run.blind_record _).bind fun _ => swapped
      · exact swapped

end Pipeline

/-! ### Calls -/

/-- What components call takes no account of the room of the chain, by induction on the levels. -/
theorem nestedCalls_blind (levels : Nat) : ∀ call, (nestedCalls levels call).Blind := by
  induction levels with
  | zero => exact fun _ => Run.blind_halt _
  | succ n ih =>
    intro call
    cases call with
    | proceed => exact Traversal.doFilter_blind ih
    | dispatch p dispatcher target => exact Pipeline.dispatch_blind ih p dispatcher target
    | reload p config => exact (Pipeline.reload_blind p config).bind fun _ => Run.blind_pure _

end ServletFilters
