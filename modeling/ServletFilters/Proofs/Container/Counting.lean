import ServletFilters.Proofs.Container.Reloading

/-!
What is measured, and the traversals and calls of components beside which it is measured. Making and
destroying components and reloading pipelines does nothing of the kind.
-/

namespace ServletFilters

/-- What an event has to do with the accounts of a run. Whether the pool had a chain does not count. -/
inductive Mark where
  | measured (measurement : Measurement)
  | traversed (registry : Nat)
  | invoked (stage : Stage) (name : String)
  deriving DecidableEq

def Event.mark? : Event → Option Mark
  | .measured (.poolAcquired _) => some (.measured (.poolAcquired false))
  | .measured m => some (.measured m)
  | .traversed _ _ registry _ _ => some (.traversed registry)
  | .invoked _ stage _ name _ => some (.invoked stage name)
  | _ => none

/-- The marks in the journal, newest first. -/
def Container.marks (s : Container) : List Mark := s.journal.filterMap Event.mark?

/-- The call of a component that an event counts. -/
def Event.counted? : Event → Option Measurement
  | .measured (.filterInvoked name) => some (.filterInvoked name)
  | .measured .servletInvoked => some .servletInvoked
  | _ => none

/-- The calls of components that were counted, newest first. -/
def Container.counted (s : Container) : List Measurement := s.journal.filterMap Event.counted?

theorem Container.counted_note (s : Container) {e : Event} (h : e.counted? = none) :
    (s.note e).counted = s.counted := List.filterMap_cons_none h

def Mark.counted? : Mark → Option Measurement
  | .measured (.filterInvoked name) => some (.filterInvoked name)
  | .measured .servletInvoked => some .servletInvoked
  | _ => none

theorem Container.counted_eq (s : Container) : s.counted = s.marks.filterMap Mark.counted? := by
  have each : Event.counted? = fun e => e.mark?.bind Mark.counted? := by
    funext e
    cases e with
    | measured m => cases m <;> rfl
    | _ => rfl
  rw [marks, List.filterMap_filterMap, ← each, counted]

theorem Container.counted_of_marks {s t : Container} (same : t.marks = s.marks) :
    t.counted = s.counted := by
  rw [counted_eq, counted_eq, same]

/-- The computation leaves no marks, however it ends. -/
def Run.Unmarked (x : Run α) : Prop := ∀ s, (x s).2.marks = s.marks

namespace Run.Unmarked

theorem pure (a : α) : (Pure.pure a : Run α).Unmarked := fun _ => rfl

theorem bind {x : Run α} {next : α → Run β} (first : x.Unmarked) (rest : ∀ a, (next a).Unmarked) :
    (x >>= next).Unmarked := by
  intro s
  have marks := first s
  rcases ran : x s with ⟨halt | a, t⟩ <;> rw [ran] at marks
  · rw [Run.bind_of_error ran]
    exact marks
  · rw [Run.bind_of_ok ran]
    exact (rest a t).trans marks

theorem log (level : LogLevel) (text : String) (fields : List (String × LogValue)) :
    (log level text fields).Unmarked := fun _ => rfl

end Run.Unmarked

/-- The computation counts no call, however it ends. -/
def Run.Uncounted (x : Run α) : Prop := ∀ s, (x s).2.counted = s.counted

theorem Run.Unmarked.uncounted {x : Run α} (h : x.Unmarked) : x.Uncounted :=
  fun s => Container.counted_of_marks (h s)

theorem Run.Uncounted.bind {x : Run α} {next : α → Run β} (first : x.Uncounted) (rest : ∀ a, (next a).Uncounted) :
    (x >>= next).Uncounted := by
  intro s
  have counted := first s
  rcases ran : x s with ⟨halt | a, t⟩ <;> rw [ran] at counted
  · rw [Run.bind_of_error ran]
    exact counted
  · rw [Run.bind_of_ok ran]
    exact (rest a t).trans counted

/-! ### Making -/

theorem makeComponent_unmarked (announced : Bool) (name : String) (make : Nat → Making) :
    (makeComponent announced name make).Unmarked := by
  have finish : ∀ m : Making, (m.finish announced name).Unmarked := by
    intro m
    cases m <;> exact fun _ => rfl
  intro s
  unfold makeComponent
  rw [Run.get_bind_apply]
  cases announced with
  | true => exact finish _ _
  | false => exact finish _ _

theorem FilterConfig.make_unmarked (f : FilterConfig) : f.make.Unmarked := by
  unfold FilterConfig.make
  cases f.source with
  | given c => exact .pure _
  | made cls => exact makeComponent_unmarked _ _ _

theorem FilterConfig.obtain_unmarked (f : FilterConfig) : f.obtain.Unmarked := by
  intro s
  unfold FilterConfig.obtain
  rw [Run.get_bind_apply]
  cases s.instances.find? f.serial with
  | some c => rfl
  | none =>
    refine f.make_unmarked.bind (fun made => ?_) s
    cases made with
    | error failure => exact fun _ => rfl
    | ok c => exact fun _ => rfl

theorem declareFilters_unmarked (components : ComponentFactory) (entries : List Config.FilterEntry)
    (declared : Dict String FilterConfig) :
    (Registry.declareFilters components entries declared).Unmarked := by
  induction entries generalizing declared with
  | nil => exact .pure _
  | cons entry rest ih =>
    unfold Registry.declareFilters
    split
    · exact .pure _
    · exact .bind (fun _ => rfl) fun _ => ih _

theorem makeWrappers_unmarked (components : ComponentFactory) (entries : List Config.ServletEntry) :
    (Registry.makeWrappers components entries).Unmarked := by
  induction entries with
  | nil => exact .pure _
  | cons entry rest ih =>
    unfold Registry.makeWrappers
    split
    · exact .pure _
    · refine (makeComponent_unmarked _ _ _).bind fun made => ?_
      cases made with
      | error failure => exact .pure _
      | ok servlet => exact ih.bind fun _ => .pure _

theorem Registry.build_unmarked (config : Config) (components : ComponentFactory) :
    (Registry.build config components).Unmarked := by
  refine (declareFilters_unmarked components config.filters {}).bind fun declared => ?_
  split
  · exact .pure _
  · split
    · exact .pure _
    · refine (makeWrappers_unmarked components config.servlets).bind fun made => ?_
      split
      · exact .pure _
      · split
        · exact .pure _
        · exact fun _ => rfl

/-! ### Entering a traversal -/

theorem reportUndeclared_unmarked (registry : Registry) (servlet : String) (names : List String) :
    (Chain.reportUndeclared registry servlet names).Unmarked := by
  unfold Chain.reportUndeclared
  induction names.filter fun name => (registry.filters.find? name).isNone with
  | nil => exact .pure _
  | cons name rest ih => exact (Run.Unmarked.log _ _ _).bind fun _ => ih

theorem populate_uncounted (registry : Registry) (wrapper : Wrapper) :
    (Chain.populate registry wrapper).Uncounted := by
  intro s
  unfold Chain.populate
  rw [Run.modify_bind_apply]
  split
  · rw [Run.get_bind_apply]
    exact (reportUndeclared_unmarked registry wrapper.name _).uncounted.bind (fun _ _ => rfl) _
  · rfl

theorem enter_uncounted (p : Nat) (registry : Registry) (wrapper : Wrapper) :
    (Pipeline.enter p registry wrapper).Uncounted :=
  .bind (fun _ => rfl) fun _ => .bind (fun _ => rfl) fun _ =>
    (populate_uncounted registry wrapper).bind fun _ _ => rfl

/-! ### Letting go and reloading -/

theorem FilterConfig.release_marks (f : FilterConfig) (s : Container) :
    (f.release s).marks = s.marks := by
  unfold FilterConfig.release
  split <;> rfl

theorem foldl_marks {step : Container → α → Container} (each : ∀ s a, (step s a).marks = s.marks)
    (as : List α) (s : Container) : (as.foldl step s).marks = s.marks := by
  induction as generalizing s with
  | nil => rfl
  | cons a rest ih => exact (ih (step s a)).trans (each s a)

theorem Registry.destroy_marks (r : Registry) (s : Container) : (r.destroy s).marks = s.marks := by
  unfold Registry.destroy
  dsimp only
  refine (foldl_marks (fun t w => ?_) r.wrappers _).trans
    (foldl_marks (fun t f => ?_) r.filters.values s)
  · rfl
  · exact f.release_marks t

theorem Registry.letGo_marks (r : Registry) (s : Container) : (r.letGo s).marks = s.marks := by
  unfold Registry.letGo
  dsimp only
  split
  · rfl
  · exact r.destroy_marks _

theorem Container.updatePipeline_marks (s : Container) (p : Nat) (f : Pipeline → Pipeline) :
    (s.updatePipeline p f).marks = s.marks := by
  obtain ⟨pipelines, frame⟩ := updatePipeline_frame s p f
  rw [frame]
  rfl

theorem Pipeline.swapRegistry_marks (p : Nat) (r : Registry) (s : Container) :
    (Pipeline.swapRegistry p r s).marks = s.marks := by
  unfold Pipeline.swapRegistry
  split
  · exact (Registry.letGo_marks _ _).trans (s.updatePipeline_marks p _)
  · rfl

theorem Pipeline.reload_unmarked (p : Nat) (config : Config) :
    (Pipeline.reload p config).Unmarked := by
  intro s
  unfold Pipeline.reload
  rw [Run.get_bind_apply]
  cases s.pipelines.find? p with
  | none => rfl
  | some x =>
    refine (Registry.build_unmarked config x.components).bind (fun built => ?_) s
    have swapped : ∀ r, (modify (Pipeline.swapRegistry p r) : Run Unit).Unmarked :=
      fun r => Pipeline.swapRegistry_marks p r
    have updated : ∀ f, (modify (·.updatePipeline p f) : Run Unit).Unmarked :=
      fun f t => t.updatePipeline_marks p f
    cases built with
    | error e => exact .pure _
    | ok r =>
      have installed := (swapped r).bind fun _ => (updated fun p =>
          { p with
            trackLastServiced := config.isolation.trackLastServiced
            pool := p.pool.clear }).bind fun _ =>
        (Run.Unmarked.log .info "Pipeline registry reloaded" []).bind fun _ =>
          .pure (.ok () : Except RegistryError Unit)
      dsimp only
      split
      · exact (Run.Unmarked.log _ _ _).bind fun _ => installed
      · exact installed

end ServletFilters
