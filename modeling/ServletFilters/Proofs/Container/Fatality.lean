import ServletFilters.Proofs.Container.Failures

/-!
Fatal failures on their way out. Components and executors may put invocations around them; a chain
takes off one of these, so that what is inside more of them comes out as the failure of a servlet,
`fatal_reported`.
-/

namespace ServletFilters

/-- The failure inside so many invocations. -/
def Failure.layered (f : Failure) : Nat → Failure
  | 0 => f
  | k + 1 => .invocation (f.layered k)

/-- What a failure is reported as that began as a fatal one: as that one, if there was one invocation
around it at most, and otherwise as the failure of a servlet that was caused by it. -/
def Failure.Reports (m : String) (layers : Nat) (f : Failure) : Prop :=
  if layers ≤ 1 then f = .fatal m
  else f.kind = .servlet ∧ (Failure.fatal m).message ∈ f.sources

theorem Failure.mem_sources_layered (f : Failure) (k : Nat) :
    f.message ∈ (f.layered k).message :: (f.layered k).sources := by
  induction k with
  | zero => exact List.mem_cons_self ..
  | succ k ih => exact List.mem_cons_of_mem _ ih

theorem Failure.classify_layered (stage : Stage) (m : String) (layers : Nat) :
    (((Failure.fatal m).layered layers).classify stage).Reports m layers := by
  rcases layers with _ | _ | k
  · exact rfl
  · exact rfl
  · unfold Reports
    rw [if_neg (by omega)]
    exact ⟨rfl, (Failure.fatal m).mem_sources_layered (k + 1)⟩

/-- An executor that runs each step once and hands on what comes of it, in one of the known ways. -/
inductive Relay where
  | none
  | direct
  | span
  | wrap
  deriving DecidableEq

namespace Relay

def executor : Relay → Option Executor
  | none => .none
  | direct => some .direct
  | span => some .span
  | wrap => some .wrap

/-- What the executor makes of a failure. -/
def mark : Relay → Failure → Failure
  | none, f => f
  | direct, f => f
  | span, .other cause => .invocation (.other cause)
  | span, f => f
  | wrap, f => .invocation f

/-- How many invocations the executor puts around a failure of a known kind. -/
def layers : Relay → Nat
  | wrap => 1
  | _ => 0

/-- The state in which the executor runs a step. -/
def enter (E : Relay) (operation : Operation) (s : Container) : Container :=
  if E = wrap then s.note (.executed operation s.request.principal) else s

theorem enter_chain (E : Relay) (operation : Operation) (s : Container) :
    (E.enter operation s).chain = s.chain := by
  unfold enter
  split <;> rfl

theorem privileged_fst {E : Relay} {s : Container} (set : s.chain.executor = E.executor)
    (operation : Operation) (step : Run Result) :
    (Traversal.privileged operation step s).1 =
      (step (E.enter operation s)).1.map (·.mapError E.mark) := by
  unfold Traversal.privileged
  rw [Run.get_bind_apply, set]
  rcases ran : step (E.enter operation s) with ⟨halt | failure | done, t⟩
  · cases E with
    | none => exact congrArg Prod.fst ran
    | _ => exact congrArg Prod.fst (Run.bind_of_error ran)
  · cases E with
    | none => exact congrArg Prod.fst ran
    | span =>
      refine (congrArg Prod.fst (Run.bind_of_ok ran)).trans ?_
      cases failure <;> rfl
    | _ => exact congrArg Prod.fst (Run.bind_of_ok ran)
  · cases E with
    | none => exact congrArg Prod.fst ran
    | _ => exact congrArg Prod.fst (Run.bind_of_ok ran)

theorem mark_layered (E : Relay) (m : String) (k : Nat) :
    E.mark ((Failure.fatal m).layered k) = (Failure.fatal m).layered (k + E.layers) := by
  cases E with
  | span => cases k <;> rfl
  | _ => rfl

/-- A failure of a known kind is not marked, but by the executor that marks every failure. -/
theorem mark_cases (E : Relay) {f : Failure} (plain : f.passesThrough = true) :
    E.mark f = f ∨ E.mark f = .invocation f := by
  cases E with
  | wrap => exact .inr rfl
  | span =>
    cases f with
    | other cause => cases plain
    | _ => exact .inl rfl
  | _ => exact .inl rfl

theorem classifyPrivileged_mark (E : Relay) {f : Failure} (plain : f.passesThrough = true) :
    (E.mark f).classifyPrivileged = f := by
  rcases E.mark_cases plain with same | around
  · rw [same]
    exact Failure.classifyPrivileged_of_passesThrough plain
  · rw [around]
    exact if_pos plain

/-- The executor around a step of the chain does not show, as the chain takes off again what it puts
around a failure. -/
theorem doFilter_fst {E : Relay} {s : Container} (set : s.chain.executor = E.executor)
    (calls : Calls) :
    (Traversal.doFilter calls s).1 = (Traversal.step calls (E.enter .doFilter s)).1 := by
  rw [doFilter_privileged]
  have privileged := privileged_fst set .doFilter (Traversal.step calls)
  rcases stepped : (Traversal.step calls (E.enter .doFilter s)).1 with halt | failure | done <;>
    rw [stepped] at privileged <;>
    rcases ran : Traversal.privileged .doFilter (Traversal.step calls) s with ⟨out, t⟩ <;>
    rw [ran] at privileged <;> obtain rfl : out = _ := privileged
  · exact congrArg Prod.fst (Run.bind_of_error ran)
  · refine (congrArg Prod.fst (Run.bind_of_ok ran)).trans ?_
    exact congrArg (fun f => Except.ok (Except.error f))
      (E.classifyPrivileged_mark (step_passesThrough stepped))
  · exact congrArg Prod.fst (Run.bind_of_ok ran)

/-- A failure of a component comes out of its chain as the executor has marked it and the chain has
presented it. -/
theorem doFilter_prepared {E : Relay} {s t : Container} {i : Invocation} {calls : Calls} {e : Failure}
    (set : s.chain.executor = E.executor)
    (ready : Traversal.prepare (E.enter .doFilter s) = (.ok (.ok i), t))
    (failed : (i.run calls (E.enter i.stage.operation t)).1 = .ok (.error e)) :
    (Traversal.doFilter calls s).1 = .ok (.error ((E.mark e).classify i.stage)) := by
  have still : t.chain.executor = E.executor := by
    have kept := prepare_executor (E.enter .doFilter s)
    rw [ready, enter_chain] at kept
    exact kept.trans set
  rw [doFilter_fst set, step_eq, Run.bind_of_ok ready, call_apply, privileged_fst still, failed]
  rfl

end Relay

theorem Failure.Reports.classify_mark {m : String} {layers : Nat} {f : Failure}
    (h : f.Reports m layers) (E : Relay) (stage : Stage) :
    ((E.mark f).classify stage).Reports m layers := by
  unfold Reports at h ⊢
  split
  · rename_i few
    rw [if_pos few] at h
    subst h
    cases E <;> rfl
  · rename_i many
    rw [if_neg many] at h
    obtain ⟨kind, caused⟩ := h
    have plain : f.passesThrough = true := by
      unfold passesThrough
      rw [kind]
    rcases E.mark_cases plain with same | around
    · rw [same, classify_of_passesThrough stage plain]
      exact ⟨kind, caused⟩
    · have presented : (Failure.invocation f).classify stage =
          .servletCaused stage.message (.failure f) :=
        if_neg (by simp [isFatal, kind])
      rw [around, presented]
      exact ⟨rfl, List.mem_cons_of_mem _ caused⟩

/-- A component fails with a fatal failure inside some invocations, or cannot be made for it; and around
it are only components that end as their call has ended, in chains with the known executors. The number
is that of the invocations around the failure when its chain presents it. -/
inductive Erupts (outside : Outside) (m : String) : Nat → Nat → Container → Prop where
  | raised {levels s i t k} {E : Relay} : s.chain.executor = E.executor →
      Traversal.prepare (E.enter .doFilter s) = (.ok (.ok i), t) →
      (i.run (callsAmid outside levels) (E.enter i.stage.operation t)).1 =
        .ok (.error ((Failure.fatal m).layered k)) →
      Erupts outside m (k + E.layers) levels s
  | unmade {levels s f k} {E : Relay} : s.chain.executor = E.executor →
      s.chain.filters[s.chain.position]? = some f →
      (f.obtain (E.enter .doFilter s).advance).1 = .ok (.error ((Failure.fatal m).layered k)) →
      Erupts outside m k levels s
  | handedOn {layers levels s i t call u v} {E : Relay} : s.chain.executor = E.executor →
      Traversal.prepare (E.enter .doFilter s) = (.ok (.ok i), t) →
      (call, u) ∈ i.made (callsAmid outside (levels + 1)) (E.enter i.stage.operation t) →
      v ∈ call.starts (meanwhile outside u).2 → Erupts outside m layers levels v →
      (i.run (callsAmid outside (levels + 1)) (E.enter i.stage.operation t)).1 =
        (callsAmid outside (levels + 1) call u).1 →
      Erupts outside m layers (levels + 1) s

theorem Erupts.doFilter {outside : Outside} {m : String} {layers levels : Nat} {s : Container}
    (h : Erupts outside m layers levels s) :
    ∃ f, (Traversal.doFilter (callsAmid outside levels) s).1 = .ok (.error f) ∧ f.Reports m layers := by
  induction h with
  | @raised levels s i t k E set ready failed =>
    refine ⟨_, Relay.doFilter_prepared set ready failed, ?_⟩
    rw [E.mark_layered]
    exact Failure.classify_layered i.stage m _
  | @unmade levels s f k E set next failed =>
    refine ⟨_, ?_, Failure.classify_layered .filter m k⟩
    rcases made : f.obtain (E.enter .doFilter s).advance with ⟨out, t⟩
    rw [made] at failed
    obtain rfl : out = _ := failed
    have next : (E.enter .doFilter s).chain.filters[(E.enter .doFilter s).chain.position]? = some f := by
      rw [E.enter_chain]
      exact next
    rw [Relay.doFilter_fst set, step_eq, Run.bind_apply, prepare_filter next, Traversal.prepareFilter,
      Run.bind_of_ok made]
    rfl
  | @handedOn layers levels s i t call u v E set ready _ start _ same ih =>
    obtain ⟨f, inner, reports⟩ := ih
    rw [callsAmid_starts start, inner] at same
    exact ⟨_, Relay.doFilter_prepared set ready same, reports.classify_mark E i.stage⟩

/-- Going on from this state, and each dispatch and each service that comes to it, ends with this
failure. -/
structure Emerges (outside : Outside) (levels : Nat) (s : Container) (f : Failure) : Prop where
  doFilter : (Traversal.doFilter (callsAmid outside levels) s).1 = .ok (.error f)
  dispatch : ∀ p dispatcher target outer, s ∈ Pipeline.dispatchStarts p dispatcher target outer →
    (Pipeline.dispatch (callsAmid outside levels) p dispatcher target outer).1 = .ok (.error f)
  service : ∀ p outer, s ∈ Pipeline.serviceStarts (callsAmid outside levels) p outer →
    (Pipeline.serviceWith (callsAmid outside levels) p outer).1 = .ok (.error (.chain f))

theorem emerges_of_doFilter {outside : Outside} {levels : Nat} {s : Container} {f : Failure}
    (failed : (Traversal.doFilter (callsAmid outside levels) s).1 = .ok (.error f)) :
    Emerges outside levels s f where
  doFilter := failed
  dispatch := fun _ _ _ _ start => (dispatch_fst start).trans failed
  service := by
    intro p outer start
    rcases serviceWith_traverses (callsAmid outside levels) p outer with
      ⟨none, -⟩ | ⟨x, w, -, -, starts, same, -⟩
    · rw [none] at start
      cases start
    · rw [starts] at start
      rw [same, traverse_fails start failed]
      rfl

/-- A fatal failure that the components around its origin hand on is reported as it is, if there is one
invocation around it at most when the chain of its origin presents it: the ones that the component has
put there, and another one where the executor that marks every failure runs that component. With more
of them it is reported as the failure of a servlet that was caused by the fatal one. -/
theorem fatal_reported {outside : Outside} {m : String} {layers levels : Nat} {s : Container}
    (h : Erupts outside m layers levels s) :
    (layers ≤ 1 → Emerges outside levels s (.fatal m)) ∧
      (1 < layers → ∃ f, f.kind = .servlet ∧ (Failure.fatal m).message ∈ f.sources ∧
        Emerges outside levels s f) := by
  obtain ⟨f, failed, reports⟩ := h.doFilter
  unfold Failure.Reports at reports
  constructor
  · intro few
    rw [if_pos few] at reports
    subst reports
    exact emerges_of_doFilter failed
  · intro many
    rw [if_neg (by omega)] at reports
    exact ⟨f, reports.1, reports.2, emerges_of_doFilter failed⟩

theorem Invocation.passing (calls : Calls) (serial : Nat) (name : String) (s : Container) :
    let i : Invocation := { stage := .filter, component := { serial, name, program := .proceed .finish } }
    (.proceed, s.invoke .filter i.component) ∈ i.made calls s ∧
      (i.run calls s).1 = (calls .proceed (s.invoke .filter i.component)).1 :=
  ⟨List.mem_append_left _ (List.mem_singleton_self _),
    congrArg Prod.fst (congrFun (bind_pure (calls .proceed)) _)⟩

/-- A filter that fails in this way. -/
def failing (serial : Nat) (f : Failure) : FilterConfig where
  serial
  definition := { name := "inner", className := "inner" }
  source := .made ⟨false, fun _ _ => .ready (.fail f)⟩

/-- A filter hands on what the one behind it fails with, and the executor marks every failure: it runs
each filter, and the chain for each of them. -/
def crater : Container where
  nextSerial := 4
  chain := { filters := [passing 1 "outer", failing 2 (.fatal "full")], executor := some .wrap }

theorem fatal_reported_crater :
    (Traversal.doFilter (callsAmid (fun _ => []) 2) crater).1 = .ok (.error (.fatal "full")) := by
  obtain ⟨called, handed⟩ := Invocation.passing (callsAmid (fun _ => []) 2) 4 "outer"
    (Relay.enter .wrap .doFilter (Traversal.prepare (Relay.enter .wrap .doFilter crater)).2)
  have inner : Erupts (fun _ => []) "full" 1 1 _ :=
    .raised (k := 0) (E := .wrap) (s := (Relay.enter .wrap .doFilter
      (Traversal.prepare (Relay.enter .wrap .doFilter crater)).2).invoke .filter
        { serial := 4, name := "outer", program := .proceed .finish }) rfl rfl rfl
  have outer : Erupts (fun _ => []) "full" 1 2 crater :=
    .handedOn (E := .wrap) rfl rfl called (List.mem_singleton_self _) inner handed
  exact ((fatal_reported outer).1 (Nat.le_refl 1)).doFilter

/-- Two invocations around a fatal failure are too many, also without an executor. -/
theorem fatal_not_reported :
    ¬ ∀ (m : String) (layers levels : Nat) (s : Container), Erupts (fun _ => []) m layers levels s →
      (Traversal.doFilter (callsAmid (fun _ => []) levels) s).1 = .ok (.error (.fatal m)) := by
  intro always
  let smothered : Container :=
    { nextSerial := 2, chain := { filters := [failing 1 (.invocation (.invocation (.fatal "full")))] } }
  have erupts : Erupts (fun _ => []) "full" 2 1 smothered :=
    .raised (k := 2) (E := .none) rfl rfl rfl
  have reported := always "full" 2 1 smothered erupts
  exact absurd reported (by decide +kernel)

end ServletFilters
