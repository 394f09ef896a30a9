import ServletFilters.Proofs.Container.Metering

/-!
The accounts of a pipeline that has no executor. Its metrics grow by what its work and its failures
come to, and its journal tells of just that work, `metrics_account`.
-/

namespace ServletFilters

/-! ### What work comes to -/

namespace Work

/-- The registry on which a traversal starts, by its number. -/
def registry? : Work → Option Nat
  | .start registry _ _ _ => some registry
  | .call _ _ => none

/-- The length of a chain that was populated from mappings. Without any mappings, none is populated. -/
def length? : Work → Option Nat
  | .start _ mapped length _ => if mapped then some length else none
  | .call _ _ => none

def isOwn : Work → Bool
  | .start _ _ _ own => own
  | .call _ _ => false

def call? : Work → Option (Stage × String)
  | .start _ _ _ _ => none
  | .call stage name => some (stage, name)

end Work

namespace Mark

def registry? : Mark → Option Nat
  | .traversed r => some r
  | _ => none

def call? : Mark → Option (Stage × String)
  | .invoked stage name => some (stage, name)
  | _ => none

def length? : Mark → Option Nat
  | .measured m => m.length?
  | _ => none

def measures (f : Measurement → Bool) : Mark → Bool
  | .measured m => f m
  | _ => false

end Mark

def Measurement.isPool : Measurement → Bool
  | .poolAcquired _ => true
  | _ => false

namespace Work

theorem marks_registry (w : Work) : w.marks.filterMap Mark.registry? = w.registry?.toList := by
  cases w with
  | start r mapped length own => cases own <;> cases mapped <;> rfl
  | call stage name => cases stage <;> rfl

theorem marks_length (w : Work) : w.marks.filterMap Mark.length? = w.length?.toList := by
  cases w with
  | start r mapped length own => cases own <;> cases mapped <;> rfl
  | call stage name => cases stage <;> rfl

theorem marks_own (w : Work) :
    w.marks.countP (Mark.measures Measurement.isPool) = if w.isOwn then 1 else 0 := by
  cases w with
  | start r mapped length own => cases own <;> cases mapped <;> rfl
  | call stage name => cases stage <;> rfl

theorem marks_call (w : Work) : w.marks.filterMap Mark.call? = w.call?.toList := by
  cases w with
  | start r mapped length own => cases own <;> cases mapped <;> rfl
  | call stage name => cases stage <;> rfl

end Work

theorem filterMap_marks {φ : Mark → Option α} {ψ : Work → Option α}
    (each : ∀ w : Work, w.marks.filterMap φ = (ψ w).toList) (works : List Work) :
    (works.flatMap Work.marks).filterMap φ = works.filterMap ψ := by
  induction works with
  | nil => rfl
  | cons w rest ih =>
    rw [List.flatMap_cons, List.filterMap_append, each, ih]
    cases ran : ψ w with
    | none => rw [List.filterMap_cons_none ran, Option.toList_none, List.nil_append]
    | some a => rw [List.filterMap_cons_some ran, Option.toList_some, List.singleton_append]

theorem countP_marks {f : Mark → Bool} {g : Work → Bool}
    (each : ∀ w : Work, w.marks.countP f = if g w then 1 else 0) (works : List Work) :
    (works.flatMap Work.marks).countP f = works.countP g := by
  induction works with
  | nil => rfl
  | cons w rest ih =>
    rw [List.flatMap_cons, List.countP_append, each, ih, List.countP_cons, Nat.add_comm]

/-! ### What a journal tells -/

namespace Container

def metrics (s : Container) : Metrics := .ofJournal s.journal

/-- The registries that were traversed, in the order of time. -/
def traversed (s : Container) : List Nat := s.marks.reverse.filterMap Mark.registry?

/-- The components that were called, in the order of time. -/
def called (s : Container) : List (Stage × String) := s.marks.reverse.filterMap Mark.call?

end Container

/-- What is measured can be counted in the marks, as far as it does not matter whether the pool had a
chain. -/
theorem countP_measurements {f : Measurement → Bool}
    (blind : f (.poolAcquired true) = f (.poolAcquired false)) (s : Container) :
    (Journal.measurements s.journal).countP f = s.marks.countP (Mark.measures f) := by
  unfold Journal.measurements Container.marks
  rw [List.countP_filterMap, List.countP_filterMap, List.countP_reverse]
  refine List.countP_congr fun e _ => ?_
  cases e with
  | measured m =>
    cases m with
    | poolAcquired hit => cases hit <;> simp [Event.mark?, Mark.measures, blind]
    | _ => rfl
  | _ => rfl

theorem count_metrics (s : Container) {y : Measurement} (plain : ∀ hit, y ≠ .poolAcquired hit) :
    s.metrics.count y.counter =
      s.marks.countP (Mark.measures fun x => x.unsized == y.unsized) := by
  unfold Container.metrics Metrics.ofJournal
  rw [Metrics.count_foldl, ← countP_measurements]
  · exact Nat.zero_add _
  · have other : ∀ hit, (Measurement.poolAcquired hit).unsized ≠ y.unsized := by
      intro hit same
      cases y with
      | poolAcquired hit' => exact plain hit' rfl
      | _ => cases same
    rw [beq_false_of_ne (other true), beq_false_of_ne (other false)]

/-- How often a chain was asked of the pool, whether it had one or not. -/
def Metrics.pooled (m : Metrics) : Nat :=
  m.count "pipeline_pool_acquire_total\x7boutcome=hit\x7d" +
    m.count "pipeline_pool_acquire_total\x7boutcome=miss\x7d"

theorem pooled_metrics (s : Container) :
    s.metrics.pooled = s.marks.countP (Mark.measures Measurement.isPool) := by
  have either : ∀ xs : List Measurement,
      (xs.countP fun x => x.unsized == .poolAcquired true) +
        (xs.countP fun x => x.unsized == .poolAcquired false) = xs.countP Measurement.isPool := by
    intro xs
    induction xs with
    | nil => rfl
    | cons x rest ih =>
      rw [List.countP_cons, List.countP_cons, List.countP_cons, ← ih]
      cases x with
      | poolAcquired hit =>
        cases hit with
        | true => exact Nat.add_right_comm _ 1 _
        | false => exact (Nat.add_assoc _ _ 1).symm
      | _ => rfl
  have hits := Metrics.count_foldl (Journal.measurements s.journal) {} (.poolAcquired true)
  have misses := Metrics.count_foldl (Journal.measurements s.journal) {} (.poolAcquired false)
  rw [← countP_measurements rfl, ← either]
  exact (congrArg₂ (· + ·) hits misses).trans
    (congrArg₂ (· + ·) (Nat.zero_add _) (Nat.zero_add _))

theorem chainLengths_metrics (s : Container) :
    s.metrics.chainLengths = s.marks.reverse.filterMap Mark.length? := by
  unfold Container.metrics Metrics.ofJournal Container.marks Journal.measurements
  rw [Metrics.chainLengths_foldl, ← List.filterMap_reverse, List.filterMap_filterMap,
    List.filterMap_filterMap]
  refine (List.nil_append _).trans (List.filterMap_congr fun e _ => ?_)
  cases e with
  | measured m => cases m <;> rfl
  | _ => rfl

/-! ### Accounts -/

/-- From one state to another the metrics grow by what this work and these failures come to, and it is
this work that was written down. -/
structure Accounts (works : List Work) (failures : List Failure) (s t : Container) : Prop where
  chains : t.metrics.count "pipeline_chains_built_total" =
    s.metrics.count "pipeline_chains_built_total" + (works.filterMap Work.length?).length
  lengths : t.metrics.chainLengths = s.metrics.chainLengths ++ works.filterMap Work.length?
  pooled : t.metrics.pooled = s.metrics.pooled + works.countP Work.isOwn
  filters (name : String) :
    t.metrics.count ("pipeline_filter_invocations_total\x7bfilter=" ++ name ++ "\x7d") =
      s.metrics.count ("pipeline_filter_invocations_total\x7bfilter=" ++ name ++ "\x7d") +
        (works.filterMap Work.call?).count (.filter, name)
  servlets : t.metrics.count "pipeline_servlet_invocations_total" =
    s.metrics.count "pipeline_servlet_invocations_total" +
      ((works.filterMap Work.call?).map Prod.fst).count .servlet
  failures (kind : FailureKind) :
    t.metrics.count ("pipeline_chain_failures_total\x7bkind=" ++ kind.name ++ "\x7d") =
      s.metrics.count ("pipeline_chain_failures_total\x7bkind=" ++ kind.name ++ "\x7d") +
        (failures.map Failure.kind).count kind
  traversed : t.traversed = s.traversed ++ works.filterMap Work.registry?
  called : t.called = s.called ++ works.filterMap Work.call?

namespace Accounts

variable {s t u : Container}

theorem refl (s : Container) : Accounts [] [] s s :=
  ⟨rfl, (List.append_nil _).symm, rfl, fun _ => rfl, rfl, fun _ => rfl, (List.append_nil _).symm,
    (List.append_nil _).symm⟩

theorem trans {works later : List Work} {failures others : List Failure}
    (h₁ : Accounts works failures s t) (h₂ : Accounts later others t u) :
    Accounts (works ++ later) (failures ++ others) s u := by
  constructor
  · rw [h₂.chains, h₁.chains, List.filterMap_append, List.length_append, Nat.add_assoc]
  · rw [h₂.lengths, h₁.lengths, List.filterMap_append, List.append_assoc]
  · rw [h₂.pooled, h₁.pooled, List.countP_append, Nat.add_assoc]
  · intro name
    rw [h₂.filters, h₁.filters, List.filterMap_append, List.count_append, Nat.add_assoc]
  · rw [h₂.servlets, h₁.servlets, List.filterMap_append, List.map_append, List.count_append,
      Nat.add_assoc]
  · intro kind
    rw [h₂.failures, h₁.failures, List.map_append, List.count_append, Nat.add_assoc]
  · rw [h₂.traversed, h₁.traversed, List.filterMap_append, List.append_assoc]
  · rw [h₂.called, h₁.called, List.filterMap_append, List.append_assoc]

end Accounts

section Balancing

variable {s t : Container}

theorem Marked.countP {marks : List Mark} (h : Marked marks s t) (f : Mark → Bool) :
    t.marks.countP f = s.marks.countP f + marks.countP f := by
  rw [h, List.countP_append, List.countP_reverse, Nat.add_comm]

theorem Marked.filterMap {marks : List Mark} (h : Marked marks s t) (φ : Mark → Option α) :
    t.marks.reverse.filterMap φ = s.marks.reverse.filterMap φ ++ marks.filterMap φ := by
  rw [h, List.reverse_append, List.reverse_reverse, List.filterMap_append]

theorem filterMap_failures {φ : Mark → Option α} (blind : ∀ f : Failure, φ f.mark = none)
    (failures : List Failure) : (failures.map Failure.mark).filterMap φ = [] := by
  rw [List.filterMap_eq_nil_iff]
  intro mark member
  obtain ⟨f, -, rfl⟩ := List.mem_map.1 member
  exact blind f

theorem countP_failures {f : Mark → Bool} (blind : ∀ failure : Failure, f failure.mark = false)
    (failures : List Failure) : (failures.map Failure.mark).countP f = 0 := by
  rw [List.countP_eq_zero]
  intro mark member
  obtain ⟨failure, -, rfl⟩ := List.mem_map.1 member
  rw [blind failure]
  exact Bool.false_ne_true

variable {works : List Work} {failures : List Failure}
  (h : Marked (works.flatMap Work.marks ++ failures.map Failure.mark) s t)
include h

/-- What is read off the marks grows by what is read off the work, if no failure tells of it. -/
theorem Marked.filterMap_work {φ : Mark → Option α} {ψ : Work → Option α}
    (faultless : ∀ f : Failure, φ f.mark = none)
    (each : ∀ w : Work, w.marks.filterMap φ = (ψ w).toList) :
    t.marks.reverse.filterMap φ = s.marks.reverse.filterMap φ ++ works.filterMap ψ := by
  rw [h.filterMap, List.filterMap_append, filterMap_failures faultless, List.append_nil,
    filterMap_marks each]

/-- A counter grows by its measurements in the work, if no failure has any. -/
theorem Marked.count_work {y : Measurement} (plain : ∀ hit, y ≠ .poolAcquired hit)
    (faultless : ∀ kind, (Measurement.chainFailed kind).unsized ≠ y.unsized) {g : Work → Bool}
    (each : ∀ w : Work, (w.marks.countP (Mark.measures fun x => x.unsized == y.unsized)) =
      if g w then 1 else 0) :
    t.metrics.count y.counter = s.metrics.count y.counter + works.countP g := by
  have none := countP_failures (f := Mark.measures fun x => x.unsized == y.unsized)
    (fun failure => beq_false_of_ne (faultless failure.kind)) failures
  rw [count_metrics t plain, count_metrics s plain, h.countP, List.countP_append, countP_marks each,
    none]
  rfl

/-- The counter of a kind of failures grows by the failures of that kind, and by no work. -/
theorem Marked.count_failures (kind : FailureKind) :
    t.metrics.count (Measurement.chainFailed kind).counter =
      s.metrics.count (Measurement.chainFailed kind).counter +
        (failures.map Failure.kind).count kind := by
  let counted : Mark → Bool :=
    Mark.measures fun x => x.unsized == (Measurement.chainFailed kind).unsized
  have idle : ∀ w : Work, w.marks.countP counted = if false then 1 else 0 := by
    intro w
    cases w with
    | start r mapped length own => cases own <;> cases mapped <;> rfl
    | call stage name => cases stage <;> rfl
  have failed : failures.countP (counted ∘ Failure.mark) = (failures.map Failure.kind).count kind := by
    rw [List.count_eq_countP, List.countP_map]
    refine List.countP_congr fun failure _ => ?_
    change ((Measurement.chainFailed failure.kind == .chainFailed kind) = true) ↔
      ((failure.kind == kind) = true)
    rw [beq_iff_eq, beq_iff_eq]
    exact ⟨fun same => by injection same, congrArg Measurement.chainFailed⟩
  have told : t.marks.countP counted =
      s.marks.countP counted + (failures.map Failure.kind).count kind := by
    rw [h.countP, List.countP_append, countP_marks idle, List.countP_map, failed, List.countP_false,
      Function.const_apply, Nat.zero_add]
  rw [count_metrics t (by rintro hit ⟨⟩), count_metrics s (by rintro hit ⟨⟩)]
  exact told

theorem Marked.accounts : Accounts works failures s t := by
  constructor
  · rw [List.length_filterMap_eq_countP]
    refine h.count_work (y := .chainBuilt 0) (by rintro hit ⟨⟩) (by rintro kind ⟨⟩) fun w => ?_
    cases w with
    | start r mapped length own => cases own <;> cases mapped <;> rfl
    | call stage name => cases stage <;> rfl
  · rw [chainLengths_metrics, chainLengths_metrics]
    exact h.filterMap_work (fun _ => rfl) Work.marks_length
  · rw [pooled_metrics, pooled_metrics, h.countP, List.countP_append, countP_failures fun _ => rfl,
      countP_marks Work.marks_own, Nat.add_zero]
  · intro name
    rw [List.count_filterMap]
    refine h.count_work (y := .filterInvoked name) (by rintro hit ⟨⟩) (by rintro kind ⟨⟩) fun w => ?_
    cases w with
    | start r mapped length own => cases own <;> cases mapped <;> rfl
    | call stage other =>
      cases stage <;>
        simp [Work.marks, Stage.measurement, List.countP_cons, Mark.measures, Work.call?,
          Measurement.unsized]
  · rw [List.count_eq_countP, List.countP_map, List.countP_filterMap]
    refine h.count_work (y := .servletInvoked) (by rintro hit ⟨⟩) (by rintro kind ⟨⟩) fun w => ?_
    cases w with
    | start r mapped length own => cases own <;> cases mapped <;> rfl
    | call stage other => cases stage <;> rfl
  · exact h.count_failures
  · exact h.filterMap_work (fun _ => rfl) Work.marks_registry
  · exact h.filterMap_work (fun _ => rfl) Work.marks_call

end Balancing

/-! ### Pipelines without an executor -/

/-- The uses of a pipeline account for the metrics, by induction on the uses. -/
theorem Tenure.accounts {start : Config} {components : ComponentFactory} {p : Nat} {s : Container}
    (h : Tenure start components none p s) (uses : List Use) :
    Accounts (s.works p uses) ((s.reports p uses).filterMap Report.failure?) s
      (uses.foldl (Container.use p) s) := by
  induction uses generalizing s with
  | nil => exact .refl s
  | cons u rest ih =>
    obtain ⟨i, old, old', self⟩ := h.self
    obtain ⟨x, found, -⟩ := h.pipeline
    have told : (s.reports p (u :: rest)).filterMap Report.failure? =
        (s.report p u).failure?.toList ++ ((s.use p u).reports p rest).filterMap Report.failure? := by
      change (s.report p u :: (s.use p u).reports p rest).filterMap Report.failure? = _
      cases failed : (s.report p u).failure? with
      | none => exact List.filterMap_cons_none failed
      | some failure => exact List.filterMap_cons_some failed
    rw [told]
    exact (use_marked self found u).accounts.trans (ih (h.use u))

/-- Whatever a pipeline without an executor was used for before, for any further uses its metrics grow
by what they come to. A chain is counted only where the registry has filter mappings. -/
theorem metrics_account {config : Config} {components : ComponentFactory} {options : PipelineOptions}
    {p : Nat} (opened : (Pipeline.openFor config components options {}).1 = .ok (.ok p))
    (direct : options.executor = none) (past uses : List Use) :
    let before := past.foldl (Container.use p) (.opened config components options)
    Accounts (before.works p uses) ((before.reports p uses).filterMap Report.failure?) before
      (uses.foldl (Container.use p) before) := by
  have tenure := tenure_opened opened
  rw [direct] at tenure
  exact (tenure.uses past).accounts uses

/-- A servlet and no filters. -/
def bareSite : Config where
  servlets := [{ name := "page", className := "echo", urlPatterns := ["/x"] }]

theorem metrics_account_bare :
    let before := Container.opened bareSite .builtin {}
    let uses := [.request { uri := "/x" }, .service 33]
    let after := uses.foldl (Container.use 3) before
    (Pipeline.openFor bareSite .builtin {} {}).1 = .ok (.ok 3) ∧
      before.works 3 uses = [.start 2 false 0 true, .call .servlet "page"] ∧
      after.traversed = before.traversed ++ [2] ∧
      after.metrics.count "pipeline_chains_built_total" =
        before.metrics.count "pipeline_chains_built_total" ∧
      after.metrics.pooled = before.metrics.pooled + 1 ∧
      after.metrics.count "pipeline_servlet_invocations_total" =
        before.metrics.count "pipeline_servlet_invocations_total" + 1 := by
  intro before uses after
  have opened : (Pipeline.openFor bareSite .builtin {} {}).1 = .ok (.ok 3) := by decide +kernel
  have accounts := metrics_account opened rfl [] uses
  have works : before.works 3 uses = [.start 2 false 0 true, .call .servlet "page"] := by
    decide +kernel
  have done := accounts.traversed
  have chains := accounts.chains
  have pooled := accounts.pooled
  have servlets := accounts.servlets
  rw [show ([] : List Use).foldl (Container.use 3) (.opened bareSite .builtin {}) = before from rfl,
    works] at done chains pooled servlets
  exact ⟨opened, works, done, chains, pooled, servlets⟩

end ServletFilters
