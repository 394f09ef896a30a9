import Mathlib.Data.List.Basic
import ServletFilters.Journal.Report

/-!
Metrics as counts of measurements. Measurements go to one counter only if they are the same but for a
size, `counter_inj`, so a counter says how many of its own there were, `foldl_count`.
-/

namespace ServletFilters

theorem FailureKind.name_inj {k l : FailureKind} (same : k.name = l.name) : k = l := by
  revert same
  cases k <;> cases l <;> decide

namespace Measurement

def length? : Measurement → Option Nat
  | .chainBuilt length => some length
  | _ => none

/-- The measurement without the size of what was measured, which no counter tells. -/
def unsized : Measurement → Measurement
  | .chainBuilt _ => .chainBuilt 0
  | x => x

theorem counter_unsized (x : Measurement) : x.unsized.counter = x.counter := by
  cases x <;> rfl

/-- As much of the name of a counter as tells the five sorts of measurements apart. -/
def family : Measurement → String
  | .chainBuilt _ => "pipeline_chains"
  | .filterInvoked _ => "pipeline_filter"
  | .servletInvoked => "pipeline_servle"
  | .chainFailed _ => "pipeline_chain_"
  | .poolAcquired _ => "pipeline_pool_a"

theorem take_counter (x : Measurement) : x.counter.toList.take 15 = x.family.toList := by
  have labelled : ∀ base label : String, 15 ≤ base.toList.length →
      (base ++ label ++ "\x7d").toList.take 15 = base.toList.take 15 := by
    intro base label long
    rw [String.toList_append, String.toList_append, List.append_assoc,
      List.take_append_of_le_length long]
  cases x with
  | chainBuilt length =>
    change "pipeline_chains_built_total".toList.take 15 = "pipeline_chains".toList
    decide
  | servletInvoked =>
    change "pipeline_servlet_invocations_total".toList.take 15 = "pipeline_servle".toList
    decide
  | filterInvoked name =>
    refine (labelled "pipeline_filter_invocations_total\x7bfilter=" name (by decide)).trans ?_
    change _ = "pipeline_filter".toList
    decide
  | chainFailed kind =>
    refine (labelled "pipeline_chain_failures_total\x7bkind=" kind.name (by decide)).trans ?_
    change _ = "pipeline_chain_".toList
    decide
  | poolAcquired hit =>
    refine (labelled "pipeline_pool_acquire_total\x7boutcome=" _ (by decide)).trans ?_
    change _ = "pipeline_pool_a".toList
    decide

theorem label_inj {base label label' : String}
    (same : base ++ label ++ "\x7d" = base ++ label' ++ "\x7d") : label = label' := by
  have lists := congrArg String.toList same
  rw [String.toList_append, String.toList_append, String.toList_append, String.toList_append,
    List.append_left_inj, List.append_right_inj] at lists
  exact String.toList_inj.1 lists

/-- The measurements of a counter are those that are the same but for a size. -/
theorem counter_inj {x y : Measurement} : x.counter = y.counter ↔ x.unsized = y.unsized := by
  constructor
  · intro same
    have family : x.family = y.family := by
      rw [← String.toList_inj, ← take_counter, ← take_counter, same]
    cases x with
    | chainBuilt length =>
      cases y with
      | chainBuilt length' => rfl
      | _ => simp [Measurement.family] at family
    | servletInvoked =>
      cases y with
      | servletInvoked => rfl
      | _ => simp [Measurement.family] at family
    | filterInvoked name =>
      cases y with
      | filterInvoked name' => exact congrArg Measurement.filterInvoked (label_inj same)
      | _ => simp [Measurement.family] at family
    | chainFailed kind =>
      cases y with
      | chainFailed kind' =>
        exact congrArg Measurement.chainFailed (FailureKind.name_inj (label_inj same))
      | _ => simp [Measurement.family] at family
    | poolAcquired hit =>
      cases y with
      | poolAcquired hit' =>
        have label := label_inj same
        cases hit <;> cases hit' <;> first | rfl | exact absurd label (by decide)
      | _ => simp [Measurement.family] at family
  · intro same
    rw [← counter_unsized x, same, counter_unsized]

end Measurement

namespace Metrics

/-- What a counter has come to. -/
def count (m : Metrics) (counter : String) : Nat := (m.counters.find? counter).getD 0

theorem count_add (m : Metrics) (x : Measurement) (counter : String) :
    (m.add x).count counter = m.count counter + if x.counter = counter then 1 else 0 := by
  unfold count add
  rw [Dict.find?_insert]
  by_cases same : counter = x.counter
  · rw [if_pos same, if_pos same.symm, same]
    rfl
  · rw [if_neg same, if_neg (Ne.symm same)]
    rfl

/-- A counter goes up once for each measurement of its own. -/
theorem count_foldl (xs : List Measurement) (m : Metrics) (y : Measurement) :
    (xs.foldl add m).count y.counter =
      m.count y.counter + xs.countP fun x => x.unsized == y.unsized := by
  induction xs generalizing m with
  | nil => rfl
  | cons x rest ih =>
    rw [List.foldl_cons, ih, count_add, List.countP_cons]
    by_cases same : x.counter = y.counter
    · rw [if_pos same, if_pos (beq_iff_eq.2 (Measurement.counter_inj.1 same))]
      omega
    · rw [if_neg same, if_neg fun h => same (Measurement.counter_inj.2 (beq_iff_eq.1 h))]
      omega

theorem chainLengths_foldl (xs : List Measurement) (m : Metrics) :
    (xs.foldl add m).chainLengths = m.chainLengths ++ xs.filterMap Measurement.length? := by
  induction xs generalizing m with
  | nil => exact (List.append_nil _).symm
  | cons x rest ih =>
    rw [List.foldl_cons, ih]
    cases x with
    | chainBuilt length => exact List.append_assoc m.chainLengths [length] _
    | _ => rfl

end Metrics

end ServletFilters
