import ServletFilters.Routing.Dispatcher
import ServletFilters.Text.Quoted

/-!
# Sets of dispatcher kinds

The kinds a mapping applies to, kept as the bits of a number. `contains_insert` and
`contains_ofList` say which kinds are in a set.
-/

namespace ServletFilters

structure DispatcherSet where
  bits : Nat := 0
  deriving DecidableEq, Repr, Inhabited

namespace DispatcherSet

def place : Dispatcher → Nat
  | .error => 0
  | .forward => 1
  | .inclusion => 2
  | .request => 3
  | .async => 4

def empty : DispatcherSet := ⟨0⟩

def insert (s : DispatcherSet) (d : Dispatcher) : DispatcherSet := ⟨s.bits ||| 1 <<< place d⟩

def contains (s : DispatcherSet) (d : Dispatcher) : Bool := s.bits.testBit (place d)

def isEmpty (s : DispatcherSet) : Bool := s.bits == 0

/-- The set of the listed kinds; no kind at all stands for requests. -/
def ofList (kinds : List Dispatcher) : DispatcherSet :=
  let s := kinds.foldl insert empty
  if s.isEmpty then empty.insert .request else s

def toList (s : DispatcherSet) : List Dispatcher := Dispatcher.all.filter s.contains

def shown (s : DispatcherSet) : String := Text.shownSet (s.toList.map Dispatcher.label)

theorem place_injective {a b : Dispatcher} : place a = place b → a = b := by
  cases a <;> cases b <;> decide

@[simp] theorem contains_empty (d : Dispatcher) : empty.contains d = false := by
  simp [contains, empty]

theorem contains_insert (s : DispatcherSet) (a b : Dispatcher) :
    (s.insert a).contains b = (s.contains b || decide (a = b)) := by
  simp only [contains, insert, Nat.testBit_or, Nat.shiftLeft_eq, Nat.one_mul, Nat.testBit_two_pow]
  congr 1
  exact decide_eq_decide.mpr ⟨place_injective, congrArg place⟩

theorem contains_foldl_insert (kinds : List Dispatcher) (s : DispatcherSet) (d : Dispatcher) :
    (kinds.foldl insert s).contains d = (s.contains d || decide (d ∈ kinds)) := by
  induction kinds generalizing s with
  | nil => simp
  | cons a rest ih => simp [ih, contains_insert, Bool.or_assoc, eq_comm]

theorem not_isEmpty_of_contains {s : DispatcherSet} {d : Dispatcher} (h : s.contains d = true) :
    s.isEmpty = false := by
  cases s with
  | mk bits =>
    simp only [isEmpty, beq_eq_false_iff_ne, ne_eq]
    intro zero
    simp [contains, zero] at h

theorem isEmpty_foldl_insert (kinds : List Dispatcher) :
    (kinds.foldl insert empty).isEmpty = kinds.isEmpty := by
  cases kinds with
  | nil => rfl
  | cons a rest =>
    rw [not_isEmpty_of_contains (d := a)]
    · rfl
    · rw [contains_foldl_insert]
      simp

/-- The kinds of a set are those listed, and requests where none is listed. -/
theorem contains_ofList (kinds : List Dispatcher) (d : Dispatcher) :
    (ofList kinds).contains d = if kinds = [] then decide (d = .request) else decide (d ∈ kinds) := by
  unfold ofList
  simp only [isEmpty_foldl_insert]
  cases kinds with
  | nil => simp [contains_insert, eq_comm]
  | cons a rest =>
    simp only [List.isEmpty_cons, Bool.false_eq_true, ↓reduceIte, reduceCtorEq]
    rw [contains_foldl_insert]
    simp

end DispatcherSet

end ServletFilters
