import ServletFilters.Text.Folding

/-!
# Dispatcher kinds

How a request came to the component that sees it now.
-/

namespace ServletFilters

inductive Dispatcher where
  | request
  | forward
  | inclusion
  | async
  | error
  deriving DecidableEq, Repr, Inhabited

structure UnknownDispatcher where
  text : String
  deriving DecidableEq, Repr

namespace UnknownDispatcher

/-- The name is shown as it was given, blanks included. -/
def message (e : UnknownDispatcher) : String := "unknown dispatcher type: " ++ e.text

end UnknownDispatcher

namespace Dispatcher

def all : List Dispatcher := [.request, .forward, .inclusion, .async, .error]

def name : Dispatcher → String
  | .request => "REQUEST"
  | .forward => "FORWARD"
  | .inclusion => "INCLUDE"
  | .async => "ASYNC"
  | .error => "ERROR"

def label : Dispatcher → String
  | .request => "Request"
  | .forward => "Forward"
  | .inclusion => "Include"
  | .async => "Async"
  | .error => "Error"

/-- Reads a name, in any letter case and with blanks around it. -/
def parse (text : String) : Except UnknownDispatcher Dispatcher :=
  match all.find? fun d => Text.equalFold d.name (Text.trim text) with
  | some d => .ok d
  | none => .error ⟨text⟩

theorem mem_all (d : Dispatcher) : d ∈ all := by cases d <;> decide

theorem parse_eq_ok_iff {text : String} {d : Dispatcher} :
    parse text = .ok d ↔ Text.fold (Text.trim text) = Text.fold d.name := by
  unfold parse all
  generalize Text.trim text = t
  have names : ∀ x y : Dispatcher, Text.fold x.name = Text.fold y.name → x = y := by
    intro x y
    cases x <;> cases y <;> decide
  constructor
  · intro h
    split at h
    · rename_i found hf
      have hp := List.find?_some hf
      simp only [Text.equalFold_iff] at hp
      injection h with h
      subst h
      exact hp.symm
    · exact absurd h (by simp)
  · intro h
    split
    · rename_i found hf
      have hp := List.find?_some hf
      simp only [Text.equalFold_iff] at hp
      exact congrArg Except.ok (names _ _ (hp.trans h))
    · rename_i hf
      have := List.find?_eq_none.1 hf d (mem_all d)
      simp [Text.equalFold_iff, h] at this

end Dispatcher

end ServletFilters
