import ServletFilters.Journal.Event

/-!
# Executors

An executor runs a step of a chain on behalf of the request's principal. Its plan says whether
and how often the step is run and what is answered in the end.
-/

namespace ServletFilters

/-- What an executor does about a step. Panics unwind through the chain untouched, so no plan goes on
once its step has panicked. Nor does an executor keep anything from one call to the next: the plan is
given by the operation and the principal. -/
inductive Plan where
  /-- Answers. -/
  | finish (result : Result)
  /-- Breaks off all that is going on. -/
  | panic (message : String)
  /-- Reports the call. -/
  | report (next : Plan)
  /-- Runs the step, and goes on with what came of it. -/
  | run (next : Result → Plan)

abbrev Executor := Operation → Option String → Plan

namespace Executor

def direct : Executor := fun _ _ => .run .finish

/-- Runs the step; a failure of no known kind is marked as one from inside an invocation. -/
def span : Executor := fun _ _ => .run fun
  | .error (.other cause) => .finish (.error (.invocation (.other cause)))
  | result => .finish result

def trace : Executor := fun _ _ => .report (.run .finish)

/-- Reports the call, runs the step and marks every failure as one from inside an invocation. -/
def wrap : Executor := fun _ _ => .report (.run fun result => .finish (result.mapError .invocation))

def deny : Executor := fun operation _ =>
  .report (.finish (.error (.other (.text (operation.name ++ " denied")))))

/-- Reports the call, runs the step, and runs it again if that succeeded. -/
def twice : Executor := fun _ _ => .report (.run fun
  | .ok () => .run .finish
  | .error f => .finish (.error f))

end Executor

end ServletFilters
