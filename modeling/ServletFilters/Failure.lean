/-!
# Failures of a traversal

What can go wrong while filters and servlets run, and how a failure that comes out of a
component is presented by the chain around it: failures of the four plain kinds stay as they
are, all others become the cause of a servlet failure.
-/

namespace ServletFilters

mutual
/-- A failure raised by a component, an executor or the chain itself. -/
inductive Failure where
  /-- Reading or writing failed. -/
  | io (text : String)
  /-- A component reports that it cannot go on. -/
  | servlet (message : String)
  /-- The same, caused by another error. -/
  | servletCaused (message : String) (cause : Cause)
  /-- A rule of use was broken. -/
  | runtime (message : String)
  /-- Nothing should go on after this. -/
  | fatal (message : String)
  /-- A failure inside an action that an executor ran. -/
  | invocation (inner : Failure)
  /-- An error of no known kind. -/
  | other (cause : Cause)
/-- What caused a failure: an error that is only text, or another failure. -/
inductive Cause where
  | text (text : String)
  | failure (inner : Failure)
end

deriving instance DecidableEq, Repr for Failure, Cause

instance : Inhabited Failure := ⟨.runtime ""⟩

abbrev Result := Except Failure Unit

inductive FailureKind where
  | io
  | servlet
  | runtime
  | fatal
  | invocation
  | other
  deriving DecidableEq, Repr

def FailureKind.name : FailureKind → String
  | .io => "io"
  | .servlet => "servlet"
  | .runtime => "runtime"
  | .fatal => "fatal"
  | .invocation => "invocation"
  | .other => "other"

namespace Failure

def kind : Failure → FailureKind
  | .io _ => .io
  | .servlet _ => .servlet
  | .servletCaused _ _ => .servlet
  | .runtime _ => .runtime
  | .fatal _ => .fatal
  | .invocation _ => .invocation
  | .other _ => .other

def isFatal (f : Failure) : Bool := f.kind == .fatal

/-- Failures of these kinds leave a chain unchanged. -/
def passesThrough (f : Failure) : Bool :=
  match f.kind with
  | .io | .servlet | .runtime | .fatal => true
  | .invocation | .other => false

end Failure

mutual
def Failure.message : Failure → String
  | .io text => "I/O failure: " ++ text
  | .servlet message => message
  | .servletCaused message _ => message
  | .runtime message => message
  | .fatal message => "fatal: " ++ message
  | .invocation inner => "invocation failed: " ++ inner.message
  | .other cause => cause.message
def Cause.message : Cause → String
  | .text text => text
  | .failure inner => inner.message
end

mutual
/-- The texts of the errors behind a failure, the nearest first. -/
def Failure.sources : Failure → List String
  | .io text => [text]
  | .servlet _ => []
  | .servletCaused _ cause => cause.messages
  | .runtime _ => []
  | .fatal _ => []
  | .invocation inner => inner.message :: inner.sources
  | .other cause => cause.messages
def Cause.messages : Cause → List String
  | .text text => [text]
  | .failure inner => inner.message :: inner.sources
end

def Failure.cause? : Failure → Option Cause
  | .servletCaused _ cause => some cause
  | _ => none

inductive Stage where
  | filter
  | servlet
  deriving DecidableEq, Repr

def Stage.message : Stage → String
  | .filter => "Filter execution threw an exception"
  | .servlet => "Servlet execution threw an exception"

namespace Failure

/-- What the chain reports for a failure that a component raised. -/
def classify (stage : Stage) : Failure → Failure
  | .invocation inner =>
    if inner.isFatal then inner else .servletCaused stage.message (.failure inner)
  | .other cause => .servletCaused stage.message cause
  | f => f

def unwrapped : Failure → Failure
  | .invocation inner => inner
  | f => f

/-- What the chain reports for a failure that came out of an executor: one layer of invocation
is taken off, and what is still not of a plain kind becomes a cause under its own text. -/
def classifyPrivileged (f : Failure) : Failure :=
  if f.unwrapped.passesThrough then f.unwrapped
  else .servletCaused f.unwrapped.message (.failure f.unwrapped)

theorem classify_of_passesThrough {f : Failure} (stage : Stage) (h : f.passesThrough = true) :
    f.classify stage = f := by
  cases f with
  | invocation inner => simp [passesThrough, kind] at h
  | other cause => simp [passesThrough, kind] at h
  | _ => rfl

theorem passesThrough_of_isFatal {f : Failure} (h : f.isFatal = true) : f.passesThrough = true := by
  cases f with
  | fatal message => rfl
  | _ => simp [isFatal, kind] at h

theorem passesThrough_classify (f : Failure) (stage : Stage) :
    (f.classify stage).passesThrough = true := by
  cases f with
  | invocation inner =>
    by_cases h : inner.isFatal = true
    · simpa [classify, h] using passesThrough_of_isFatal h
    · simp [classify, h, passesThrough, kind]
  | _ => rfl

theorem passesThrough_classifyPrivileged (f : Failure) :
    f.classifyPrivileged.passesThrough = true := by
  unfold classifyPrivileged
  split
  · assumption
  · rfl

end Failure

end ServletFilters
