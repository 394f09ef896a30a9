import ServletFilters.Proofs.Component.Evenness
import ServletFilters.Proofs.Parallel.Service

/-!
The executors that add nothing of their own cannot be told from none, `reports_privileged`: all that
scripted and built-in components do and report is the same, but for one more layer around the cause
of a failure of unknown kind, and for the room of chains, which are never taken out of a pool.
-/

namespace ServletFilters

/-- The failure looks the same, or was of unknown kind when an executor that spans its steps passed
it on: then its cause has one more layer. -/
inductive Failure.Lifted (spanning : Bool) : Failure → Failure → Prop where
  | same (f) : Lifted spanning f f
  | wrapped (stage : Stage) (cause) : spanning = true →
      Lifted spanning (.servletCaused stage.message cause)
        (.servletCaused stage.message (.failure (.other cause)))

/-- Failures of one kind, with one text and one root; a layer may have come in between. -/
structure Failure.Presented (spanning : Bool) (f g : Failure) : Prop where
  kind : g.kind = f.kind
  message : g.message = f.message
  root : g.sources.getLast? = f.sources.getLast?
  lifted : f.Lifted spanning g

/-- What a component is called for or reports is the same, but for failures and the room of chains. -/
inductive Event.Presented (spanning : Bool) : Event → Event → Prop where
  | same (e) : Presented spanning e e
  | viewed (who) {v w : ChainView} : { w with capacity := v.capacity } = v →
      Presented spanning (.observed who (.chain v)) (.observed who (.chain w))
  | caught (who) {f g} : f.Presented spanning g →
      Presented spanning (.observed who (.caught f)) (.observed who (.caught g))

/-- Whether an event is about the pool or about the way of execution. -/
def Event.ofExecution : Event → Bool
  | .measured (.poolAcquired _) => true
  | .logged entry => entry = .executionChanged
  | _ => false

inductive Answer.Presented (spanning : Bool) : Answer → Answer → Prop where
  | same (a) : Presented spanning a a
  | unserviced {f g} : f.Presented spanning g →
      Presented spanning (.serviced (.error (.chain f))) (.serviced (.error (.chain g)))
  | undispatched {f g} : f.Presented spanning g →
      Presented spanning (.dispatched (.error f)) (.dispatched (.error g))

/-- Reports that cannot be told apart but by the layers of failures and the room of chains. -/
structure Report.Presented (spanning : Bool) (r r' : Report) : Prop where
  answer : Ends Eq (Answer.Presented spanning) r.answer r'.answer
  events : List.Forall₂ (Event.Presented spanning) (r.events.filter (!·.ofExecution))
    (r'.events.filter (!·.ofExecution))
  request : r'.request = r.request
  response : r'.response = r.response
  lastServiced : r'.lastServiced = r.lastServiced

theorem Cause.messages_ne_nil (cause : Cause) : cause.messages ≠ [] := by
  cases cause <;> simp [Cause.messages]

theorem Failure.Lifted.presented {spanning : Bool} {f g : Failure} (h : f.Lifted spanning g) :
    f.Presented spanning g := by
  cases h with
  | same => exact ⟨rfl, rfl, rfl, .same f⟩
  | wrapped stage cause spans =>
    refine ⟨rfl, rfl, ?_, .wrapped stage cause spans⟩
    change (cause.message :: cause.messages).getLast? = cause.messages.getLast?
    obtain ⟨text, rest, causes⟩ := List.exists_cons_of_ne_nil cause.messages_ne_nil
    rw [causes, List.getLast?_cons_cons]

namespace Margin

def executing (spanning : Bool) : Executor := if spanning then .span else .direct

def privileged (spanning : Bool) : Margin where
  exact := True
  room := False
  failure := Failure.Lifted spanning
  raised f g := f.Lifted spanning g ∨
    (spanning = true ∧ ∃ cause, f = .other cause ∧ g = .invocation (.other cause))
  executor := none
  executor' := some (executing spanning)
  pipeline := Eq
  early _ := False
  first e := e.ofExecution = true
  second e := e.ofExecution = true
  failure_refl := .same
  kind h := h.presented.kind
  message h := h.presented.message
  raised_of_failure := .inl
  classify := by
    rintro f g (lifted | ⟨spans, cause, rfl, rfl⟩) stage
    · cases lifted with
      | same => exact .same _
      | wrapped stage cause spans => exact .wrapped stage cause spans
    · exact .wrapped stage cause spans
  classifyPrivileged := by
    rintro f g (lifted | ⟨spans, cause, rfl, rfl⟩)
    · cases lifted with
      | same => exact .same _
      | wrapped stage cause spans => exact .wrapped stage cause spans
    · exact .same _
  plan := by
    intro operation principal
    cases spanning with
    | false => exact .run fun r r' ends => .finish (ends.imp .inl id)
    | true =>
      refine .run fun r r' ends => ?_
      cases ends with
      | ok same => exact .finish (.ok rfl)
      | @error f g lifted =>
        cases lifted with
        | wrapped stage cause spans => exact .finish (.error (.inl (.wrapped stage cause spans)))
        | same =>
          cases f with
          | other cause => exact .finish (.error (.inr ⟨rfl, cause, rfl, rfl⟩))
          | _ => exact .finish (.error (.inl (.same _)))
  pooled := .inr ⟨id, rfl, rfl, fun _ => rfl⟩
  warned := .inr ⟨by decide, by decide⟩
  pipeline_iff := by rintro p _ p' _ rfl rfl; rfl
  early_events := False.elim

variable {spanning : Bool}

theorem Retold.presented {e e' : Event} (h : (privileged spanning).Retold e e') :
    e'.ofExecution = e.ofExecution ∧ (e.ofExecution = false → e.Presented spanning e') := by
  rcases h.exact_cases trivial id with rfl | ⟨who, v, w, equal, rfl, rfl⟩ |
    ⟨who, f, g, lifted, rfl, rfl⟩ | ⟨hit, hit', rfl, rfl⟩
  · exact ⟨rfl, fun _ => .same e⟩
  · exact ⟨rfl, fun _ => .viewed who equal⟩
  · exact ⟨rfl, fun _ => .caught who (Failure.Lifted.presented lifted)⟩
  · exact ⟨rfl, by rintro ⟨⟩⟩

theorem Accord.presented {events events' : List Event}
    (h : (privileged spanning).Accord events events') :
    List.Forall₂ (Event.Presented spanning) (events.filter (!·.ofExecution))
      (events'.filter (!·.ofExecution)) := by
  induction h with
  | nil => exact .nil
  | @both e e' _ _ retold _ ih =>
    obtain ⟨even, presented⟩ := retold.presented
    rw [List.filter_cons, List.filter_cons, even]
    cases of : e.ofExecution with
    | true => exact ih
    | false => exact .cons (presented of) ih
  | first only _ ih =>
    rw [List.filter_cons_of_neg (by rw [show Event.ofExecution _ = true from only]; decide)]
    exact ih
  | second only _ ih =>
    rw [List.filter_cons_of_neg (by rw [show Event.ofExecution _ = true from only]; decide)]
    exact ih

end Margin

theorem Answer.Like.presented {spanning : Bool} {a a' : Answer}
    (h : a.Like (.privileged spanning) a') : a.Presented spanning a' := by
  cases h with
  | done => exact .same _
  | reloaded result => exact .same _
  | dispatched ends =>
    cases ends with
    | ok same => exact same ▸ .same _
    | error lifted => exact .undispatched (Failure.Lifted.presented lifted)
  | serviced ends =>
    cases ends with
    | ok same => exact same ▸ .same _
    | error like =>
      cases like with
      | notFound path => exact .same _
      | chain lifted => exact .unserviced (Failure.Lifted.presented lifted)

theorem Report.Like.presented {spanning : Bool} {r r' : Report}
    (h : r.Like (.privileged spanning) r') : r.Presented spanning r' := by
  obtain ⟨request, response, lastServiced⟩ := h.exchange trivial id
  exact ⟨h.answer.imp id fun like => like.presented, h.events.presented, request, response,
    lastServiced⟩

/-- Running all steps directly or in spans is running them without an executor: uses are answered
with the same events and the same exchange, and no chain ever comes to be idle. -/
theorem reports_privileged (config : Config) (scripts : Script.Library) (classes : List String)
    (options : PipelineOptions) (spanning : Bool) (p : Nat) (uses : List Use) :
    let components := ComponentFactory.builtin.withScripts scripts classes
    let plain := Container.opened config components { options with executor := none }
    let privileged := Container.opened config components
      { options with executor := some (if spanning then .span else .direct) }
    List.Forall₂ (Report.Presented spanning) (plain.reports p uses) (privileged.reports p uses) ∧
      ∀ x, (uses.foldl (Container.use p) privileged).pipelines.find? p = some x →
        ∀ servlet, x.pool.idleCount servlet = 0 := by
  dsimp only
  obtain ⟨i, parallel, unrecorded⟩ := opened_parallel (m := .privileged spanning) config
    (Margin.even_components trivial scripts classes) { options with executor := none }
    { options with executor := some (if spanning then .span else .direct) } rfl rfl rfl False.elim
    fun _ => rfl
  obtain ⟨likes, ⟨j, old, old', -, after⟩, -, -⟩ :=
    uses_like (show p = p from rfl) parallel unrecorded uses
  refine ⟨likes.imp fun _ _ like => like.presented, ?_⟩
  intro y found servlet
  rcases rel_cases (after.pipelines (show p = p from rfl)) with ⟨-, none⟩ | ⟨x, z, -, some, like⟩
  · rw [none] at found
    cases found
  · obtain rfl := Option.some.inj (found.symm.trans some)
    cases idle : y.pool.chains servlet with
    | nil => exact congrArg List.length idle
    | cons c rest =>
      have plain := (like.tidy' servlet c (idle ▸ List.mem_cons_self ..)).1
      rw [like.executor'] at plain
      cases plain

end ServletFilters
