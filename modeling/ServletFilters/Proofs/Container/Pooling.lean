import ServletFilters.Proofs.Parallel.Service

/-!
The pool of a pipeline cannot be seen by components that do not ask how much room their chain has.
Whatever its limit, the same uses are reported alike, but for how often the pool had a chain and for
that room, `reports_unpooled`.
-/

namespace ServletFilters

/-- An event without what the pool has to do with: whether it had a chain, and how much room that
chain has. -/
def Event.unpooled : Event → Event
  | .measured (.poolAcquired _) => .measured (.poolAcquired false)
  | .observed who (.chain view) => .observed who (.chain { view with capacity := 0 })
  | e => e

def Report.unpooled (r : Report) : Report := { r with events := r.events.map Event.unpooled }

namespace Margin

/-- Runs of which all is the same but maybe their pools, and in which some of the pipelines are looked
at. -/
def pooling (room : Prop) (executor : Option Executor) (chosen : Nat → Prop) : Margin where
  exact := True
  room
  failure := Eq
  raised := Eq
  executor
  executor' := executor
  pipeline p q := p = q ∧ chosen p
  early _ := False
  first _ := False
  second _ := False
  failure_refl _ := rfl
  kind := by rintro f _ rfl; rfl
  message := by rintro f _ rfl; rfl
  raised_of_failure := id
  classify := by rintro f _ rfl stage; rfl
  classifyPrivileged := by rintro f _ rfl; rfl
  plan _ _ := Plan.like_self _
  pooled := .inl rfl
  warned := .inl rfl
  pipeline_iff := by rintro p _ p' _ ⟨rfl, -⟩ ⟨rfl, -⟩; rfl
  early_events := False.elim

variable {room : Prop} {executor : Option Executor} {chosen : Nat → Prop}

theorem even_pooling {components : ComponentFactory} (rooms : room ∨ components.Roomless) :
    (pooling room executor chosen).Even components := by
  constructor
  · rintro name cls found d a b equal
    obtain rfl := equal trivial
    exact making_refl fun p made => Program.like_self rfl
      (rooms.imp_right fun only => only.filter found d a p made) (.inl trivial)
  · rintro name cls found entry a b equal
    obtain rfl := equal trivial
    exact making_refl fun p made => Program.like_self rfl
      (rooms.imp_right fun only => only.servlet found entry a p made) (.inl trivial)

/-- In runs that are the same in all, a component goes the same way as itself. -/
theorem component_pooling (c : Component) : c.Like (pooling True executor chosen) c :=
  ⟨rfl, rfl, Program.like_self rfl (.inl trivial) (.inl trivial), fun _ => rfl⟩

theorem Retold.unpooled {e e' : Event} (h : (pooling room executor chosen).Retold e e') :
    e'.unpooled = e.unpooled := by
  rcases h.exact_cases trivial And.left with rfl | ⟨who, v, w, equal, rfl, rfl⟩ |
    ⟨who, f, g, same, rfl, rfl⟩ | ⟨hit, hit', rfl, rfl⟩
  · rfl
  · have emptied := congrArg (fun v : ChainView => { v with capacity := 0 }) equal
    exact congrArg (fun v => Event.observed who (.chain v)) emptied
  · rw [show f = g from same]
  · rfl

theorem Accord.unpooled {events events' : List Event}
    (h : (pooling room executor chosen).Accord events events') :
    events'.map Event.unpooled = events.map Event.unpooled := by
  induction h with
  | nil => rfl
  | both retold _ ih => rw [List.map_cons, List.map_cons, retold.unpooled, ih]
  | first only => exact only.elim
  | second only => exact only.elim

end Margin

theorem Report.Like.unpooled {room : Prop} {executor : Option Executor} {chosen : Nat → Prop}
    {r r' : Report} (h : r.Like (.pooling room executor chosen) r') : r'.unpooled = r.unpooled := by
  obtain ⟨request, response, lastServiced⟩ := h.exchange trivial And.left
  have answer := (h.answer.imp id fun like => like.eq rfl).eq
  unfold Report.unpooled
  rw [← answer, h.events.unpooled, request, response, lastServiced]

end ServletFilters
