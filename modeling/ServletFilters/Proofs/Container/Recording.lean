import ServletFilters.Proofs.Container.Restoring
import ServletFilters.Proofs.Container.Unfolding

/-!
The record of what is being serviced, told from the calls of servlets that are going on,
`record_innermost`.
-/

namespace ServletFilters

/-- A call of a servlet that is going on. -/
structure Session where
  exchange : Nat × Nat
  tracked : Bool
  /-- Whether the call of a tracked servlet has ended inside this one. -/
  outlived : Bool := false
  deriving DecidableEq

namespace Session

def outlive (ended : Bool) (x : Session) : Session := { x with outlived := x.outlived || ended }

/-- The calls that are going on after an incident, the innermost first. -/
def after (going : List Session) : Incident × Container → List Session
  | (.opens tracked, s) => { exchange := s.exchange, tracked } :: going
  | (.closes tracked, _) => going.tail.map (outlive tracked)
  | _ => going

/-- The exchange of the innermost tracked call, unless a tracked call inside it has ended. -/
def record (going : List Session) : Option (Nat × Nat) :=
  match going.find? (·.tracked) with
  | some x => if x.outlived then none else some x.exchange
  | none => none

theorem map_outlive_false (going : List Session) : going.map (outlive false) = going := by
  have same : outlive false = id := funext fun x => by simp [outlive]
  rw [same, List.map_id]

theorem map_outlive_outlive (a b : Bool) (going : List Session) :
    (going.map (outlive a)).map (outlive b) = going.map (outlive (a || b)) := by
  rw [List.map_map]
  exact congrArg (going.map ·) (funext fun x => by simp [outlive, Bool.or_assoc])

theorem record_outlived (going : List Session) : record (going.map (outlive true)) = none := by
  unfold record
  cases found : (going.map (outlive true)).find? (·.tracked) with
  | none => rfl
  | some x =>
    obtain ⟨y, -, rfl⟩ := List.mem_map.1 (List.mem_of_find?_eq_some found)
    simp [outlive]

theorem foldl_serves (told : Chronicle) (tracked : Bool) (s t : Container) (going : List Session) :
    ((Incident.opens tracked, s) :: told ++ [(Incident.closes tracked, t)]).foldl after going =
      (told.foldl after ({ exchange := s.exchange, tracked } :: going)).tail.map (outlive tracked) := by
  rw [List.foldl_append]
  rfl

end Session

/-- A run ends in the calls that it began in, which have been outlived or not. -/
theorem Unfolds.sessions {s t : Container} {told : Chronicle} (h : Unfolds s told t) :
    ∃ ended, ∀ going : List Session, told.foldl Session.after going = going.map (Session.outlive ended) := by
  have idle := fun going => (Session.map_outlive_false going).symm
  induction h with
  | still unmoved => exact ⟨false, idle⟩
  | acts s who action => exact ⟨false, idle⟩
  | reaches here => exact ⟨false, idle⟩
  | resumes suspended => exact ⟨false, idle⟩
  | visits begins inside ih | responds response inside ih => exact ih
  | serves tracked inside ih =>
    obtain ⟨ended, run⟩ := ih
    refine ⟨ended || tracked, fun going => ?_⟩
    rw [Session.foldl_serves, run]
    exact Session.map_outlive_outlive ended tracked going
  | append first rest ih₁ ih₂ =>
    obtain ⟨ended₁, run₁⟩ := ih₁
    obtain ⟨ended₂, run₂⟩ := ih₂
    refine ⟨ended₁ || ended₂, fun going => ?_⟩
    rw [List.foldl_append, run₁, run₂, Session.map_outlive_outlive]

def Recorded (going : List Session) (s : Container) : Prop := s.lastServiced = Session.record going

theorem perform_lastServiced (who : Component) (action : Action) (s : Container) :
    (action.perform who s).2.lastServiced = s.lastServiced := by
  cases action with
  | startAsync =>
    change Container.lastServiced (if s.request.asyncSupported then _ else _ : _ × Container).2 = _
    split <;> rfl
  | _ => rfl

theorem meet_lastServiced (r : Reached) (s : Container) :
    (s.meet r).lastServiced = s.lastServiced := by
  unfold Container.meet Traversal.downgrade
  rw [Run.modify_apply]
  split <;> rfl

/-- What is on record all along a run that begins amid some calls. -/
theorem Unfolds.recorded {s t : Container} {told : Chronicle} (h : Unfolds s told t) :
    ∀ going, Recorded going s →
      Chronicle.Along Session.after Recorded going told ∧
      Recorded (told.foldl Session.after going) t := by
  induction h with
  | still unmoved =>
    exact fun going now => ⟨trivial, unmoved.lastServiced.trans now⟩
  | acts s who action =>
    exact fun going now => ⟨⟨now, trivial⟩, (perform_lastServiced who action s).trans now⟩
  | @reaches s r here =>
    exact fun going now => ⟨⟨now, trivial⟩, (meet_lastServiced r s).trans now⟩
  | resumes suspended => exact fun going now => ⟨⟨now, trivial⟩, now⟩
  | @visits w s u t told begins inside ih =>
    intro going now
    have begun : Recorded going u := begins.lastServiced.trans now
    obtain ⟨along, last⟩ := ih going begun
    exact ⟨⟨now, along⟩, last⟩
  | responds response inside ih => exact ih
  | @serves s t told tracked inside ih =>
    intro going now
    let own : Session := { exchange := s.exchange, tracked }
    obtain ⟨ended, run⟩ := inside.sessions
    have opened : Recorded (own :: going) (s.openRecord tracked) := by
      cases tracked with
      | false => exact now
      | true => rfl
    obtain ⟨along, last⟩ := ih (own :: going) opened
    refine ⟨⟨now, (Chronicle.along_append told _ _).2 ⟨along, last, trivial⟩⟩, ?_⟩
    rw [run] at last
    rw [Session.foldl_serves, run, List.map_cons, List.tail_cons]
    -- the end of a tracked call empties the record and outlives all calls around it
    cases tracked with
    | true => exact (Session.record_outlived _).symm
    | false =>
      rw [Session.map_outlive_false]
      exact last
  | append first rest ih₁ ih₂ =>
    intro going now
    obtain ⟨along, last⟩ := ih₁ going now
    obtain ⟨along', last'⟩ := ih₂ _ last
    exact ⟨(Chronicle.along_append _ _ going).2 ⟨along, along'⟩, by rwa [List.foldl_append]⟩

/-! ### Hosts -/

theorem Errand.recorded (errand : Errand) (outside : Outside) (levels : Nat) {s : Container}
    (clear : s.lastServiced = none) :
    Chronicle.Along Session.after Recorded [] (errand.chronicle outside levels s) ∧
      (errand.leaves outside levels s).lastServiced = none := by
  have unfolds := errand.unfolds outside levels s
  obtain ⟨along, last⟩ := unfolds.recorded [] clear
  obtain ⟨ended, run⟩ := unfolds.sessions
  rw [run] at last
  exact ⟨along, last⟩

/-- A tracked servlet includes another one, with a response of its own, and looks at the exchange
afterwards. -/
def nested : Host :=
  .run [.openPipeline
      { isolation := { trackLastServiced := true }
        servlets :=
          [{ name := "desk", className := "desk", urlPatterns := ["/desk"] },
            { name := "page", className := "page", urlPatterns := ["/page"] }] }
      { servlets := ⟨[("desk", ⟨false, fun _ _ => .ready
            (.withResponse {} (.dispatch .inclusion (.path "/page") .finish) fun r _ =>
              .look fun _ => .finish r)⟩),
          ("page", ⟨false, fun _ _ => .ready (.look fun _ => .done)⟩)]⟩ } none,
    .request { uri := "/desk" }]

end ServletFilters
