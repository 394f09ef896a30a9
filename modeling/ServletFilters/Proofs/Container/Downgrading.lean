import ServletFilters.Proofs.Container.Unfolding

/-!
The permission to suspend a request, which goes with the components that are reached: what is left of it
after an errand, `downgrade_exact`, and which suspensions it lets through, `suspensions_permitted`.
-/

namespace ServletFilters

namespace Incident

/-- Whether a component sets the permission by itself. -/
def setsPermission : Incident → Bool
  | .acts (.setAsyncSupported _) => true
  | _ => false

/-- Whether the mark of a suspension is taken back. -/
def unmarks : Incident → Bool
  | .acts .takeAsync => true
  | .resumes => true
  | _ => false

end Incident

namespace Chronicle

/-- No component sets the permission to suspend the request by itself. -/
def Unforced (told : Chronicle) : Prop := ∀ e ∈ told, e.1.setsPermission = false

instance (told : Chronicle) : Decidable told.Unforced :=
  inferInstanceAs (Decidable (∀ e ∈ told, e.1.setsPermission = false))

/-- No component that is reached takes the permission away. -/
def Permissive (told : Chronicle) : Prop := ∀ r ∈ told.reached, r.declines = false

instance (told : Chronicle) : Decidable told.Permissive :=
  inferInstanceAs (Decidable (∀ r ∈ told.reached, r.declines = false))

theorem permissive_iff (told : Chronicle) :
    told.Permissive ↔ told.reached.all (!·.declines) = true := by
  simp [Permissive]

theorem Unforced.earlier {before told : Chronicle} (unforced : told.Unforced)
    (earlier : before <+: told) : before.Unforced := fun e member => unforced e (earlier.subset member)

theorem replay_permission {told : Chronicle} (unforced : told.Unforced) (x : Watched) :
    (replay x told).asyncSupported = (x.asyncSupported && told.reached.all (!·.declines)) := by
  induction told generalizing x with
  | nil => exact (Bool.and_true _).symm
  | cons e rest ih =>
    obtain ⟨first, unforced⟩ := List.forall_mem_cons.1 unforced
    have after := ih unforced (x.after e.1)
    change (replay (x.after e.1) rest).asyncSupported = _
    rw [after]
    rcases e with ⟨m, s⟩
    cases m with
    | reaches r => exact Bool.and_assoc _ _ _
    | acts action =>
      cases action with
      | setAsyncSupported yes => cases first
      | _ => rfl
    | _ => rfl

end Chronicle

/-- What can have brought about a mark of a suspension. -/
theorem Watched.after_suspended (x : Watched) (m : Incident) (h : (x.after m).asyncStarted = true) :
    m.unmarks = false ∧
      (x.asyncStarted = true ∨ m = .acts .startAsync ∧ x.asyncSupported = true) := by
  cases m with
  | acts action =>
    cases action with
    | startAsync =>
      refine ⟨rfl, ?_⟩
      simp only [Watched.after, Bool.or_eq_true] at h
      exact h.symm.imp id fun permitted => ⟨rfl, permitted⟩
    | takeAsync => cases h
    | _ => exact ⟨rfl, .inl h⟩
  | resumes => cases h
  | _ => exact ⟨rfl, .inl h⟩

/-- A mark of a suspension was there from the start, or comes of a suspension that was permitted. -/
theorem Chronicle.replay_suspended {told : Chronicle} {x : Watched}
    (suspended : (replay x told).asyncStarted = true) :
    (x.asyncStarted = true ∧ ∀ e ∈ told, e.1.unmarks = false) ∨
      ∃ (before : Chronicle) (v : Container) (since : Chronicle),
        told = before ++ (.acts .startAsync, v) :: since ∧
        (replay x before).asyncSupported = true ∧ ∀ e ∈ since, e.1.unmarks = false := by
  induction told generalizing x with
  | nil => exact .inl ⟨suspended, List.forall_mem_nil _⟩
  | cons e rest ih =>
    rcases ih suspended with ⟨marked, kept⟩ | ⟨before, v, since, rfl, permitted, kept⟩
    · obtain ⟨keeps, earlier | ⟨asked, permitted⟩⟩ := x.after_suspended e.1 marked
      · exact .inl ⟨earlier, List.forall_mem_cons.2 ⟨keeps, kept⟩⟩
      · exact .inr ⟨[], e.2, rest, congrArg (·, e.2) asked ▸ rfl, permitted, kept⟩
    · exact .inr ⟨e :: before, v, since, rfl, permitted, kept⟩

/-- Whatever the components do and however the errand ends, the request may still be suspended if it
was before and no component that was reached, in this traversal or in one inside, takes that away. The
components that were reached are those whose calls the errand counts. -/
theorem downgrade_exact (errand : Errand) (outside : Outside) (levels : Nat) (s : Container)
    (unforced : (errand.chronicle outside levels s).Unforced) :
    (errand.leaves outside levels s).request.asyncSupported =
      (s.request.asyncSupported &&
        (errand.chronicle outside levels s).reached.all (!·.declines)) ∧
    (errand.leaves outside levels s).counted =
      ((errand.chronicle outside levels s).reached.map Reached.measurement).reverse ++ s.counted := by
  have unfolds := errand.unfolds outside levels s
  have permission := Chronicle.replay_permission unforced s.watched
  rw [← unfolds.replays.2] at permission
  exact ⟨permission, unfolds.counts⟩

/-- A host with a pipeline, and a request that may be suspended. -/
def suspendable (config : Config) (components : ComponentFactory) (uri : String) : Host :=
  .run [.openPipeline config components none, .request { uri, async := true }]

/-- The first servlet includes the second one, behind a filter that answers by itself, and breaks off. -/
def lobby : String → Host :=
  suspendable
    { filters := [{ name := "shut", className := "shut" }]
      filterMappings := [{ filterName := "shut", urlPatterns := ["/*"], dispatchers := ["INCLUDE"] }]
      servlets :=
        [{ name := "desk", className := "desk", urlPatterns := ["/desk"], asyncSupported := true },
          { name := "hall", className := "hall", urlPatterns := ["/hall"] }] }
    { filters := ⟨[("shut", ⟨false, fun _ _ => .ready .done⟩)]⟩
      servlets := ⟨[("desk", ⟨false, fun _ _ => .ready
          (.dispatch .inclusion (.path "/hall") fun _ => .panic "lost")⟩),
        ("hall", ⟨false, fun _ _ => .ready .done⟩)]⟩ }

/-- The second servlet takes the permission away where it is reached, and not where it is only ahead. -/
theorem downgrade_exact_lobby :
    ((Errand.service 5).leaves (fun _ => []) 2 (lobby "/desk").box).request.asyncSupported = true ∧
    ((Errand.service 5).leaves (fun _ => []) 2 (lobby "/hall").box).request.asyncSupported = false := by
  have left := fun uri => downgrade_exact (.service 5) (fun _ => []) 2 (lobby uri).box
  constructor
  · rw [(left "/desk" (by decide +kernel)).1]
    decide +kernel
  · rw [(left "/hall" (by decide +kernel)).1]
    decide +kernel

theorem startAsync_succeeds (who : Component) (s : Container) :
    (Action.startAsync.perform who s).1 = .ok (.ok () : Result) ↔
      s.request.asyncSupported = true := by
  change (if s.request.asyncSupported then _ else _ : Except Halt Result × Container).1 = _ ↔ _
  cases s.request.asyncSupported with
  | false => exact ⟨by rintro ⟨⟩, by rintro ⟨⟩⟩
  | true => exact ⟨fun _ => rfl, fun _ => rfl⟩

/-- An errand begins with a request that may be suspended. A component succeeds in suspending it exactly
if no component that was reached until then takes the permission away, whatever is still ahead in the
chain; and a pipeline goes on with it only after such a suspension, or one from before the errand. -/
theorem suspensions_permitted (errand : Errand) (outside : Outside) (levels : Nat) (s : Container)
    (capable : s.request.asyncSupported = true)
    (unforced : (errand.chronicle outside levels s).Unforced) :
    (∀ who before u,
      before ++ [(.acts .startAsync, u)] <+: errand.chronicle outside levels s →
      ((Action.startAsync.perform who u).1 = .ok (.ok () : Result) ↔
        Chronicle.Permissive before)) ∧
    ∀ before u, before ++ [(.resumes, u)] <+: errand.chronicle outside levels s →
      (s.request.asyncStarted = true ∧ ∀ e ∈ before, e.1.unmarks = false) ∨
        ∃ (earlier : Chronicle) (v : Container) (since : Chronicle),
          before = earlier ++ (.acts .startAsync, v) :: since ∧ earlier.Permissive ∧
          ∀ e ∈ since, e.1.unmarks = false := by
  have permitted : ∀ before, before <+: errand.chronicle outside levels s →
      ((Chronicle.replay s.watched before).asyncSupported = true ↔ Chronicle.Permissive before) := by
    intro before earlier
    rw [Chronicle.replay_permission (unforced.earlier earlier), Chronicle.permissive_iff]
    simp [Container.watched, capable]
  constructor
  · intro who before u here
    have watched := Errand.watched_at here
    rw [startAsync_succeeds, ← permitted before ((List.prefix_append _ _).trans here), ← watched]
    rfl
  · intro before u here
    have watched := Errand.watched_at here
    have member := here.subset (List.mem_append_right _ (List.mem_singleton_self _))
    have suspended : u.watched.asyncStarted = true :=
      (errand.unfolds outside levels s).sound _ member
    rw [watched] at suspended
    rcases Chronicle.replay_suspended suspended with earlier | ⟨earlier, v, since, rfl, granted, kept⟩
    · exact .inl earlier
    · have earlier' := (List.prefix_append earlier _).trans ((List.prefix_append _ _).trans here)
      exact .inr ⟨earlier, v, since, rfl, (permitted earlier earlier').1 granted, kept⟩

/-- A filter suspends the request before it goes on to a servlet that takes the permission away. -/
def hasty : Host :=
  suspendable
    { filters := [{ name := "early", className := "early", asyncSupported := some true }]
      filterMappings := [{ filterName := "early", urlPatterns := ["/*"] }]
      servlets := [{ name := "page", className := "page", urlPatterns := ["/page"] }] }
    { filters := ⟨[("early", ⟨false, fun _ _ => .ready (.startAsync fun _ => .proceed .finish)⟩)]⟩
      servlets := ⟨[("page", ⟨false, fun _ _ => .ready .done⟩)]⟩ } "/page"

/-- The incidents that `suspensions_permitted` is about, told apart by evaluation. -/
def Incident.asks : Incident → Bool
  | .acts .startAsync => true
  | _ => false

def Incident.isResumption : Incident → Bool
  | .resumes => true
  | _ => false

theorem Incident.eq_of_asks {m : Incident} (h : m.asks = true) : m = .acts .startAsync := by
  cases m with
  | acts action =>
    cases action with
    | startAsync => rfl
    | _ => cases h
  | _ => cases h

theorem Incident.eq_of_isResumption {m : Incident} (h : m.isResumption = true) : m = .resumes := by
  cases m with
  | resumes => rfl
  | _ => cases h

/-- The suspension succeeds in a chain with such a servlet, and the pipeline calls the servlet again. -/
theorem suspensions_permitted_hasty :
    (∃ before u,
      before ++ [(.acts .startAsync, u)] <+: (Errand.service 4).chronicle (fun _ => []) 2 hasty.box ∧
      u.chain.servletAsync = false ∧
      ∀ who, (Action.startAsync.perform who u).1 = .ok (.ok () : Result)) ∧
    ∃ before u,
      before ++ [(.resumes, u)] <+: (Errand.service 4).chronicle (fun _ => []) 2 hasty.box ∧
      ¬ Chronicle.Permissive before ∧
      ∃ (earlier : Chronicle) (v : Container) (since : Chronicle),
        before = earlier ++ (.acts .startAsync, v) :: since ∧ earlier.Permissive := by
  let told := (Errand.service 4).chronicle (fun _ => []) 2 hasty.box
  obtain ⟨succeeds, resumed⟩ := suspensions_permitted (.service 4) (fun _ => []) 2 hasty.box
    (by decide +kernel) (by decide +kernel)
  constructor
  · have here : (told[2]?.map fun e => (e.1.asks, e.2.chain.servletAsync)) = some (true, false) := by
      decide +kernel
    obtain ⟨⟨m, u⟩, second, reads⟩ := Option.map_eq_some_iff.1 here
    obtain ⟨asks, async⟩ := Prod.mk.inj reads
    obtain rfl := Incident.eq_of_asks asks
    have here := Chronicle.prefix_at second
    exact ⟨_, u, here, async, fun who => (succeeds who _ _ here).2 (by decide +kernel)⟩
  · have here : (told[6]?.map fun e => e.1.isResumption) = some true := by decide +kernel
    obtain ⟨⟨m, u⟩, sixth, resumes⟩ := Option.map_eq_some_iff.1 here
    obtain rfl := Incident.eq_of_isResumption resumes
    have here := Chronicle.prefix_at sixth
    refine ⟨_, u, here, by decide +kernel, ?_⟩
    rcases resumed _ _ here with ⟨already, -⟩ | ⟨earlier, v, since, split, permissive, -⟩
    · exact absurd already (by decide +kernel)
    · exact ⟨earlier, v, since, split, permissive⟩

end ServletFilters
