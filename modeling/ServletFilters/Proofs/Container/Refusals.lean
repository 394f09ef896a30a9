import ServletFilters.Proofs.Container.Downgrading

/-!
What a refused suspension reports. The list of classes is that of the traversal that began last, which
need not be the one in which the permission was taken away: `refusals_report`.
-/

namespace ServletFilters

/-! ### Scenes -/

/-- The chain that the traversal that began last began with, and how deep inside it runs. -/
structure Scene where
  nesting : Nat
  chain : Chain

namespace Scene

def after (x : Scene) : Incident × Container → Scene
  | (.visits _ c, s) => ⟨s.nesting + 1, c⟩
  | _ => x

/-- The traversal still runs or has ended; where it runs, its chain is what is left of that chain. -/
structure Fits (x : Scene) (s : Container) : Prop where
  nesting : s.nesting ≤ x.nesting
  chain : s.nesting = x.nesting → x.chain.Left s.chain

theorem Fits.of_same {x : Scene} {s t : Container} (h : x.Fits s) (nesting : t.nesting = s.nesting)
    (chain : s.chain.Left t.chain) : x.Fits t :=
  ⟨nesting ▸ h.nesting, fun here => (h.chain (nesting ▸ here)).trans chain⟩

end Scene

namespace Incident

/-- Whether a traversal begins. -/
def begins : Incident → Bool
  | .visits _ _ => true
  | _ => false

/-- Whether a component sets the list of classes by itself. -/
def setsList : Incident → Bool
  | .acts (.setNonAsyncComponents _) => true
  | _ => false

end Incident

theorem perform_place (who : Component) (action : Action) (s : Container) :
    (action.perform who s).2.nesting = s.nesting ∧ (action.perform who s).2.chain = s.chain := by
  have quiet := perform_quiet who action s
  exact ⟨quiet.nesting, quiet.chain⟩

theorem meet_place (r : Reached) (s : Container) :
    (s.meet r).nesting = s.nesting ∧ (s.meet r).chain = s.chain := by
  have quiet := downgrade_quiet r.declines s
  exact ⟨quiet.nesting, quiet.chain⟩

/-- Every incident happens in the traversal that began last, or in one around it. -/
theorem Unfolds.scenes {s t : Container} {told : Chronicle} (h : Unfolds s told t) :
    t.nesting = s.nesting ∧ ∀ x : Scene, x.Fits s →
      Chronicle.Along Scene.after Scene.Fits x told ∧ (told.foldl Scene.after x).Fits t := by
  induction h with
  | still unmoved =>
    exact ⟨unmoved.nesting, fun x fits => ⟨trivial, fits.of_same unmoved.nesting unmoved.chain⟩⟩
  | acts s who action =>
    obtain ⟨nesting, chain⟩ := perform_place who action s
    exact ⟨nesting, fun x fits => ⟨⟨fits, trivial⟩, fits.of_same nesting (chain ▸ .refl _)⟩⟩
  | @reaches s r here =>
    obtain ⟨nesting, chain⟩ := meet_place r s
    exact ⟨nesting, fun x fits => ⟨⟨fits, trivial⟩, fits.of_same nesting (chain ▸ .refl _)⟩⟩
  | @resumes s suspended => exact ⟨rfl, fun x fits => ⟨⟨fits, trivial⟩, fits.of_same rfl (.refl _)⟩⟩
  | @visits w s u t told begins inside ih =>
    refine ⟨rfl, fun x fits => ?_⟩
    obtain ⟨along, last⟩ := ih.2 ⟨s.nesting + 1, u.chain⟩
      ⟨Nat.le_of_eq begins.nesting, fun _ => .refl _⟩
    -- the traversal that has ended was deeper inside than the one it comes back to
    have deeper : s.nesting < (told.foldl Scene.after ⟨s.nesting + 1, u.chain⟩).nesting := by
      have least := last.nesting
      have level := ih.1
      have below := begins.nesting
      omega
    exact ⟨⟨fits, along⟩, ⟨Nat.le_of_lt deeper, fun here => absurd here (Nat.ne_of_lt deeper)⟩⟩
  | responds response inside ih =>
    refine ⟨ih.1, fun x fits => ?_⟩
    obtain ⟨along, last⟩ := ih.2 x (fits.of_same rfl (.refl _))
    exact ⟨along, last.of_same rfl (.refl _)⟩
  | @serves s t told tracked inside ih =>
    have opened : (s.openRecord tracked).nesting = s.nesting ∧
        (s.openRecord tracked).chain = s.chain := by
      cases tracked <;> exact ⟨rfl, rfl⟩
    have closed : (t.closeRecord tracked).nesting = t.nesting ∧
        (t.closeRecord tracked).chain = t.chain := by
      cases tracked <;> exact ⟨rfl, rfl⟩
    refine ⟨closed.1.trans (ih.1.trans opened.1), fun x fits => ?_⟩
    obtain ⟨along, last⟩ := ih.2 x (fits.of_same opened.1 (opened.2 ▸ .refl _))
    have after : ((Incident.opens tracked, s) :: told ++ [(Incident.closes tracked, t)]).foldl Scene.after x =
        told.foldl Scene.after x := by
      rw [List.foldl_append]
      rfl
    rw [after]
    exact ⟨⟨fits, (Chronicle.along_append told _ x).2 ⟨along, last, trivial⟩⟩,
      last.of_same closed.1 (closed.2 ▸ .refl _)⟩
  | append first rest ih₁ ih₂ =>
    refine ⟨ih₂.1.trans ih₁.1, fun x fits => ?_⟩
    obtain ⟨along, last⟩ := ih₁.2 x fits
    obtain ⟨along', last'⟩ := ih₂.2 _ last
    exact ⟨(Chronicle.along_append _ _ x).2 ⟨along, along'⟩, by rwa [List.foldl_append]⟩

namespace Chronicle

/-- No traversal begins. -/
def Unvisited (told : Chronicle) : Prop := ∀ e ∈ told, e.1.begins = false

/-- No component sets the list of classes by itself. -/
def Unlisted (told : Chronicle) : Prop := ∀ e ∈ told, e.1.setsList = false

theorem Unvisited.scene {told : Chronicle} (unvisited : told.Unvisited) (x : Scene) :
    told.foldl Scene.after x = x := by
  induction told generalizing x with
  | nil => rfl
  | cons e rest ih =>
    obtain ⟨first, later⟩ := List.forall_mem_cons.1 unvisited
    have same : x.after e = x := by
      rcases e with ⟨m, s⟩
      cases m with
      | visits w c => cases first
      | _ => rfl
    rw [List.foldl_cons, same, ih later]

/-- The list of classes only changes where a traversal begins or a component sets it. -/
theorem Unvisited.replay_list {told : Chronicle} (unvisited : told.Unvisited) (unlisted : told.Unlisted)
    (x : Watched) : (replay x told).nonAsyncComponents = x.nonAsyncComponents := by
  induction told generalizing x with
  | nil => rfl
  | cons e rest ih =>
    obtain ⟨first, later⟩ := List.forall_mem_cons.1 unvisited
    obtain ⟨first', later'⟩ := List.forall_mem_cons.1 unlisted
    have kept : (x.after e.1).nonAsyncComponents = x.nonAsyncComponents := by
      rcases e with ⟨m, s⟩
      cases m with
      | visits w c => cases first
      | acts action =>
        cases action with
        | setNonAsyncComponents names => cases first'
        | _ => rfl
      | _ => rfl
    exact (ih later later' (x.after e.1)).trans kept

/-- Where traversals have begun, one of them began last. -/
theorem last_begun {told : Chronicle} (begun : ∃ e ∈ told, e.1.begins = true) :
    ∃ (before : Chronicle) (w : Wrapper) (c : Chain) (v : Container) (since : Chronicle),
      told = before ++ (.visits w c, v) :: since ∧ since.Unvisited := by
  induction told with
  | nil => simp at begun
  | cons e rest ih =>
    by_cases later : ∃ e ∈ rest, e.1.begins = true
    · obtain ⟨before, w, c, v, since, rfl, quiet⟩ := ih later
      exact ⟨e :: before, w, c, v, since, rfl, quiet⟩
    · have quiet : Unvisited rest := by
        intro e member
        exact Bool.eq_false_iff.2 fun begins => later ⟨e, member, begins⟩
      obtain ⟨first, member, begins⟩ := begun
      rcases List.mem_cons.1 member with rfl | member
      · rcases first with ⟨m, s⟩
        cases m with
        | visits w c => exact ⟨[], w, c, s, rest, rfl, quiet⟩
        | _ => cases begins
      · exact absurd ⟨first, member, begins⟩ later

/-- Before a traversal begins, at most a request is gone on with. -/
def Headed : Chronicle → Prop
  | [] => True
  | (.visits _ _, _) :: _ => True
  | (.resumes, _) :: rest => Headed rest
  | _ :: _ => False

theorem Headed.append {told later : Chronicle} (h : told.Headed) (h' : later.Headed) :
    Headed (told ++ later) := by
  induction told with
  | nil => exact h'
  | cons e rest ih =>
    rcases e with ⟨m, s⟩
    cases m with
    | visits w c => trivial
    | resumes => exact ih h
    | _ => cases h

theorem Headed.thence {x : Run α} {next : α → Container → Chronicle}
    (each : ∀ a t, (next a t).Headed) (s : Container) : Headed (x.thence next s) := by
  unfold Run.thence
  rcases x s with ⟨_ | a, t⟩
  · trivial
  · exact each a t

theorem Headed.begun {told before : Chronicle} {action : Action} {u : Container} (h : told.Headed)
    (here : before ++ [(.acts action, u)] <+: told) : ∃ e ∈ before, e.1.begins = true := by
  induction before generalizing told with
  | nil =>
    obtain ⟨later, rfl⟩ := here
    cases h
  | cons e rest ih =>
    obtain ⟨later, rfl⟩ := here
    rcases e with ⟨m, s⟩
    cases m with
    | visits w c => exact ⟨_, List.mem_cons_self, rfl⟩
    | resumes =>
      have headed : Headed (rest ++ [(.acts action, u)] ++ later) := h
      obtain ⟨e, member, begins⟩ := ih headed (List.prefix_append _ later)
      exact ⟨e, List.mem_cons_of_mem _ member, begins⟩
    | _ => cases h

end Chronicle

/-! ### Services -/

section Calling

variable (calls : Calls) (told : Call → Container → Chronicle)

theorem visit_headed (p : Nat) (r : Registry) (w : Wrapper) (state : DispatchState) (pooled : Bool)
    (s : Container) : (Pipeline.visitChronicle calls told p r w state pooled s).Headed := by
  unfold Pipeline.visitChronicle
  cases Pipeline.starts p r w state pooled s with
  | nil => trivial
  | cons u rest => trivial

theorem resume_headed {again : Run Result} {tale : Container → Chronicle}
    (headed : ∀ s, (tale s).Headed) (n : Nat) :
    ∀ s, (Pipeline.resumeChronicle again tale n s).Headed := by
  induction n with
  | zero =>
    intro s
    unfold Pipeline.resumeChronicle
    split <;> trivial
  | succ n ih =>
    intro s
    unfold Pipeline.resumeChronicle
    split
    · refine (headed _).append (.thence (fun result t => ?_) _)
      split
      · exact ih t
      · trivial
    · trivial

theorem traverse_headed (p : Nat) (r : Registry) (w : Wrapper) (path : String) (s : Container) :
    (Pipeline.traverseChronicle calls told p r w path s).Headed := by
  have visit := fun dispatcher => visit_headed calls told p r w
    { dispatcher, path := some path } true
  refine (visit .request s).append (.thence (fun result t => ?_) s)
  split
  · exact resume_headed (visit .async) _ t
  · trivial

theorem service_headed (p : Nat) (s : Container) :
    (Pipeline.serviceChronicle calls told p s).Headed := by
  unfold Pipeline.serviceChronicle
  cases s.pipelines.find? p with
  | none => trivial
  | some x =>
    unfold Pipeline.serviceOnChronicle
    dsimp only
    cases x.registry.mapServlet s.request.path with
    | none => trivial
    | some w => exact traverse_headed calls told p x.registry w _ _

end Calling

/-! ### Reports -/

namespace Reached

/-- The class of a component that is reached in a traversal for this servlet. -/
def className (w : Wrapper) : Reached → String
  | .filter f => f.className
  | .servlet _ _ => w.className

theorem In.of_left {c d : Chain} {r : Reached} (h : r.In d) (left : c.Left d) : r.In c := by
  cases r with
  | filter f => exact left.filters f h
  | servlet x async =>
    obtain ⟨servlet, same⟩ := left.servlet x h.1
    exact ⟨servlet, same ▸ h.2⟩

/-- Where a component of the chain takes the permission away, the list has its class. -/
theorem In.listed {w : Wrapper} {c : Chain} {r : Reached} (h : r.In c)
    (async : c.servletAsync = w.asyncSupported) (declines : r.declines = true) :
    r.className w ∈ w.nonAsyncComponents c := by
  unfold Wrapper.nonAsyncComponents
  cases r with
  | filter f =>
    refine List.mem_append_left _ (List.mem_mergeSort.2 (mem_firsts.2 ?_))
    rw [List.nil_append]
    exact List.mem_map_of_mem (List.mem_filter.2 ⟨h, declines⟩)
  | servlet x own =>
    refine List.mem_append_right _ ?_
    have declined : w.asyncSupported = false := by
      rw [← async, h.2]
      simpa [Reached.declines] using declines
    simp [declined, className]

end Reached

/-- What is reached in the traversal that began last is of the chain that it began with. -/
theorem Unfolds.reached_in {s t v : Container} {told before since : Chronicle} {w : Wrapper} {c : Chain}
    (h : Unfolds s told t) (here : before ++ (.visits w c, v) :: since <+: told)
    (unvisited : since.Unvisited) :
    ∀ r u, (.reaches r, u) ∈ since → u.nesting = v.nesting + 1 → r.In c := by
  intro r u member level
  -- no traversal begins in between, so the scene is still that of this one
  obtain ⟨between, later, rfl⟩ := List.append_of_mem member
  have reached : (before ++ (.visits w c, v) :: between) ++ [(.reaches r, u)] <+: told :=
    List.IsPrefix.trans ⟨later, by simp⟩ here
  have fits : Scene.Fits ⟨s.nesting, s.chain⟩ s := ⟨Nat.le_refl _, fun _ => .refl _⟩
  have scene := (h.scenes.2 _ fits).1.point reached
  have unvisited' : Chronicle.Unvisited between :=
    fun e member => unvisited e (List.mem_append_left _ member)
  rw [List.foldl_append, List.foldl_cons, unvisited'.scene] at scene
  have own : r.In u.chain := h.sound (.reaches r, u) (reached.subset (by simp))
  exact own.of_left (scene.chain level)

/-- What can have taken the permission away. -/
theorem Watched.after_lowered {x : Watched} {m : Incident} (unforced : m.setsPermission = false)
    (before : x.asyncSupported = true) (after : (x.after m).asyncSupported = false) :
    ∃ r, m = .reaches r ∧ r.declines = true := by
  cases m with
  | reaches r => exact ⟨r, rfl, by simpa [Watched.after, before] using after⟩
  | acts action =>
    cases action with
    | setAsyncSupported yes => cases unforced
    | _ => exact absurd (before.symm.trans after) Bool.noConfusion
  | _ => exact absurd (before.symm.trans after) Bool.noConfusion

/-- Where the permission was taken away, one component did so. -/
theorem Chronicle.replay_lowered {told : Chronicle} {x : Watched} (unforced : told.Unforced)
    (before : x.asyncSupported = true) (after : (replay x told).asyncSupported = false) :
    ∃ (earlier : Chronicle) (r : Reached) (t : Container),
      earlier ++ [(.reaches r, t)] <+: told ∧ (replay x earlier).asyncSupported = true ∧
      r.declines = true := by
  induction told generalizing x with
  | nil => exact absurd (before.symm.trans after) Bool.noConfusion
  | cons e rest ih =>
    obtain ⟨first, unforced⟩ := List.forall_mem_cons.1 unforced
    cases still : (x.after e.1).asyncSupported with
    | true =>
      obtain ⟨earlier, r, t, here, high, declines⟩ := ih unforced still after
      exact ⟨e :: earlier, r, t, (List.prefix_cons_inj e).2 here, high, declines⟩
    | false =>
      obtain ⟨r, reached, declines⟩ := Watched.after_lowered first before still
      rcases e with ⟨m, t⟩
      obtain rfl : m = .reaches r := reached
      exact ⟨[], r, t, List.prefix_append _ rest, before, declines⟩

theorem startAsync_refused (who : Component) {s : Container} (h : s.request.asyncSupported = false) :
    (Action.startAsync.perform who s).1 = .ok (.error s.request.asyncRefusal : Result) := by
  change (if s.request.asyncSupported then _ else _ : Except Halt Result × Container).1 = _
  rw [h]
  rfl

/-- A request that may be suspended is serviced, and a component is refused to suspend it. Then some
component that was reached before took the permission away, and what is reported is the list of the
traversal that began last: it has the class of each such component that was reached in this traversal. -/
theorem refusals_report (outside : Outside) (levels p : Nat) (s : Container)
    (capable : s.request.asyncSupported = true)
    (unforced : ((Errand.service p).chronicle outside levels s).Unforced)
    (unlisted : ((Errand.service p).chronicle outside levels s).Unlisted) :
    ∀ who before u,
      before ++ [(.acts .startAsync, u)] <+: (Errand.service p).chronicle outside levels s →
      u.request.asyncSupported = false →
      (Action.startAsync.perform who u).1 = .ok (.error u.request.asyncRefusal : Result) ∧
      (∃ r t, (.reaches r, t) ∈ before ∧ t.request.asyncSupported = true ∧ r.declines = true) ∧
      ∃ (earlier : Chronicle) (w : Wrapper) (c : Chain) (v : Container) (since : Chronicle),
        before = earlier ++ (.visits w c, v) :: since ∧ since.Unvisited ∧
        c.servlet = some w.servlet ∧ u.request.nonAsyncComponents = w.nonAsyncComponents c ∧
        ∀ r t, (.reaches r, t) ∈ since → t.nesting = v.nesting + 1 → r.declines = true →
          r.In c ∧ r.className w ∈ w.nonAsyncComponents c := by
  intro who before u here refused
  let told := (Errand.service p).chronicle outside levels s
  have unfolds : Unfolds s told _ := (Errand.service p).unfolds outside levels s
  have earlier : before <+: told := (List.prefix_append _ _).trans here
  have watched := Errand.watched_at here
  refine ⟨startAsync_refused who refused, ?_, ?_⟩
  · have lowered : (Chronicle.replay s.watched before).asyncSupported = false := watched ▸ refused
    obtain ⟨first, r, t, culprit, high, declines⟩ :=
      Chronicle.replay_lowered (unforced.earlier earlier) capable lowered
    have watched' := Errand.watched_at (culprit.trans earlier)
    rw [← watched'] at high
    exact ⟨r, t, culprit.subset (by simp), high, declines⟩
  · obtain ⟨first, w, c, v, since, rfl, unvisited⟩ :=
      Chronicle.last_begun ((service_headed _ _ p s).begun here)
    have begun : (.visits w c, v) ∈ told := earlier.subset (by simp)
    obtain ⟨servlet, async⟩ := unfolds.sound _ begun
    refine ⟨first, w, c, v, since, rfl, unvisited, servlet, ?_, ?_⟩
    · have unlisted' : since.Unlisted :=
        fun e member => unlisted e (earlier.subset (by simp [member]))
      change u.watched.nonAsyncComponents = _
      rw [watched, Chronicle.replay_append]
      exact unvisited.replay_list unlisted' _
    · intro r t member level declines
      have inside := unfolds.reached_in earlier unvisited r t member level
      exact ⟨inside, inside.listed async declines⟩

instance (told : Chronicle) : Decidable told.Unlisted :=
  inferInstanceAs (Decidable (∀ e ∈ told, e.1.setsList = false))

/-- Behind a filter that takes the permission away, a servlet asks for a suspension and then forwards
to another one, which asks for it as well. -/
def gated : Host :=
  suspendable
    { filters := [{ name := "gate", className := "Gate", asyncSupported := some false }]
      filterMappings := [{ filterName := "gate", urlPatterns := ["/*"] }]
      servlets :=
        [{ name := "desk", className := "Desk", urlPatterns := ["/desk"], asyncSupported := true },
          { name := "page", className := "Page", urlPatterns := ["/page"], asyncSupported := true }] }
    { filters := ⟨[("Gate", ⟨false, fun _ _ => .ready (.proceed .finish)⟩)]⟩
      servlets := ⟨[("Desk", ⟨false, fun _ _ => .ready
          (.startAsync fun _ => .dispatch .forward (.path "/page") .finish)⟩),
        ("Page", ⟨false, fun _ _ => .ready (.startAsync .finish)⟩)]⟩ } "/desk"

/-- The first refusal names the filter. The second one names nothing, though the filter is to blame. -/
theorem refusals_report_gated :
    ∃ before u before' u',
      before ++ [(.acts .startAsync, u)] <+: (Errand.service 5).chronicle (fun _ => []) 3 gated.box ∧
      before' ++ [(.acts .startAsync, u')] <+: (Errand.service 5).chronicle (fun _ => []) 3 gated.box ∧
      u.request.nonAsyncComponents = ["Gate"] ∧ u'.request.nonAsyncComponents = [] ∧
      (∀ who, (Action.startAsync.perform who u').1 =
        .ok (.error u'.request.asyncRefusal : Result)) ∧
      ∃ r t, (.reaches r, t) ∈ before' ∧ t.request.asyncSupported = true ∧ r.declines = true := by
  let told := (Errand.service 5).chronicle (fun _ => []) 3 gated.box
  have asked : ∀ {n : Nat} {names : List String},
      (told[n]?.map fun e => (e.1.asks, e.2.request.asyncSupported, e.2.request.nonAsyncComponents)) =
        some (true, false, names) →
      ∃ u, told.take n ++ [(.acts .startAsync, u)] <+: told ∧ u.request.asyncSupported = false ∧
        u.request.nonAsyncComponents = names := by
    intro n names reads
    obtain ⟨⟨m, u⟩, found, same⟩ := Option.map_eq_some_iff.1 reads
    simp only [Prod.mk.injEq] at same
    obtain rfl := Incident.eq_of_asks same.1
    exact ⟨u, Chronicle.prefix_at found, same.2⟩
  obtain ⟨u, here, refused, names⟩ := @asked 4 ["Gate"] (by decide +kernel)
  obtain ⟨u', here', refused', names'⟩ := @asked 8 [] (by decide +kernel)
  have report := fun who => refusals_report (fun _ => []) 3 5 gated.box (by decide +kernel)
    (by decide +kernel) (by decide +kernel) who _ u' here' refused'
  exact ⟨_, u, _, u', here, here', names, names', fun who => (report who).1, (report default).2.1⟩

end ServletFilters
