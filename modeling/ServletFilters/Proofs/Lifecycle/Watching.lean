import ServletFilters.Component.Builtin.Servlets
import ServletFilters.Lifecycle.Supervision
import ServletFilters.Proofs.Container.Reloading

/-!
What a watcher sends. It compares a file with the configuration that it sent last, whatever became
of that: `sends_iff_changed`. As long as the last one sent was accepted, that is the configuration
which the pipeline runs.
-/

namespace ServletFilters

namespace Watcher

theorem reread_published (w : Watcher) (content : Option String) (config : Config) :
    (w.reread content).1 = some config ↔
      Config.load content = .ok config ∧ (w.components.checkClasses config).isOk ∧
        config ≠ w.current := by
  unfold reread usable?
  cases Config.load content with
  | error e => simp
  | ok loaded =>
    dsimp only
    by_cases known : (w.components.checkClasses loaded).isOk
    · rw [if_pos known]
      dsimp only
      split
      · rename_i same
        constructor
        · rintro ⟨⟩
        · rintro ⟨⟨⟩, -, other⟩
          exact absurd same other
      · rename_i other
        constructor
        · rintro ⟨⟩
          exact ⟨rfl, known, other⟩
        · rintro ⟨⟨⟩, -, -⟩
          rfl
    · rw [if_neg known]
      constructor
      · rintro ⟨⟩
      · rintro ⟨⟨⟩, known', -⟩
        exact absurd known' known

theorem reread_watcher (w : Watcher) (content : Option String) :
    (w.reread content).2 = { w with current := (w.reread content).1.getD w.current } := by
  unfold reread
  split
  · rfl
  · split <;> rfl

end Watcher

namespace Supervision

/-- What a supervision keeps: the watcher knows what was sent last, and the pipeline runs what was
accepted last. -/
structure Tracks (components : ComponentFactory) (p : Nat) (s : Supervision) : Prop where
  factory : s.watcher.components = components
  current : s.watcher.current = s.offered
  pipeline : s.server.pipeline = p
  runs : ∃ x, s.box.pipelines.find? p = some x ∧ x.components = components ∧ x.Runs s.running

variable {components : ComponentFactory} {p : Nat} {s : Supervision}

/-- Reading the file again sends nothing, or sends and applies a configuration. -/
theorem reread_cases (s : Supervision) (content : Option String) :
    ((s.isOpen = false ∨ (s.watcher.reread content).1 = none) ∧ s.reread content = s) ∨
      ∃ config verdict box, s.isOpen = true ∧ (s.watcher.reread content).1 = some config ∧
        s.apply config = (verdict, box) ∧ s.reread content =
          { s with
            watcher := { s.watcher with current := config }
            box
            sent := (config, verdict) :: s.sent } := by
  have kept := s.watcher.reread_watcher content
  unfold reread
  cases ready : s.isOpen with
  | false => exact .inl ⟨.inl rfl, rfl⟩
  | true =>
    rcases read : s.watcher.reread content with ⟨_ | config, watcher⟩ <;> rw [read] at kept
    · obtain rfl : watcher = s.watcher := kept
      exact .inl ⟨.inr rfl, rfl⟩
    · obtain rfl : watcher = { s.watcher with current := config } := kept
      exact .inr ⟨config, _, _, rfl, rfl, rfl, rfl⟩

/-- A configuration is accepted if the reload succeeds; if not, no pipeline is changed. -/
theorem apply_cases (s : Supervision) (config : Config) {x : Pipeline}
    (found : s.box.pipelines.find? s.server.pipeline = some x) :
    ((s.apply config).1 = .accepted ∧ ∃ y,
        (s.apply config).2.pipelines.find? s.server.pipeline = some y ∧ y.Runs config ∧
        y.components = x.components) ∨
      ((s.apply config).1 ≠ .accepted ∧ (s.apply config).2.pipelines = s.box.pipelines) := by
  unfold apply Http.Server.update
  have kept : (Pipeline.reload s.server.pipeline config s.box).1 ≠ .ok (.ok ()) →
      (Pipeline.reload s.server.pipeline config s.box).2.pipelines = s.box.pipelines := by
    intro failed
    obtain ⟨_, _, _, -, grown⟩ := reload_failed failed
    rw [grown]
    rfl
  rcases ran : Pipeline.reload s.server.pipeline config s.box with ⟨halt | error | ⟨⟩, t⟩ <;>
    rw [ran] at kept
  · rw [Run.bind_of_error ran]
    exact .inr ⟨by rintro ⟨⟩, kept (by rintro ⟨⟩)⟩
  · rw [Run.bind_of_ok ran]
    exact .inr ⟨by rintro ⟨⟩, kept (by rintro ⟨⟩)⟩
  · obtain ⟨y, after, runs, -, same, -⟩ := reload_runs found ran
    rw [Run.bind_of_ok ran]
    exact .inl ⟨rfl, y, after, runs, same⟩

theorem Tracks.reread (h : s.Tracks components p) (content : Option String) :
    (s.reread content).Tracks components p := by
  rcases s.reread_cases content with ⟨-, same⟩ | ⟨config, verdict, box, -, -, applied, same⟩
  · rw [same]
    exact h
  · obtain ⟨x, found, own, runs⟩ := h.runs
    have outcome := s.apply_cases config (h.pipeline ▸ found)
    rw [applied, h.pipeline] at outcome
    rw [same]
    refine ⟨h.factory, rfl, h.pipeline, ?_⟩
    -- What was sent is the configuration offered now, but it runs only if it was accepted.
    rcases outcome with ⟨accepted, y, after, runs', own'⟩ | ⟨refused, pipelines⟩
    · refine ⟨y, after, own'.trans own, ?_⟩
      unfold running
      rw [List.find?_cons_of_pos (by simpa using accepted)]
      exact runs'
    · refine ⟨x, pipelines ▸ found, own, ?_⟩
      unfold running
      rw [List.find?_cons_of_neg (by simpa using refused)]
      exact runs

theorem ofConfig_runs {config : Config} {s box : Container} {p : Nat}
    (opened : Pipeline.ofConfig config components s = (.ok (.ok p), box)) :
    ∃ x, box.pipelines.find? p = some x ∧ x.components = components ∧ x.Runs config := by
  unfold Pipeline.ofConfig at opened
  rcases ran : Registry.build config components s with ⟨halt | error | r, t⟩
  · rw [Run.bind_of_error ran] at opened
    cases opened
  · rw [Run.bind_of_ok ran] at opened
    cases opened
  · rw [Run.bind_of_ok ran] at opened
    obtain ⟨number, rfl⟩ := Prod.mk.inj opened
    cases number
    exact ⟨_, Dict.find?_insert_self .., rfl, ⟨s, t, ran⟩, rfl⟩

theorem Tracks.start {config : Config} {s box : Container}
    (opened : Pipeline.ofConfig config components s = (.ok (.ok p), box)) :
    (Supervision.start config components p box).Tracks components p :=
  ⟨rfl, rfl, rfl, ofConfig_runs opened⟩

theorem Tracks.run (h : s.Tracks components p) (contents : List (Option String)) :
    (contents.foldl Supervision.reread s).Tracks components p := by
  induction contents generalizing s with
  | nil => exact h
  | cons content rest ih => exact ih (h.reread content)

theorem Tracks.sends_iff (h : s.Tracks components p) {content : Option String} {c : Config} :
    (∃ verdict, (s.reread content).sent = (c, verdict) :: s.sent) ↔
      s.isOpen ∧ Config.load content = .ok c ∧ (components.checkClasses c).isOk ∧ c ≠ s.offered := by
  have published := s.watcher.reread_published content c
  rw [h.factory, h.current] at published
  rw [← published]
  rcases s.reread_cases content with
    ⟨closed, same⟩ | ⟨config, verdict, box, ready, sends, -, same⟩ <;> rw [same]
  · constructor
    · rintro ⟨verdict, longer⟩
      exact List.cons_ne_self _ _ longer.symm |>.elim
    · rintro ⟨ready, sends⟩
      rcases closed with closed | quiet
      · rw [closed] at ready
        cases ready
      · rw [quiet] at sends
        cases sends
  · constructor
    · rintro ⟨_, longer⟩
      obtain ⟨⟨⟩, -⟩ := List.cons.inj longer
      exact ⟨ready, sends⟩
    · rintro ⟨-, sends'⟩
      obtain rfl := Option.some.inj (sends.symm.trans sends')
      exact ⟨verdict, rfl⟩

theorem offered_eq_running (h : ∀ e ∈ s.sent.head?, e.2 = .accepted) : s.offered = s.running := by
  unfold offered running
  cases sent : s.sent with
  | nil => rfl
  | cons e rest =>
    rw [sent] at h
    rw [List.find?_cons_of_pos (by simpa using h e rfl)]
    rfl

end Supervision

/-- After every history of files that were read again, the pipeline runs the configuration that it
accepted last. The next file is sent if it can be loaded, its classes are known, and it is not the
configuration that was offered last, which is the running one only if it was accepted. -/
theorem sends_iff_changed {config : Config} {components : ComponentFactory} {p : Nat}
    {s box : Container} (opened : Pipeline.ofConfig config components s = (.ok (.ok p), box))
    (contents : List (Option String)) (content : Option String) :
    let now := contents.foldl Supervision.reread (.start config components p box)
    let next := now.reread content
    (∃ x, now.box.pipelines.find? p = some x ∧ x.Runs now.running) ∧
      (next.sent = now.sent ∨ ∃ c verdict, next.sent = (c, verdict) :: now.sent) ∧
      (∀ c, (∃ verdict, next.sent = (c, verdict) :: now.sent) ↔
        now.isOpen ∧ Config.load content = .ok c ∧ (components.checkClasses c).isOk ∧
          c ≠ now.offered) ∧
      ((∀ e ∈ now.sent.head?, e.2 = .accepted) → now.offered = now.running) := by
  intro now next
  have tracks : now.Tracks components p := (Supervision.Tracks.start opened).run contents
  obtain ⟨x, found, -, runs⟩ := tracks.runs
  refine ⟨⟨x, found, runs⟩, ?_, fun c => tracks.sends_iff, Supervision.offered_eq_running⟩
  rcases now.reread_cases content with ⟨-, same⟩ | ⟨c, verdict, _, -, -, -, same⟩
  · exact .inl (congrArg Supervision.sent same)
  · exact .inr ⟨c, verdict, congrArg Supervision.sent same⟩

def echoFile : String := "default_servlet = \"echo\"\n[[servlets]]\nname = \"echo\"\nclass = \"echo\"\n"

/-- The same with a servlet that forwards, but does not say where to. -/
def strandedFile : String := echoFile ++ "[[servlets]]\nname = \"f\"\nclass = \"forwarding\"\n"

def echoConfig : Config where
  servlets := [{ name := "echo", className := "echo" }]
  defaultServlet := some "echo"

/-- The configuration in the second file. -/
def strandedConfig : Config :=
  { echoConfig with servlets := echoConfig.servlets ++ [{ name := "f", className := "forwarding" }] }

def echoBox : Container := (Pipeline.ofConfig echoConfig .builtin {}).2

/-- The second file is refused by the pipeline. It is not sent when it is saved again, and the first
file, whose configuration runs all the time, is. -/
theorem sends_iff_changed_stranded :
    Pipeline.ofConfig echoConfig .builtin {} = (.ok (.ok 3), echoBox) ∧
      let now := [some strandedFile].foldl Supervision.reread (.start echoConfig .builtin 3 echoBox)
      now.sent = [(strandedConfig, .rejected)] ∧ now.running = echoConfig ∧
        (¬ ∃ verdict, (now.reread (some strandedFile)).sent = (strandedConfig, verdict) :: now.sent) ∧
        ∃ verdict, (now.reread (some echoFile)).sent = (echoConfig, verdict) :: now.sent := by
  have number : (Pipeline.ofConfig echoConfig .builtin {}).1 = .ok (.ok 3) := by decide +kernel
  have opened : Pipeline.ofConfig echoConfig .builtin {} = (.ok (.ok 3), echoBox) :=
    Prod.ext number rfl
  have again := (sends_iff_changed opened [some strandedFile] (some strandedFile)).2.2.1
  have back := (sends_iff_changed opened [some strandedFile] (some echoFile)).2.2.1
  obtain ⟨sent, config⟩ : ([some strandedFile].foldl Supervision.reread
        (.start echoConfig .builtin 3 echoBox)).sent = [(strandedConfig, .rejected)] ∧
      ([some strandedFile].foldl Supervision.reread
        (.start echoConfig .builtin 3 echoBox)).server.config = echoConfig := by decide +kernel
  have offered : ([some strandedFile].foldl Supervision.reread
      (.start echoConfig .builtin 3 echoBox)).offered = strandedConfig := by
    rw [Supervision.offered, sent]
    rfl
  refine ⟨opened, sent, ?_, ?_, ?_⟩
  · rw [Supervision.running, sent, config]
    rfl
  · rw [again, offered]
    rintro ⟨-, -, -, other⟩
    exact other rfl
  · rw [back, offered, Supervision.isOpen, sent]
    decide +kernel

end ServletFilters
