import ServletFilters.Proofs.Component.Lifetimes
import ServletFilters.Proofs.Parallel.Dispatch
import ServletFilters.Proofs.Registry.Making

/-!
What becomes of the servlets of a registry that could not be built. They were constructed, but no
registry owns them: nobody destroys them, neither the build that broke off nor anything that happens
later, `Host.failed_build_strays`.
-/

namespace ServletFilters

theorem Made.zip {entries : List Config.ServletEntry} {ws : List Wrapper} {s t : Container}
    (made : Made entries ws s t) :
    ws.map (·.identity) = (ws.map (·.servlet.serial)).zip (entries.map (·.name)) := by
  rw [← made.names, List.zip_map']
  rfl

/-- The servlets that were made for a registry that could not be built stand for nothing. -/
theorem Books.strays {others : List Nat} {fresh : Option Nat} {s t : Container}
    (books : Books others fresh s) {made : List Config.ServletEntry} {ws : List Wrapper}
    (all : Made made ws s t) {w : Wrapper} (member : w ∈ ws) (role : Role) :
    ¬ Has t.journal w.servlet.serial role := by
  intro has
  have used := books.below (all.quiet.alike.has.1 has)
  have new := (all.numbers w member).1
  omega

/-- What stands for nothing has no owner, and so it was not destroyed. -/
theorem Proper.countP_ends_eq_zero {events : List Event} (proper : Proper events) {c : Nat}
    (free : ∀ role, ¬ Has events c role) : events.countP (·.ends c) = 0 := by
  have alive : ¬ Destroyed events c := by
    intro destroyed
    obtain ⟨r, owns, -⟩ := proper.owner_retired destroyed
    rcases owns_iff.1 owns with servlet | ⟨f, -, made⟩
    · exact free _ servlet
    · exact free _ made
  have := mt destroyed_iff_countP.2 alive
  omega

section Opening

variable {config : Config} {components : ComponentFactory} {e : Option Executor}
  {s t : Container}

theorem openWith_of_halt {halt : Halt}
    (built : Registry.build config components s = (.error halt, t)) :
    Host.openWith config components e s = (.error halt, t) := by
  cases e <;> exact Run.bind_of_error built

theorem openWith_of_error {error : RegistryError}
    (built : Registry.build config components s = (.ok (.error error), t)) :
    Host.openWith config components e s = (.ok (.error error), t) := by
  cases e <;> exact Run.bind_of_ok built

theorem openWith_of_ok {r : Registry}
    (built : Registry.build config components s = (.ok (.ok r), t)) :
    ∃ p, (Host.openWith config components e s).1 = .ok (.ok p) := by
  cases e <;> exact ⟨_, congrArg Prod.fst (Run.bind_of_ok built)⟩

end Opening

namespace Host

/-- An act of a host fails, as the registry of a configuration cannot be built. -/
inductive Fails (h : Host) : Act → Config → ComponentFactory → RegistryError → Prop where
  | openPipeline {config : Config} {components : ComponentFactory} {executor : Option Executor}
      {error : RegistryError}
      (failed : (openWith config components executor h.box).1 = .ok (.error error)) :
      Fails h (.openPipeline config components executor) config components error
  | reload {p : Nat} {x : Pipeline} {config : Config} {components : ComponentFactory}
      {error : RegistryError} (found : h.box.pipelines.find? p = some x)
      (known : x.components = components)
      (failed : (Pipeline.reload p config h.box).1 = .ok (.error error)) :
      Fails h (.reload p config) config components error

variable {h : Host} {act : Act} {config : Config} {components : ComponentFactory}
  {error : RegistryError}

/-- An act that fails does nothing but to build, and the building fails. -/
theorem Fails.build (fails : h.Fails act config components error) :
    Registry.build config components h.box = (.ok (.error error), (h.act act).box) := by
  rcases built : Registry.build config components h.box with ⟨halt | error' | r, t⟩
  · cases fails with
    | openPipeline failed =>
      rw [openWith_of_halt built] at failed
      cases failed
    | reload found known failed =>
      subst known
      rw [reload_of_halt found built] at failed
      cases failed
  · cases fails with
    | @openPipeline _ _ executor _ failed =>
      have same := openWith_of_error (e := executor) built
      rw [same] at failed
      cases failed
      exact congrArg (Prod.mk _) (congrArg Prod.snd same).symm
    | @reload p _ _ _ _ found known failed =>
      subst known
      have same := reload_of_error found built
      rw [same] at failed
      cases failed
      exact congrArg (Prod.mk _) (congrArg Prod.snd same).symm
  · cases fails with
    | @openPipeline _ _ executor _ failed =>
      obtain ⟨p, ended⟩ := openWith_of_ok (e := executor) built
      cases ended.symm.trans failed
    | reload found known failed =>
      subst known
      rw [reload_of_ok found built] at failed
      cases failed

theorem run_append (before acts : List Act) :
    run (before ++ acts) = acts.foldl Host.act (run before) :=
  List.foldl_append

/-- An act that fails for want of a registry leaves the servlets that it has constructed behind. The
build constructs those of the first entries and destroys nothing; and whatever the host does later,
no servlet of that build is ever destroyed. -/
theorem failed_build_strays (before later : List Act)
    (fails : (run before).Fails act config components error) :
    ∃ (made : List Config.ServletEntry) (numbers : List Nat),
      config.BreaksOff components made error ∧ numbers.length = made.length ∧ numbers.Nodup ∧
      constructions (run (before ++ [act])).box.journal =
        (numbers.zip (made.map (·.name))).reverse ++ constructions (run before).box.journal ∧
      (∃ new, (run (before ++ [act])).box.journal = new ++ (run before).box.journal ∧
        ∀ e ∈ new, e.isEnd = false) ∧
      ∀ c ∈ numbers, (run (before ++ act :: later)).box.journal.countP (·.ends c) = 0 := by
  have sound := run_sound before
  have goes := (sound.act act).run later
  obtain ⟨made, ws, breaks, all⟩ := Registry.build_breaks fails.build
  rw [run_append, run_append, List.foldl_cons, List.foldl_cons, List.foldl_nil]
  refine ⟨made, ws.map (·.servlet.serial), breaks, ?_, all.distinct, ?_, ?_, ?_⟩
  · rw [List.length_map, all.declared.length_eq]
  · rw [all.constructed, all.zip]
  · obtain ⟨new, journal, plain⟩ := all.quiet.journal
    exact ⟨new, journal, fun e member => (Event.isIdle_of_isPlain (plain e member)).2⟩
  · intro c member
    obtain ⟨w, listed, rfl⟩ := List.mem_map.1 member
    have free := sound.accounted.toBooks.strays all listed
    apply goes.sound.accounted.ledger.proper.countP_ends_eq_zero
    exact goes.lasting.unclaimed (all.numbers w listed).2 free

/-- A site of one page, and another one whose second servlet is of an unknown class. -/
def plainSite : Config where
  servlets := [{ name := "page", className := "echo", urlPatterns := ["/"] }]

def brokenSite : Config where
  servlets :=
    [{ name := "page", className := "echo", urlPatterns := ["/"] },
      { name := "shop", className := "shop", urlPatterns := ["/shop"] }]

def plainActs : List Act := [.openPipeline plainSite .builtin none]

/-- A reload that fails has made a page. When the pipeline is closed, the page of the registry that
it has gone on with is destroyed, and that one is not. -/
theorem failed_build_strays_reload :
    (run plainActs).Fails (.reload 3 brokenSite) brokenSite .builtin
        (.unknownServletClass "shop" "shop") ∧
      constructions (run (plainActs ++ [.reload 3 brokenSite])).box.journal =
        [(4, "page"), (1, "page")] ∧
      (run (plainActs ++ [.reload 3 brokenSite, .close 3])).box.journal.countP (·.ends 1) = 1 ∧
      (run (plainActs ++ [.reload 3 brokenSite, .close 3])).box.journal.countP (·.ends 4) = 0 := by
  have fails : (run plainActs).Fails (.reload 3 brokenSite) brokenSite .builtin
      (.unknownServletClass "shop" "shop") := .reload rfl rfl rfl
  have constructed : constructions (run (plainActs ++ [.reload 3 brokenSite])).box.journal =
      [(4, "page")] ++ [(1, "page")] := rfl
  have before : constructions (run plainActs).box.journal = [(1, "page")] := rfl
  obtain ⟨made, numbers, -, -, -, grown, -, spared⟩ :=
    failed_build_strays plainActs [.close 3] fails
  have own : (4, "page") ∈ numbers.zip (made.map (·.name)) := by
    rw [before] at grown
    have same := List.append_cancel_right (constructed.symm.trans grown)
    rw [← List.mem_reverse, ← same]
    exact List.mem_singleton_self _
  exact ⟨fails, constructed, rfl, spared 4 (List.of_mem_zip own).1⟩

end Host

end ServletFilters
