import ServletFilters.Proofs.Component.Builtins
import ServletFilters.Proofs.Component.Restraint
import ServletFilters.Proofs.Registry.Contents
import ServletFilters.Script.Class

/-!
Filters that never put their chain back to its first filter. The built-in ones are such, and so are
those with scripts that have no step for it, `withScripts_advancing`. Servlets have no chain. What
scripts and built-in components never do is found in one go, `withScripts_only`.
-/

namespace ServletFilters

/-- Nowhere in the program is the chain put back to its first filter. -/
def Program.Advancing (p : Program) : Prop := p.Only (fun _ => True) (· ≠ .reuse)

def FilterClass.Advancing (cls : FilterClass) : Prop := cls.Only (fun _ => True) (· ≠ .reuse)

def ComponentFactory.Advancing (components : ComponentFactory) : Prop :=
  ∀ name cls, components.filters.find? name = some cls → cls.Advancing

/-- The filter is an advancing one, or will be once it is made. -/
def FilterConfig.Advancing (f : FilterConfig) : Prop :=
  match f.source with
  | .given component => component.program.Advancing
  | .made cls => ∀ n program, cls.make f.definition n = .ready program → program.Advancing

def Registry.Advancing (r : Registry) : Prop := ∀ f ∈ r.filters.values, f.Advancing

theorem Registry.Contents.advancing {config : Config} {components : ComponentFactory} {r : Registry}
    (h : r.Contents config components) (advancing : components.Advancing) : r.Advancing := by
  intro f member
  obtain ⟨e, -, -, cls, known, source⟩ := h.entry f member
  unfold FilterConfig.Advancing
  rw [source]
  exact advancing _ cls known f.definition

/-- A filter that is made by an advancing class, or given, is advancing. -/
theorem FilterConfig.Advancing.made {f : FilterConfig} (h : f.Advancing) {s t : Container}
    {c : Component} (made : f.make s = (.ok (.ok c), t)) : c.program.Advancing := by
  unfold FilterConfig.Advancing at h
  unfold FilterConfig.make at made
  cases source : f.source with
  | given component =>
    rw [source] at h made
    obtain rfl := value_eq made
    exact h
  | made cls =>
    rw [source] at h made
    obtain ⟨n, ready, -⟩ := makeComponent_program made
    exact h n _ ready

theorem ComponentFactory.Only.advancing {components : ComponentFactory}
    (h : components.Only (fun _ => True) (· ≠ .reuse)) : components.Advancing :=
  fun _ _ known => h.filter known

section Only

variable {acts : Action → Prop} {edits : ChainAction → Prop} (plain : ∀ a, a ≠ .retrieve → acts a)
  (moves : ∀ a, a ≠ .reuse → a ≠ .gauge → edits a)
include plain moves

omit moves in
theorem Builtin.only_answer {actions : List Action} (known : .retrieve ∉ actions) :
    (Program.performAll actions .done).Only acts edits :=
  Program.only_performAll (fun a member => plain a fun same => known (same ▸ member)) trivial

theorem Builtin.only_filters {name : String} {cls : FilterClass}
    (known : ComponentFactory.builtin.filters.find? name = some cls) : cls.Only acts edits := by
  have look : acts .look := plain _ (by rintro ⟨⟩)
  have proceed : edits .proceed := moves _ (by rintro ⟨⟩) (by rintro ⟨⟩)
  intro definition n program ready
  rcases filter_cases known with ⟨-, rfl⟩ | ⟨-, rfl⟩ | ⟨-, rfl⟩
  · obtain rfl := Making.ready.inj ready
    refine ⟨proceed, fun result => ⟨look, fun v => ?_⟩⟩
    cases result <;> exact ⟨plain _ (by rintro ⟨⟩), fun _ => trivial⟩
  · obtain ⟨field, -, made⟩ := bind_ok (making_ready ready)
    obtain ⟨value, -, made⟩ := bind_ok made
    obtain rfl := Except.ok.inj made
    exact ⟨plain _ (by rintro ⟨⟩), fun _ => ⟨proceed, fun _ => trivial⟩⟩
  · obtain ⟨status, -, made⟩ := bind_ok (making_ready ready)
    obtain ⟨header, -, made⟩ := bind_ok made
    obtain rfl := Except.ok.inj made
    refine ⟨look, fun v => ?_⟩
    dsimp only
    split
    · exact ⟨proceed, fun _ => trivial⟩
    · exact only_answer plain (by simp)

omit moves in
theorem Builtin.only_servlets {name : String} {cls : ServletClass}
    (known : ComponentFactory.builtin.servlets.find? name = some cls) : cls.Only acts edits := by
  have look : acts .look := plain _ (by rintro ⟨⟩)
  intro entry n program ready
  rcases servlet_cases known with ⟨-, rfl⟩ | ⟨-, rfl⟩ | ⟨-, rfl⟩ | ⟨-, rfl⟩
  · obtain rfl := Making.ready.inj ready
    exact ⟨look, fun v => only_answer plain (by simp)⟩
  · obtain ⟨status, -, made⟩ := bind_ok (making_ready ready)
    obtain rfl := Except.ok.inj made
    exact only_answer plain (by simp)
  · have made := making_ready ready
    split at made
    · cases made
    · obtain ⟨dispatcher, -, made⟩ := bind_ok made
      obtain rfl := Except.ok.inj made
      refine ⟨look, fun v => ?_⟩
      dsimp only
      split
      · trivial
      · split
        · exact ⟨plain _ (by rintro ⟨⟩), fun _ _ => trivial⟩
        · exact fun _ => trivial
  · obtain rfl := Making.ready.inj ready
    refine ⟨look, fun v => ?_⟩
    dsimp only
    split
    · exact only_answer plain (by simp)
    · exact ⟨plain _ (by rintro ⟨⟩), fun _ => trivial⟩

theorem Builtin.only_builtin : ComponentFactory.builtin.Only acts edits :=
  ⟨only_filters plain moves, only_servlets plain⟩

end Only

namespace Script

mutual
/-- Whether the step and those in it leave the chain at its place or move it on. -/
def Step.isAdvancing : Step → Bool
  | .reuse => false
  | .attempt body handler => areAdvancing body && areAdvancing handler
  | .ifHeader _ yes no => areAdvancing yes && areAdvancing no
  | .ifDispatcher _ yes no => areAdvancing yes && areAdvancing no
  | .ifLess _ _ yes no => areAdvancing yes && areAdvancing no
  | _ => true
def areAdvancing : List Step → Bool
  | [] => true
  | step :: rest => step.isAdvancing && areAdvancing rest
end

section Only

variable {acts : Action → Prop} {edits : ChainAction → Prop} {onFailure : Failure → Program}
  {next body : Program}

theorem only_continueWith (failed : ∀ failure, (onFailure failure).Only acts edits)
    (h : next.Only acts edits) (result : Result) :
    (continueWith onFailure next result).Only acts edits := by
  cases result with
  | ok done => exact h
  | error failure => exact failed failure

theorem only_choice (look : acts .look) (p : View → Prop) [DecidablePred p] {yes no : Program}
    (first : yes.Only acts edits) (second : no.Only acts edits) :
    (Program.look fun v => if p v then yes else no).Only acts edits := by
  refine ⟨look, fun v => ?_⟩
  dsimp only
  split
  · exact first
  · exact second

theorem only_withChain (failed : ∀ failure, (onFailure failure).Only acts edits) (hasChain : Bool)
    (h : body.Only acts edits) : (withChain hasChain onFailure body).Only acts edits := by
  cases hasChain with
  | true => exact h
  | false => exact failed _

theorem both_or {p : Prop} {a b : Bool} (h : p ∨ (a && b) = true) :
    (p ∨ a = true) ∧ (p ∨ b = true) :=
  or_and_left.1 (h.imp_right Bool.and_eq_true_iff.1)

mutual
theorem only_step (plain : ∀ a, a ≠ .retrieve → acts a)
    (moves : ∀ a, a ≠ .reuse → a ≠ .gauge → edits a) {onFailure : Failure → Program}
    {next : Program} (failed : ∀ failure, (onFailure failure).Only acts edits) (hasChain : Bool)
    (h : next.Only acts edits) (step : Step) (only : edits .reuse ∨ step.isAdvancing = true) :
    (step.program hasChain onFailure next).Only acts edits := by
  have look : acts .look := plain _ (by rintro ⟨⟩)
  have told (value : Observation) : acts (.observe value) := plain _ (by rintro ⟨⟩)
  have goesOn := only_continueWith failed h
  have edit : ∀ {action : ChainAction}, edits action →
      (Program.chain action fun _ => next).Only acts edits := fun allowed => ⟨allowed, fun _ => h⟩
  cases step with
  | write _ | setHeader _ _ | addHeader _ _ | setStatus _ | resetBuffer | setAttribute _ _
  | setAsyncSupported _ | setNonAsyncComponents _ | note _ =>
    exact ⟨plain _ (by rintro ⟨⟩), fun _ => h⟩
  | takeBody | removeAttribute _ | replaceDispatch _ | takeAsync =>
    exact ⟨look, fun _ => ⟨plain _ (by rintro ⟨⟩), fun _ => ⟨told _, fun _ => h⟩⟩⟩
  | reportResponseHeader _ | reportResponse | listResponse | reportHeader _ | reportAttribute _
  | reportFields | reportParams | reportState | reportAttached | listRequest =>
    exact ⟨look, fun _ => ⟨told _, fun _ => h⟩⟩
  | increment _ => exact ⟨look, fun _ => ⟨plain _ (by rintro ⟨⟩), fun _ => h⟩⟩
  | startAsync => exact ⟨plain _ (by rintro ⟨⟩), goesOn⟩
  | proceed =>
    exact only_withChain failed hasChain ⟨moves _ (by rintro ⟨⟩) (by rintro ⟨⟩), goesOn⟩
  | reuse =>
    exact only_withChain failed hasChain (edit (only.resolve_right (by rintro ⟨⟩)))
  | release | reportChain =>
    exact only_withChain failed hasChain (edit (moves _ (by rintro ⟨⟩) (by rintro ⟨⟩)))
  | fail failure => exact failed failure
  | panic message => trivial
  | attempt body handler =>
    obtain ⟨first, second⟩ := both_or only
    have caught : ∀ failure, Program.Only acts edits (.perform (.observe (.caught failure))
        (programOf hasChain onFailure next handler)) :=
      fun _ => ⟨told _, fun _ => only_steps plain moves failed hasChain h handler second⟩
    exact only_steps plain moves caught hasChain h body first
  | ifHeader _ yes no | ifDispatcher _ yes no | ifLess _ _ yes no =>
    obtain ⟨first, second⟩ := both_or only
    exact only_choice look _ (only_steps plain moves failed hasChain h yes first)
      (only_steps plain moves failed hasChain h no second)
  | dispatch dispatcher target => exact only_choice look _ goesOn (failed _)
  | reload config =>
    cases config with
    | ok config => exact only_choice look _ goesOn (failed _)
    | error failure => exact only_choice look _ (failed failure) (failed _)

/-- A script does no more than its steps, of which none asks for what was kept or for the room of the
chain. -/
theorem only_steps (plain : ∀ a, a ≠ .retrieve → acts a)
    (moves : ∀ a, a ≠ .reuse → a ≠ .gauge → edits a) {onFailure : Failure → Program}
    {next : Program} (failed : ∀ failure, (onFailure failure).Only acts edits) (hasChain : Bool)
    (h : next.Only acts edits) (steps : List Step) (only : edits .reuse ∨ areAdvancing steps = true) :
    (programOf hasChain onFailure next steps).Only acts edits := by
  cases steps with
  | nil => exact h
  | cons step rest =>
    obtain ⟨first, later⟩ := both_or only
    exact only_step plain moves failed hasChain
      (only_steps plain moves failed hasChain h rest later) step first
end

end Only

/-- No script has a step that puts the chain back. -/
def Library.Advancing (scripts : Library) : Prop :=
  ∀ name steps, scripts.find? name = some steps → areAdvancing steps = true

theorem only_making {acts : Action → Prop} {edits : ChainAction → Prop}
    (plain : ∀ a, a ≠ .retrieve → acts a) (moves : ∀ a, a ≠ .reuse → a ≠ .gauge → edits a)
    {scripts : Library} (only : edits .reuse ∨ scripts.Advancing) {hasChain : Bool} {name : String}
    {params : Dict String String} {n : Nat} {program : Program}
    (ready : making scripts hasChain name params n = .ready program) : program.Only acts edits := by
  unfold making at ready
  dsimp only at ready
  split at ready
  · cases ready
  · split at ready
    · cases ready
    · obtain rfl := Making.ready.inj ready
      have failed : ∀ failure, (Program.fail failure).Only acts edits := fun _ => trivial
      have done : Program.done.Only acts edits := trivial
      refine only_steps plain moves failed hasChain done _ (only.imp_right fun advancing => ?_)
      cases found : (params.find? "script").bind scripts.find? with
      | none => rfl
      | some steps =>
        obtain ⟨name, -, found⟩ := Option.bind_eq_some_iff.1 found
        exact advancing name steps found

end Script

theorem ComponentFactory.Only.withScripts {acts : Action → Prop} {edits : ChainAction → Prop}
    (plain : ∀ a, a ≠ .retrieve → acts a) (moves : ∀ a, a ≠ .reuse → a ≠ .gauge → edits a)
    {scripts : Script.Library} (only : edits .reuse ∨ scripts.Advancing)
    {components : ComponentFactory} (h : components.Only acts edits) (classes : List String) :
    (components.withScripts scripts classes).Only acts edits := by
  have filter : (Script.filterClass scripts).Only acts edits :=
    fun _ _ _ ready => Script.only_making plain moves only ready
  have servlet : (Script.servletClass scripts).Only acts edits :=
    fun _ _ _ ready => Script.only_making plain moves only ready
  unfold ComponentFactory.withScripts
  induction classes generalizing components with
  | nil => exact h
  | cons name rest ih => exact ih ((h.registerFilter name filter).registerServlet name servlet)

theorem withScripts_only {acts : Action → Prop} {edits : ChainAction → Prop}
    (plain : ∀ a, a ≠ .retrieve → acts a) (moves : ∀ a, a ≠ .reuse → a ≠ .gauge → edits a)
    {scripts : Script.Library} (only : edits .reuse ∨ scripts.Advancing) (classes : List String) :
    (ComponentFactory.builtin.withScripts scripts classes).Only acts edits :=
  .withScripts plain moves only (Builtin.only_builtin plain moves) classes

/-- The built-in filters are advancing, and with them the scripted ones that have such scripts. -/
theorem withScripts_advancing {scripts : Script.Library} (advancing : scripts.Advancing)
    (classes : List String) : (ComponentFactory.builtin.withScripts scripts classes).Advancing :=
  (withScripts_only (fun _ _ => trivial) (fun _ other _ => other) (.inr advancing) classes).advancing

/-- No scripted or built-in component asks for the room of its chain. -/
theorem withScripts_roomless (scripts : Script.Library) (classes : List String) :
    (ComponentFactory.builtin.withScripts scripts classes).Roomless :=
  withScripts_only (fun _ _ => trivial) (fun _ _ other => other) (.inl (by rintro ⟨⟩)) classes

/-- No scripted or built-in component asks for what it kept. -/
theorem withScripts_forgetful (scripts : Script.Library) (classes : List String) :
    (ComponentFactory.builtin.withScripts scripts classes).Forgetful :=
  withScripts_only (fun _ other => other) (fun _ _ _ => trivial) (.inl trivial) classes

end ServletFilters
