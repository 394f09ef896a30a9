import ServletFilters.Component.Builtin.Servlets
import ServletFilters.Proofs.Parallel.Likeness
import ServletFilters.Script.Class

/-!
Scripts and built-in components tell failures apart by their texts only: given failures that look
alike, they go on alike, `even_components`.
-/

namespace ServletFilters

def Program.Even (m : Margin) (p : Program) : Prop := p.Like m p

variable {m : Margin}

namespace Program

theorem even_finish (result : Result) : (finish result).Even m := .finish (m.result_refl result)

theorem even_look {next : View → Program} (h : ∀ v, (next v).Even m) : (look next).Even m :=
  .act .look fun v _ same => same ▸ h v

theorem even_perform (action : Action) {next : Program} (h : next.Even m) :
    (perform action next).Even m := .act action fun _ _ _ => h

theorem even_performAll (actions : List Action) {next : Program} (h : next.Even m) :
    (performAll actions next).Even m := by
  induction actions with
  | nil => exact h
  | cons action rest ih => exact even_perform action ih

end Program

namespace Script

variable {onFailure : Failure → Program} {next body : Program}

theorem even_report (value : View → Observation) (h : next.Even m) : (report value next).Even m :=
  Program.even_look fun _ => Program.even_perform _ h

theorem even_reportThen (value : View → Observation) (action : Action) (h : next.Even m) :
    (reportThen value action next).Even m :=
  Program.even_look fun _ => Program.even_perform _ (Program.even_perform _ h)

theorem like_continueWith (failed : ∀ {f g}, m.failure f g → (onFailure f).Like m (onFailure g))
    (h : next.Even m) {r r' : Result} (ends : m.Result r r') :
    (continueWith onFailure next r).Like m (continueWith onFailure next r') := by
  cases ends with
  | ok same => exact h
  | error like => exact failed like

theorem even_withPipeline (failed : ∀ {f g}, m.failure f g → (onFailure f).Like m (onFailure g))
    (h : body.Even m) : (withPipeline onFailure body).Even m := by
  refine Program.even_look fun v => ?_
  split
  · exact h
  · exact failed (m.failure_refl _)

theorem even_withChain (failed : ∀ {f g}, m.failure f g → (onFailure f).Like m (onFailure g))
    (hasChain : Bool) (h : body.Even m) : (withChain hasChain onFailure body).Even m := by
  cases hasChain with
  | true => exact h
  | false => exact failed (m.failure_refl _)

theorem even_choice (p : View → Prop) [DecidablePred p] {yes no : Program} (first : yes.Even m)
    (second : no.Even m) : (Program.look fun v => if p v then yes else no).Even m := by
  refine Program.even_look fun v => ?_
  split
  · exact first
  · exact second

mutual
theorem even_step {onFailure : Failure → Program} {next : Program}
    (failed : ∀ {f g}, m.failure f g → (onFailure f).Like m (onFailure g)) (hasChain : Bool)
    (h : next.Even m) (step : Step) : (step.program hasChain onFailure next).Even m := by
  have goesOn : ∀ r r', m.Result r r' →
      (continueWith onFailure next r).Like m (continueWith onFailure next r') :=
    fun _ _ => like_continueWith failed h
  cases step with
  | write _ | setHeader _ _ | addHeader _ _ | setStatus _ | resetBuffer | setAttribute _ _
  | setAsyncSupported _ | setNonAsyncComponents _ | note _ => exact Program.even_perform _ h
  | takeBody | removeAttribute _ | replaceDispatch _ | takeAsync => exact even_reportThen _ _ h
  | reportResponseHeader _ | reportResponse | listResponse | reportHeader _ | reportAttribute _
  | reportFields | reportParams | reportState | reportAttached | listRequest =>
    exact even_report _ h
  | startAsync => exact .act .startAsync fun r r' same => same ▸ goesOn r r (m.result_refl r)
  | proceed => exact even_withChain failed hasChain (.chain .proceed goesOn)
  | reuse => exact even_withChain failed hasChain (.chain .reuse fun _ _ _ => h)
  | release => exact even_withChain failed hasChain (.chain .release fun _ _ _ => h)
  | reportChain => exact even_withChain failed hasChain (.chain .observe fun _ _ _ => h)
  | fail failure => exact failed (m.failure_refl failure)
  | panic message => exact .panic message
  | attempt body handler =>
    have answer := even_steps failed hasChain h handler
    exact even_steps (fun like => .caught like fun _ => answer) hasChain h body
  | ifHeader _ yes no | ifDispatcher _ yes no | ifLess _ _ yes no =>
    exact even_choice _ (even_steps failed hasChain h yes) (even_steps failed hasChain h no)
  | increment name => exact Program.even_look fun v => Program.even_perform _ h
  | dispatch dispatcher target => exact even_withPipeline failed (.dispatch _ _ goesOn)
  | reload config =>
    cases config with
    | ok config => exact even_withPipeline failed (.reload config goesOn)
    | error failure => exact even_withPipeline failed (failed (m.failure_refl failure))

/-- A script goes on alike as far as the answers to its failures do. -/
theorem even_steps {onFailure : Failure → Program} {next : Program}
    (failed : ∀ {f g}, m.failure f g → (onFailure f).Like m (onFailure g)) (hasChain : Bool)
    (h : next.Even m) (steps : List Step) : (programOf hasChain onFailure next steps).Even m := by
  cases steps with
  | nil => exact h
  | cons step rest => exact even_step failed hasChain (even_steps failed hasChain h rest) step
end

theorem even_program (hasChain : Bool) (steps : List Step) : (program hasChain steps).Even m :=
  even_steps (fun like => .finish (.error like)) hasChain (.finish (.ok rfl)) steps

end Script

namespace Margin

theorem Even.registerFilter {components : ComponentFactory} (h : m.Even components) (name : String)
    {cls : FilterClass} (even : m.EvenFilter cls) : m.Even (components.registerFilter name cls) where
  filter found := by
    rcases ComponentFactory.registerFilter_cases found with rfl | before
    · exact even
    · exact h.filter before
  servlet := h.servlet

theorem Even.registerServlet {components : ComponentFactory} (h : m.Even components) (name : String)
    {cls : ServletClass} (even : m.EvenServlet cls) :
    m.Even (components.registerServlet name cls) where
  filter := h.filter
  servlet found := by
    rcases ComponentFactory.registerServlet_cases found with rfl | before
    · exact even
    · exact h.servlet before

theorem even_scripted (exact : m.exact) (scripts : Script.Library) (hasChain : Bool)
    (name : String) (params : Dict String String) {a b : Nat} (equal : m.exact → a = b) :
    m.Making (Script.making scripts hasChain name params a)
      (Script.making scripts hasChain name params b) := by
  obtain rfl := equal exact
  refine making_refl fun p made => ?_
  unfold Script.making at made
  dsimp only at made
  split at made
  · cases made
  · split at made
    · cases made
    · obtain rfl := Making.ready.inj made
      exact Script.even_program hasChain _

end Margin

namespace Builtin

theorem even_requestLog : requestLog.Even m := by
  refine .chain .proceed fun r r' ends => .act .look fun v _ same => same ▸ ?_
  cases ends with
  | ok same => exact Program.even_perform _ (.finish (.ok rfl))
  | error like =>
    dsimp only
    rw [m.message like]
    exact .act _ fun _ _ _ => .finish (.error like)

theorem even_responseHeader (name value : String) : (responseHeader name value).Even m :=
  Program.even_perform _ (.chain .proceed fun _ _ ends => .finish ends)

theorem even_requireHeader (header : String) (status : UInt16) :
    (requireHeader header status).Even m := by
  refine Program.even_look fun v => ?_
  split
  · exact .chain .proceed fun _ _ ends => .finish ends
  · exact Program.even_performAll _ (Program.even_finish _)

theorem even_echo : echo.Even m :=
  Program.even_look fun _ => Program.even_performAll _ (Program.even_finish _)

theorem even_staticText (status : UInt16) (contentType body : String) :
    (staticText status contentType body).Even m :=
  Program.even_performAll _ (Program.even_finish _)

theorem even_forwarding (dispatcher : Dispatcher) (path : String) :
    (forwarding dispatcher path).Even m := by
  refine Program.even_look fun v => ?_
  split
  · exact Program.even_finish _
  · split
    · exact Program.even_perform _ (.dispatch _ _ fun _ _ ends => .finish ends)
    · exact .dispatch _ _ fun _ _ ends => .finish ends

theorem even_asyncEcho : asyncEcho.Even m := by
  refine Program.even_look fun v => ?_
  split
  · exact Program.even_performAll _ (Program.even_finish _)
  · exact .act .startAsync fun r _ same => same ▸ Program.even_finish r

end Builtin

namespace Margin

def EvenMade (m : Margin) (made : Except Failure Program) : Prop :=
  ∀ p, made = .ok p → p.Even m

theorem EvenMade.ready {p : Program} (even : p.Even m) : m.EvenMade (.ok p) := by
  rintro q ⟨⟩
  exact even

theorem EvenMade.bind {x : Except Failure α} {f : α → Except Failure Program}
    (even : ∀ a, m.EvenMade (f a)) : m.EvenMade (x >>= f) := by
  cases x with
  | ok a => exact even a
  | error failure => rintro q ⟨⟩

theorem EvenMade.making {made : Except Failure Program} (even : m.EvenMade made) :
    m.Making (Builtin.making made) (Builtin.making made) := by
  cases made with
  | ok program => exact .ready (even program rfl)
  | error failure => exact .refused failure

theorem even_builtin (m : Margin) : m.Even .builtin := by
  have none : m.Even {} := ⟨by rintro _ _ ⟨⟩, by rintro _ _ ⟨⟩⟩
  have requestLog : m.EvenFilter Builtin.requestLogClass := fun _ _ _ _ =>
    .ready Builtin.even_requestLog
  have responseHeader : m.EvenFilter Builtin.responseHeaderClass := fun _ _ _ _ =>
    (EvenMade.bind fun name => .bind fun value =>
      .ready (Builtin.even_responseHeader name value)).making
  have requireHeader : m.EvenFilter Builtin.requireHeaderClass := fun _ _ _ _ =>
    (EvenMade.bind fun status => .bind fun header =>
      .ready (Builtin.even_requireHeader header status)).making
  have echo : m.EvenServlet Builtin.echoClass := fun _ _ _ _ => .ready Builtin.even_echo
  have staticText : m.EvenServlet Builtin.staticTextClass := fun _ _ _ _ =>
    (EvenMade.bind fun status => .ready (Builtin.even_staticText status _ _)).making
  have forwarding : m.EvenServlet Builtin.forwardingClass := by
    intro entry a b _
    refine EvenMade.making ?_
    split
    · rintro p ⟨⟩
    · exact .bind fun dispatcher => .ready (Builtin.even_forwarding dispatcher _)
  have asyncEcho : m.EvenServlet Builtin.asyncEchoClass := fun _ _ _ _ =>
    .ready Builtin.even_asyncEcho
  exact ((((((none.registerFilter "request-log" requestLog).registerFilter "response-header"
    responseHeader).registerFilter "require-header" requireHeader).registerServlet "echo"
    echo).registerServlet "static-text" staticText).registerServlet "forwarding"
    forwarding).registerServlet "async-echo" asyncEcho

/-- In exact runs all scripted and built-in components go on alike. -/
theorem even_components (exact : m.exact) (scripts : Script.Library) (classes : List String) :
    m.Even (ComponentFactory.builtin.withScripts scripts classes) := by
  have step : ∀ {components : ComponentFactory}, m.Even components → ∀ name,
      m.Even ((components.registerFilter name (Script.filterClass scripts)).registerServlet name
        (Script.servletClass scripts)) := by
    intro components even name
    refine (even.registerFilter name ?_).registerServlet name ?_
    · exact fun d a b => even_scripted exact scripts true d.name d.initParams
    · exact fun entry a b => even_scripted exact scripts false entry.name entry.initParams
  have all : ∀ (classes : List String) {components : ComponentFactory}, m.Even components →
      m.Even (components.withScripts scripts classes) := by
    intro classes
    induction classes with
    | nil => exact id
    | cons name rest ih => exact fun even => ih (step even name)
  exact all classes m.even_builtin

end Margin

end ServletFilters
