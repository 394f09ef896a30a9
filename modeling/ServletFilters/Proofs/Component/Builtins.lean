import ServletFilters.Component.Builtin.Servlets
import ServletFilters.Proofs.Container.Nesting

/-!
What built-in components call. A filter goes on once, but for one that requires a header and does not
find it, `Builtin.filter_goesOn`; a servlet dispatches once or not at all, `Builtin.servlet_made`.
-/

namespace ServletFilters

theorem Run.thence_nil {x : Run α} {next : α → Container → List β} (none : ∀ a t, next a t = [])
    (s : Container) : x.thence next s = [] := by
  rcases ran : x s with ⟨halt | a, t⟩
  · exact Run.thence_of_error ran
  · rw [Run.thence_of_ok ran, none]

theorem bind_ok {x : Except ε α} {f : α → Except ε β} {b : β} (h : x >>= f = .ok b) :
    ∃ a, x = .ok a ∧ f a = .ok b := by
  cases x with
  | ok a => exact ⟨a, rfl, h⟩
  | error e => cases h

theorem bind_error {x : Except ε α} {f : α → Except ε β} {e : ε} (h : x >>= f = .error e) :
    x = .error e ∨ ∃ a, x = .ok a ∧ f a = .error e := by
  cases x with
  | ok a => exact .inr ⟨a, rfl, h⟩
  | error e' => exact .inl (congrArg _ (Except.error.inj h))

namespace Program

/-- The program acts and finishes, and calls nothing. -/
inductive Plain : Program → Prop where
  | finish (result) : Plain (.finish result)
  | act (action) {next} : (∀ a, Plain (next a)) → Plain (.act action next)

theorem Plain.made {program : Program} (h : program.Plain) (calls : Calls) (who : Component)
    (hasChain : Bool) : ∀ s, program.made calls who hasChain s = [] := by
  induction h with
  | finish result => exact fun s => rfl
  | act action _ ih => exact fun s => Run.thence_nil ih s

theorem plain_performAll (actions : List Action) (result : Result) :
    (performAll actions (.finish result)).Plain := by
  induction actions with
  | nil => exact .finish result
  | cons action rest ih => exact .act action fun _ => ih

/-- The filter goes on once, from this state, and where that fails it fails alike. -/
structure GoesOn (calls : Calls) (who : Component) (program : Program) (s w : Container) : Prop where
  quiet : Quiet s w
  depth : w.request.depth = s.request.depth
  made : program.made calls who true s = [(.proceed, w)]
  fails : ∀ {f}, (calls .proceed w).1 = .ok (.error f) →
    (program.run calls who true s).1 = .ok (.error f)

theorem goesOn_proceed (next : Result → Program) (calls : Calls) (who : Component) (s : Container)
    (plain : ∀ r, (next r).Plain)
    (fails : ∀ f t, ((next (.error f)).run calls who true t).1 = .ok (.error f)) :
    (proceed next).GoesOn calls who s s := by
  refine ⟨.refl s, rfl, ?_, fun {f} failed => ?_⟩
  · exact congrArg ((Call.proceed, s) :: ·) (Run.thence_nil (fun r => (plain r).made calls who true) s)
  · rcases ran : calls .proceed s with ⟨out, t⟩
    rw [ran] at failed
    obtain rfl : out = .ok (.error f) := failed
    change ((calls .proceed >>= fun r => (next r).run calls who true) s).1 = _
    rw [Run.bind_of_ok ran]
    exact fails f t

/-- The program dispatches the exchange once, from this state, in the pipeline it is attached to. -/
structure Sends (calls : Calls) (who : Component) (hasChain : Bool) (program : Program)
    (s w : Container) (call : Call) : Prop where
  quiet : Quiet s w
  depth : w.request.depth = s.request.depth
  made : program.made calls who hasChain s = [(call, w)]
  attached : ∃ p dispatcher target, call = .dispatch p dispatcher target ∧
    w.attachedPipeline? = some p

theorem dispatch_sends (calls : Calls) (who : Component) (hasChain : Bool) (dispatcher : Dispatcher)
    (target : Target) (s : Container) :
    (dispatch dispatcher target .finish).made calls who hasChain s = [] ∨
      ∃ call, (dispatch dispatcher target .finish).Sends calls who hasChain s s call := by
  unfold made
  cases attached : s.attachedPipeline? with
  | none => exact .inl rfl
  | some p =>
    refine .inr ⟨_, .refl s, rfl, ?_, p, dispatcher, target, rfl, attached⟩
    unfold made
    rw [attached]
    exact congrArg ((Call.dispatch p dispatcher target, s) :: ·) (Run.thence_nil (fun _ _ => rfl) s)

end Program

/-- The request has what the filter of an entry asks for. -/
def Config.FilterEntry.Admits (e : Config.FilterEntry) (r : Request) : Prop :=
  e.className = "require-header" → ∃ header, e.initParams.find? "header" = some header ∧
    ∃ h ∈ r.headers, Text.equalFold h.1 header = true

theorem header?_isSome {r : Request} {name : String} :
    (r.header? name).isSome ↔ ∃ h ∈ r.headers, Text.equalFold h.1 name = true := by
  rw [Request.header?, Headers.get?, Option.isSome_map, List.find?_isSome]

namespace Builtin

variable (calls : Calls) (who : Component)

theorem requestLog_goesOn (s : Container) : requestLog.GoesOn calls who s s := by
  refine Program.goesOn_proceed _ calls who s (fun r => ?_) fun f t => rfl
  refine .act _ fun v => ?_
  cases r with
  | ok _ => exact .act _ fun _ => .finish _
  | error f => exact .act _ fun _ => .finish _

theorem responseHeader_goesOn (name value : String) (s : Container) :
    (responseHeader name value).GoesOn calls who s (s.updateResponse (·.setHeader name value)) := by
  have rest := Program.goesOn_proceed .finish calls who
    (s.updateResponse (·.setHeader name value)) .finish fun _ _ => rfl
  exact ⟨.exchange s rfl rfl, rfl, rest.made, rest.fails⟩

theorem requireHeader_goesOn (header : String) (status : UInt16) (s : Container) :
    if (s.request.header? header).isSome then (requireHeader header status).GoesOn calls who s s
    else (requireHeader header status).made calls who true s = [] := by
  have rest := Program.goesOn_proceed .finish calls who s .finish fun _ _ => rfl
  have made : (requireHeader header status).made calls who true s =
      (if (s.request.header? header).isSome then Program.proceed .finish else _).made calls who true s :=
    rfl
  have run : (requireHeader header status).run calls who true s =
      (if (s.request.header? header).isSome then Program.proceed .finish else _).run calls who true s :=
    rfl
  split <;> rename_i has
  · rw [if_pos has] at made run
    exact ⟨.refl s, rfl, made.trans rest.made, fun failed => run ▸ rest.fails failed⟩
  · rw [if_neg has] at made
    exact made.trans ((Program.plain_performAll _ _).made calls who true s)

theorem forwarding_sends (dispatcher : Dispatcher) (path : String) (s : Container) :
    (forwarding dispatcher path).made calls who false s = [] ∨
      ∃ w call, (forwarding dispatcher path).Sends calls who false s w call := by
  have made : (forwarding dispatcher path).made calls who false s =
      (if !s.view.attached then .fail Program.notAttached
        else if dispatcher = .forward then _ else _ : Program).made calls who false s := rfl
  cases attached : s.view.attached with
  | false =>
    rw [attached] at made
    exact .inl made
  | true =>
    rw [attached] at made
    by_cases forward : dispatcher = .forward
    · simp only [if_pos forward] at made
      rcases Program.dispatch_sends calls who false dispatcher (.path path)
        (s.updateResponse (·.resetBuffer)) with none | ⟨call, sends⟩
      · exact .inl (made.trans none)
      · exact .inr ⟨s.updateResponse (·.resetBuffer), call, .exchange s rfl rfl, rfl,
          made.trans sends.made, sends.attached⟩
    · simp only [if_neg forward] at made
      rcases Program.dispatch_sends calls who false dispatcher (.path path) s with
        none | ⟨call, sends⟩
      · exact .inl (made.trans none)
      · exact .inr ⟨_, call, .refl s, rfl, made.trans sends.made, sends.attached⟩

theorem asyncEcho_made (s : Container) : asyncEcho.made calls who false s = [] := by
  refine Program.Plain.made (.act _ fun v => ?_) calls who false s
  split
  · exact Program.plain_performAll _ _
  · exact .act _ fun r => .finish r

/-! ### Making -/

theorem making_ready {made : Except Failure Program} {program : Program}
    (h : making made = .ready program) : made = .ok program := by
  cases made with
  | ok p => exact congrArg _ (Making.ready.inj h)
  | error f => cases h

theorem requiredParam_ok {d : FilterDefinition} {name value : String}
    (h : requiredParam d name = .ok value) : d.initParams.find? name = some value := by
  unfold requiredParam at h
  split at h
  · rename_i found
    exact found.trans (congrArg some (Except.ok.inj h))
  · cases h

theorem filter_cases {name : String} {cls : FilterClass}
    (known : ComponentFactory.builtin.filters.find? name = some cls) :
    (name = "request-log" ∧ cls = requestLogClass) ∨
      (name = "response-header" ∧ cls = responseHeaderClass) ∨
      (name = "require-header" ∧ cls = requireHeaderClass) := by
  simp only [ComponentFactory.builtin, Dict.ofList, List.foldl_cons, List.foldl_nil,
    Dict.find?_insert] at known
  grind [Dict.find?_empty]

theorem servlet_cases {name : String} {cls : ServletClass}
    (known : ComponentFactory.builtin.servlets.find? name = some cls) :
    (name = "echo" ∧ cls = echoClass) ∨ (name = "static-text" ∧ cls = staticTextClass) ∨
      (name = "forwarding" ∧ cls = forwardingClass) ∨ (name = "async-echo" ∧ cls = asyncEchoClass) := by
  simp only [ComponentFactory.builtin, Dict.ofList, List.foldl_cons, List.foldl_nil,
    Dict.find?_insert] at known
  grind [Dict.find?_empty]

theorem requiredParam_error {d : FilterDefinition} {name : String} {f : Failure}
    (h : requiredParam d name = .error f) : ∃ message, f = .servlet message := by
  unfold requiredParam at h
  split at h
  · cases h
  · exact ⟨_, (Except.error.inj h).symm⟩

theorem statusParam_error {owner : String} {given : Option String} {usual : UInt16} {f : Failure}
    (h : statusParam owner given usual = .error f) : ∃ message, f = .servlet message := by
  unfold statusParam at h
  split at h
  · cases h
  · split at h
    · cases h
    · exact ⟨_, (Except.error.inj h).symm⟩

theorem filter_make {name : String} {cls : FilterClass}
    (known : ComponentFactory.builtin.filters.find? name = some cls) (d : FilterDefinition) :
    (∃ program, ∀ n, cls.make d n = .ready program) ∨
      ∃ message, ∀ n, cls.make d n = .refused (.servlet message) := by
  have constant : ∃ made, (∀ n, cls.make d n = making made) ∧
      ∀ f, made = .error f → ∃ message, f = .servlet message := by
    rcases filter_cases known with ⟨-, rfl⟩ | ⟨-, rfl⟩ | ⟨-, rfl⟩
    · exact ⟨.ok requestLog, fun _ => rfl, by rintro f ⟨⟩⟩
    · refine ⟨_, fun _ => rfl, fun f failed => ?_⟩
      rcases bind_error failed with failed | ⟨name, -, failed⟩
      · exact requiredParam_error failed
      · exact requiredParam_error ((bind_error failed).resolve_right (by rintro ⟨value, -, ⟨⟩⟩))
    · refine ⟨_, fun _ => rfl, fun f failed => ?_⟩
      rcases bind_error failed with failed | ⟨status, -, failed⟩
      · exact statusParam_error failed
      · exact requiredParam_error ((bind_error failed).resolve_right (by rintro ⟨header, -, ⟨⟩⟩))
  obtain ⟨made, same, failed⟩ := constant
  simp only [same]
  cases made with
  | ok program => exact .inl ⟨program, fun _ => rfl⟩
  | error f =>
    obtain ⟨message, rfl⟩ := failed f rfl
    exact .inr ⟨message, fun _ => rfl⟩

/-- A filter that a built-in class has made goes on if the request has what the entry of the filter
asks for, and calls nothing otherwise. -/
theorem filter_goesOn {e : Config.FilterEntry} {cls : FilterClass} {n : Nat} {program : Program}
    (known : ComponentFactory.builtin.filters.find? e.className = some cls)
    (ready : cls.make (.ofEntry e) n = .ready program) (s : Container) :
    (e.Admits s.request ∧ ∃ w, program.GoesOn calls who s w) ∨
      (¬ e.Admits s.request ∧ program.made calls who true s = []) := by
  rcases filter_cases known with ⟨name, rfl⟩ | ⟨name, rfl⟩ | ⟨name, rfl⟩
  · obtain rfl := Making.ready.inj ready
    exact .inl ⟨fun other => by simp [name] at other, s, requestLog_goesOn calls who s⟩
  · obtain ⟨field, -, made⟩ := bind_ok (making_ready ready)
    obtain ⟨value, -, made⟩ := bind_ok made
    obtain rfl := Except.ok.inj made
    exact .inl ⟨fun other => by simp [name] at other, _, responseHeader_goesOn calls who field value s⟩
  · obtain ⟨status, -, made⟩ := bind_ok (making_ready ready)
    obtain ⟨header, found, made⟩ := bind_ok made
    obtain rfl := Except.ok.inj made
    have found := requiredParam_ok found
    have goesOn := requireHeader_goesOn calls who header status s
    split at goesOn <;> rename_i has
    · exact .inl ⟨fun _ => ⟨header, found, header?_isSome.1 has⟩, s, goesOn⟩
    · refine .inr ⟨fun admits => ?_, goesOn⟩
      obtain ⟨other, found', there⟩ := admits name
      obtain rfl := Option.some.inj (found.symm.trans found')
      exact has (header?_isSome.2 there)

/-- A servlet that a built-in class has made dispatches the exchange once or calls nothing. -/
theorem servlet_made {name : String} {cls : ServletClass} {entry : Config.ServletEntry} {n : Nat}
    {program : Program} (known : ComponentFactory.builtin.servlets.find? name = some cls)
    (ready : cls.make entry n = .ready program) (s : Container) :
    program.made calls who false s = [] ∨ ∃ w call, program.Sends calls who false s w call := by
  rcases servlet_cases known with ⟨-, rfl⟩ | ⟨-, rfl⟩ | ⟨-, rfl⟩ | ⟨-, rfl⟩
  · obtain rfl := Making.ready.inj ready
    exact .inl (Program.Plain.made (.act _ fun _ => Program.plain_performAll _ _) calls who false s)
  · obtain ⟨status, -, made⟩ := bind_ok (making_ready ready)
    obtain rfl := Except.ok.inj made
    exact .inl ((Program.plain_performAll _ _).made calls who false s)
  · have made := making_ready ready
    split at made
    · cases made
    · rename_i target found
      obtain ⟨dispatcher, -, made⟩ := bind_ok made
      obtain rfl := Except.ok.inj made
      exact forwarding_sends calls who dispatcher target s
  · obtain rfl := Making.ready.inj ready
    exact .inl (asyncEcho_made calls who s)

end Builtin

end ServletFilters
