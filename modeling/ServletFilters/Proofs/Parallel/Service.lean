import ServletFilters.Container.Client
import ServletFilters.Proofs.Parallel.Dispatch

/-!
Requests that are serviced in two runs, and what clients are told. From containers that go the same
way on, clients that ask for the same are told the same within the margin, `uses_like`.
-/

namespace ServletFilters

inductive ServiceError.Like (m : Margin) : ServiceError → ServiceError → Prop where
  | notFound (path) : Like m (.notFound path) (.notFound path)
  | chain {f g} : m.failure f g → Like m (.chain f) (.chain g)

inductive Answer.Like (m : Margin) : Answer → Answer → Prop where
  | done : Like m .done .done
  | serviced {r r'} : Ends (ServiceError.Like m) Eq r r' → Like m (.serviced r) (.serviced r')
  | dispatched {r r'} : m.Result r r' → Like m (.dispatched r) (.dispatched r')
  | reloaded (result) : Like m (.reloaded result) (.reloaded result)

theorem Answer.Like.eq {m : Margin} (plain : m.failure = Eq) {a a' : Answer} (h : a.Like m a') :
    a = a' := by
  have failures : ∀ {f g}, m.failure f g → f = g := by
    intro f g same
    rwa [plain] at same
  cases h with
  | done => rfl
  | serviced ends =>
    have same := ends.imp (F := Eq) (B := Eq) (fun like => by cases like with
      | notFound path => rfl
      | chain related => rw [failures related]) id
    rw [same.eq]
  | dispatched ends => rw [(ends.imp (F := Eq) failures id).eq]
  | reloaded result => rfl

structure Report.Like (m : Margin) (r r' : Report) : Prop where
  answer : Ends Eq (Answer.Like m) r.answer r'.answer
  events : m.Accord r.events r'.events
  request : ∃ n p, r'.request = { r.request with serial := n, pipeline := p } ∧
    Option.Rel m.pipeline r.request.pipeline p ∧ (m.exact → r.request.serial = n)
  response : ∃ n, r'.response = { r.response with serial := n } ∧ (m.exact → r.response.serial = n)
  unrecorded : r.lastServiced = none ∧ r'.lastServiced = none

section Services

variable {m : Margin} {old old' : List Event} {i : Pairing} {s t : Container}

theorem takeAsync_tandem (h : Parallel m old old' i s t) :
    Tandem m old old' i (fun _ => Eq) s t (Pipeline.takeAsync s) (Pipeline.takeAsync t) :=
  .ok (h.updateRequest (fun _ _ _ => rfl) (fun _ => rfl) fun _ => rfl)
    (h.request_eq (·.asyncStarted) fun _ _ _ => rfl).symm (.quiet rfl rfl (Nat.le_refl _) (.inl rfl) rfl rfl)
    (.quiet rfl rfl (Nat.le_refl _) (.inl rfl) rfl rfl)

theorem resume_tandem {again again' : Run Result} (times : Nat) (h : Parallel m old old' i s t)
    (visits : ∀ {j u v}, i.In j → Parallel m old old' j u v →
      Tandem m old old' j (fun _ => m.Result) u v (again u) (again' v)) :
    Tandem m old old' i (fun _ => m.Result) s t (Pipeline.resume again times s)
      (Pipeline.resume again' times t) := by
  induction times generalizing i s t with
  | zero =>
    refine .bind (takeAsync_tandem h) ?_
    rintro j suspended _ u v - rfl h - -
    cases suspended <;> exact .pure h (m.result_refl _)
  | succ n ih =>
    refine .bind (takeAsync_tandem h) ?_
    rintro j suspended _ u v within rfl h - -
    cases suspended with
    | false => exact .pure h (m.result_refl _)
    | true =>
      -- Each visit may pair new instances, so the next one starts from a later pairing.
      refine .bind (visits within h) ?_
      intro k result result' u v further ends h _ _
      cases ends with
      | error like => exact .pure h (.error like)
      | ok same => exact ih h fun later h => visits ((within.trans further).trans later) h

variable {calls calls' : Calls} {p q : Nat} {r r' : Registry} {w w' : Wrapper}

theorem traverse_tandem (alongside : Alongside m old old' calls calls')
    (corresponds : m.pipeline p q) (like : r.Like m i r') (alike : w.Like m w') (path : String)
    (h : Parallel m old old' i s t) :
    Tandem m old old' i (fun _ => m.Result) s t (Pipeline.traverse calls p r w path s)
      (Pipeline.traverse calls' q r' w' path t) := by
  unfold Pipeline.traverse
  refine .bind (dispatchTo_tandem alongside corresponds like alike _ true h) ?_
  intro j result result' u v within ends h _ _
  cases ends with
  | error like => exact .pure h (.error like)
  | ok same =>
    refine resume_tandem maxAsyncDispatches h fun further h => ?_
    exact dispatchTo_tandem alongside corresponds (like.mono (within.trans further)) alike _ true h

theorem serviceOn_tandem (alongside : Alongside m old old' calls calls')
    (corresponds : m.pipeline p q) (like : r.Like m i r') (path : String)
    (h : Parallel m old old' i s t) :
    Tandem m old old' i (fun _ => Ends (ServiceError.Like m) Eq) s t
      (Pipeline.serviceOn calls p r path s) (Pipeline.serviceOn calls' q r' path t) := by
  unfold Pipeline.serviceOn
  rcases rel_cases (mapServlet_like like path) with ⟨none, none'⟩ | ⟨w, w', some, some', alike⟩
  · rw [none, none']
    exact .pure h (.error (.notFound path))
  rw [some, some']
  refine .bind (traverse_tandem alongside corresponds like alike path h) ?_
  intro j result result' u v _ ends h _ _
  cases ends with
  | ok same => exact .pure h (.ok rfl)
  | error failed =>
    dsimp only
    rw [m.kind failed]
    refine .bind (.record h (.same _)) fun _ _ h _ _ => ?_
    rw [Run.get_bind_apply, Run.get_bind_apply, h.request_eq (·.id) fun _ _ _ => rfl, alike.name,
      m.message failed]
    exact .bind (.record h (.same _)) fun _ _ h _ _ => .pure h (.error (.chain failed))

theorem serviceWith_tandem (alongside : Alongside m old old' calls calls')
    (corresponds : m.pipeline p q) (h : Parallel m old old' i s t) :
    Tandem m old old' i (fun _ => Ends (ServiceError.Like m) Eq) s t
      (Pipeline.serviceWith calls p s) (Pipeline.serviceWith calls' q t) := by
  have attached := h.attach corresponds
  unfold Pipeline.serviceWith
  rw [Run.modify_bind_apply, Run.modify_bind_apply, Run.get_bind_apply, Run.get_bind_apply]
  have path := attached.request_eq (·.path) fun _ _ _ => rfl
  rcases rel_cases (attached.pipelines corresponds) with ⟨none, none'⟩ | ⟨x, y, some, some', same⟩
  · rw [none, none']
    exact .after (.pure attached (.error (.chain (m.failure_refl _)))) (.quiet rfl rfl (Nat.le_refl _) (.inl rfl) rfl rfl)
      (.quiet rfl rfl (Nat.le_refl _) (.inl rfl) rfl rfl)
  · rw [some, some', path]
    exact .after (whileHeld_tandem same.registry
      (serviceOn_tandem alongside corresponds same.registry _) attached) (.quiet rfl rfl (Nat.le_refl _) (.inl rfl) rfl rfl)
      (.quiet rfl rfl (Nat.le_refl _) (.inl rfl) rfl rfl)

theorem use_tandem (corresponds : m.pipeline p q) (h : Parallel m old old' i s t)
    (unrecorded : s.lastServiced = none ∧ t.lastServiced = none) (u : Use) :
    Tandem m old old' i (fun _ => Answer.Like m) s t (u.run p s) (u.run q t) := by
  cases u with
  | request spec =>
    exact .ok (h.openRequest unrecorded spec) .done
      (.quiet rfl rfl (Nat.le_add_right _ 2) (.inl rfl) rfl rfl)
      (.quiet rfl rfl (Nat.le_add_right _ 2) (.inl rfl) rfl rfl)
  | response =>
    exact .ok (h.newResponse {}) .done (.quiet rfl rfl (Nat.le_succ _) (.inl rfl) rfl rfl)
      (.quiet rfl rfl (Nat.le_succ _) (.inl rfl) rfl rfl)
  | service levels =>
    exact .bind (serviceWith_tandem (nestedCalls_alongside levels) corresponds h)
      fun _ ends h _ _ => .pure h (.serviced ends)
  | dispatch levels dispatcher target =>
    exact .bind (dispatch_tandem (nestedCalls_alongside levels) corresponds dispatcher target h)
      fun _ ends h _ _ => .pure h (.dispatched ends)
  | reload config =>
    refine .bind (reload_tandem corresponds config h) ?_
    rintro j result _ u v - rfl h - -
    exact .pure h (.reloaded result)

theorem use_like (corresponds : m.pipeline p q) (h : Parallel m old old' i s t)
    (unrecorded : s.lastServiced = none ∧ t.lastServiced = none) (u : Use) :
    (s.report p u).Like m (t.report q u) ∧
      (∃ j, i.In j ∧ Parallel m (s.use p u).journal (t.use q u).journal j (s.use p u) (t.use q u)) ∧
      Settles s (s.use p u) ∧ Settles t (t.use q u) := by
  -- A report has the events of its own use only, so the journals are compared from here on.
  obtain ⟨settles, settles', j, within, after, ends⟩ := use_tandem corresponds
    (h.anew s.journal t.journal) unrecorded u
  obtain ⟨new, new', journal, journal', accord⟩ := after.journal
  refine ⟨⟨ends, ?_, after.exchange.request, after.exchange.response, settles.unrecorded unrecorded.1,
    settles'.unrecorded unrecorded.2⟩, ⟨j, within, after.anew _ _⟩, settles, settles'⟩
  have since : ∀ {new : List Event} {s t : Container}, t.journal = new ++ s.journal →
      t.journal.take (t.journal.length - s.journal.length) = new := by
    intro new s t journal
    rw [journal, List.length_append, Nat.add_sub_cancel, List.take_left]
  rw [show (s.report p u).events = new from since journal,
    show (t.report q u).events = new' from since journal']
  exact accord

/-- Clients that ask for the same are told the same within the margin, and the containers still go the
same way after that. -/
theorem uses_like (corresponds : m.pipeline p q) (h : Parallel m old old' i s t)
    (unrecorded : s.lastServiced = none ∧ t.lastServiced = none) (uses : List Use) :
    List.Forall₂ (Report.Like m) (s.reports p uses) (t.reports q uses) ∧
      (∃ j old old', i.In j ∧ Parallel m old old' j (uses.foldl (Container.use p) s)
        (uses.foldl (Container.use q) t)) ∧
      Settles s (uses.foldl (Container.use p) s) ∧ Settles t (uses.foldl (Container.use q) t) := by
  induction uses generalizing i s t old old' with
  | nil => exact ⟨.nil, ⟨i, old, old', .refl i, h⟩, .refl s, .refl t⟩
  | cons u rest ih =>
    obtain ⟨like, ⟨j, within, after⟩, settles, settles'⟩ := use_like corresponds h unrecorded u
    obtain ⟨likes, ⟨k, old, old', further, last⟩, later, later'⟩ :=
      ih after ⟨settles.unrecorded unrecorded.1, settles'.unrecorded unrecorded.2⟩
    exact ⟨.cons like likes, ⟨k, old, old', within.trans further, last⟩, settles.trans later,
      settles'.trans later'⟩

theorem Report.Like.exchange {r r' : Report} (h : r.Like m r') (exact : m.exact)
    (pipelines : ∀ {p q}, m.pipeline p q → p = q) :
    r'.request = r.request ∧ r'.response = r.response ∧ r'.lastServiced = r.lastServiced := by
  obtain ⟨n, p, request, corresponds, number⟩ := h.request
  obtain ⟨k, response, number'⟩ := h.response
  have attached : p = r.request.pipeline := by
    rcases rel_cases corresponds with ⟨none, none'⟩ | ⟨a, b, some, some', like⟩
    · rw [none, none']
    · rw [some, some', pipelines like]
  refine ⟨?_, ?_, ?_⟩
  · rw [request, attached, ← number exact]
  · rw [response, ← number' exact]
  · rw [h.unrecorded.1, h.unrecorded.2]

theorem Parallel.start (m : Margin) : Parallel m [] [] (fun _ _ _ => False) {} {} where
  fits := ⟨fun _ => rfl, fun _ => rfl, fun _ => False.elim, False.elim, False.elim, False.elim⟩
  exchange := ⟨⟨0, none, rfl, .none, fun _ => rfl⟩, ⟨0, rfl, fun _ => rfl⟩, .none⟩
  chain := ⟨.nil, rfl, .none, rfl, .inr ⟨rfl, rfl⟩, rfl, fun _ => rfl⟩
  nesting := rfl
  instances := False.elim
  holders := False.elim
  bounded := ⟨fun _ _ => rfl, fun _ _ => rfl, Nat.one_pos, by rintro _ ⟨⟩⟩
  bounded' := ⟨fun _ _ => rfl, fun _ _ => rfl, Nat.one_pos, by rintro _ ⟨⟩⟩
  pipelines := fun _ => .none
  memory := fun _ => rfl
  journal := ⟨[], [], rfl, rfl, .nil⟩

theorem create_parallel (new : m.pipeline s.nextSerial t.nextSerial) (like : r.Like m i r')
    {components : ComponentFactory} (even : m.Even components) {options options' : PipelineOptions}
    (executor : options.executor = m.executor) (executor' : options'.executor = m.executor')
    (tracking : options'.trackLastServiced = options.trackLastServiced)
    (limit : m.room → options'.maxIdlePerServlet = options.maxIdlePerServlet)
    (h : Parallel m old old' i s t) :
    Parallel m old old' i (Pipeline.create r components options s).2
      (Pipeline.create r' components options' t).2 := by
  let pipeline (r : Registry) (options : PipelineOptions) : Pipeline :=
    { registry := r
      components
      pool := { maxIdle := options.maxIdlePerServlet }
      executor := options.executor
      trackLastServiced := options.trackLastServiced }
  have alike : (pipeline r options).Like m i (pipeline r' options') :=
    ⟨like, rfl, even, executor, executor', tracking, by rintro _ _ ⟨⟩, by rintro _ _ ⟨⟩,
      fun room => congrArg (fun maxIdle => ({ maxIdle } : ChainPool)) (limit room)⟩
  have bound := (h.number 1).insertPipeline new alike
  exact Parallel.note (bound.hold like) (.installed new fun exact => h.fits.same exact like.paired)

/-- Containers that are opened for one configuration go the same way, if the numbers of what is
opened correspond. -/
theorem opened_parallel (config : Config) {components : ComponentFactory} (even : m.Even components)
    (options options' : PipelineOptions) (executor : options.executor = m.executor)
    (executor' : options'.executor = m.executor')
    (tracking : options'.trackLastServiced = options.trackLastServiced)
    (limit : m.room → options'.maxIdlePerServlet = options.maxIdlePerServlet)
    (corresponds : ∀ {r u}, Registry.build config components {} = (.ok (.ok r), u) →
      m.pipeline u.nextSerial u.nextSerial) :
    ∃ i, Parallel m [] [] i (.opened config components options)
        (.opened config components options') ∧
      (Container.opened config components options).lastServiced = none ∧
      (Container.opened config components options').lastServiced = none := by
  obtain ⟨j, grows, ends⟩ := build_building config even (Parallel.start m).fits
  have h := (Parallel.start m).grow grows
  obtain ⟨_, _, grown, -, -⟩ := grows.journal
  unfold Container.opened Pipeline.openFor
  rcases ran : Registry.build config components {} with ⟨halt | error | r, u⟩ <;>
    rw [ran] at ends h grown
  · rw [Run.bind_of_error ran, Run.bind_of_error ran]
    exact ⟨j, h, congrArg Container.lastServiced grown, congrArg Container.lastServiced grown⟩
  · rw [Run.bind_of_ok ran, Run.bind_of_ok ran]
    exact ⟨j, h, congrArg Container.lastServiced grown, congrArg Container.lastServiced grown⟩
  · rw [Run.bind_of_ok ran, Run.bind_of_ok ran]
    cases ends with
    | ok ends =>
      cases ends with
      | ok like =>
        exact ⟨j, create_parallel (corresponds ran) like even executor executor' tracking limit h,
          congrArg Container.lastServiced grown, congrArg Container.lastServiced grown⟩

end Services

end ServletFilters
