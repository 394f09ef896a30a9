import ServletFilters.Proofs.Container.Forwarding
import ServletFilters.Proofs.Container.Passing

/-!
Servlets that suspend requests. In a pipeline of built-in components a traversal leaves the request
suspended exactly if it comes, by any number of hops, to an `async-echo` servlet that it does not reach
as a resumption, and nothing on the way declines that, `Suspends`. Behind a hop no traversal is a
resumption; so a request that is suspended there is suspended again each time, until the service fails,
`service_restarted`.
-/

namespace ServletFilters

open Config

/-! ### Visits that leave the request suspended -/

/-- Resolution selects the filter of the entry for a visit to the servlet. -/
def Config.ServletEntry.Behind (config : Config) (state : DispatchState) (e : ServletEntry)
    (f : FilterEntry) : Prop :=
  f ∈ config.filters ∧ MappingEntry.Selects config.filterMappings state.dispatcher state.path e.name f.name

/-- All filters of the visit can be made and let the request pass. -/
def Config.ServletEntry.Reachable (config : Config) (q : Request) (state : DispatchState)
    (e : ServletEntry) : Prop :=
  ∀ f, e.Behind config state f → f.Makeable ∧ f.Admits q

/-- The visit comes to its servlet, and no component of it declines that the request is suspended. -/
def Config.ServletEntry.Suspendable (config : Config) (q : Request) (state : DispatchState)
    (e : ServletEntry) : Prop :=
  e.Reachable config q state ∧ e.asyncSupported = true ∧
    ∀ f, e.Behind config state f → f.asyncSupported ≠ some false

/-- A visit at this depth leaves the request suspended, which may be suspended. -/
inductive Suspends (config : Config) (q : Request) : Nat → DispatchState → ServletEntry → Prop
  | starts {k : Nat} {state : DispatchState} {e : ServletEntry} :
    e.Suspendable config q state → e.className = "async-echo" → state.dispatcher ≠ .async →
    Suspends config q k state e
  | sends {k : Nat} {state : DispatchState} {e u : ServletEntry} {mode : Dispatcher} {target : String} :
    e.Suspendable config q state → e.className = "forwarding" →
    e.initParams.find? "target" = some target →
    Builtin.modeParam e.name (e.initParams.find? "mode") = .ok mode → k < maxDispatchDepth →
    config.servletFor (Request.splitUri target).1 = some u →
    Suspends config q (k + 1) { dispatcher := mode, path := some (Request.splitUri target).1 } u →
    Suspends config q k state e

section Suspended

variable {config : Config} {q : Request} {k : Nat} {state : DispatchState} {e : ServletEntry}

theorem Suspends.suspendable (h : Suspends config q k state e) : e.Suspendable config q state := by
  cases h with
  | starts suspendable => exact suspendable
  | sends suspendable => exact suspendable

theorem suspends_asyncEcho (named : e.className = "async-echo") : Suspends config q k state e ↔
    e.Suspendable config q state ∧ state.dispatcher ≠ .async := by
  constructor
  · intro h
    cases h with
    | starts suspendable _ fresh => exact ⟨suspendable, fresh⟩
    | sends _ forwarding => simp [named] at forwarding
  · exact fun ⟨suspendable, fresh⟩ => .starts suspendable named fresh

theorem suspends_forwarding (named : e.className = "forwarding") {mode : Dispatcher} {target : String}
    (sent : e.initParams.find? "target" = some target)
    (parsed : Builtin.modeParam e.name (e.initParams.find? "mode") = .ok mode) :
    Suspends config q k state e ↔ e.Suspendable config q state ∧ k < maxDispatchDepth ∧
      ∃ u, config.servletFor (Request.splitUri target).1 = some u ∧
        Suspends config q (k + 1) { dispatcher := mode, path := some (Request.splitUri target).1 } u := by
  constructor
  · intro h
    cases h with
    | starts _ asyncEcho => simp [named] at asyncEcho
    | sends suspendable _ sent' parsed' shallow mapped inner =>
      obtain rfl := Option.some.inj (sent.symm.trans sent')
      obtain rfl := Except.ok.inj (parsed.symm.trans parsed')
      exact ⟨suspendable, shallow, _, mapped, inner⟩
  · rintro ⟨suspendable, shallow, u, mapped, inner⟩
    exact .sends suspendable named sent parsed shallow mapped inner

theorem not_suspends (asyncEcho : e.className ≠ "async-echo") (forwarding : e.className ≠ "forwarding") :
    ¬ Suspends config q k state e := by
  intro h
  cases h with
  | starts _ named => exact asyncEcho named
  | sends _ named => exact forwarding named

/-- Behind a hop it makes no difference how the request came to the servlet that forwards it. -/
theorem Suspends.again (h : Suspends config q k state e) (forwarding : e.className = "forwarding")
    {state' : DispatchState} (suspendable : e.Suspendable config q state') :
    Suspends config q k state' e := by
  cases h with
  | starts _ asyncEcho => simp [forwarding] at asyncEcho
  | sends _ named sent parsed shallow mapped inner =>
    exact .sends suspendable named sent parsed shallow mapped inner

end Suspended

/-! ### What a visit does -/

/-- The request counts as dispatched this way and is as deep, it is not suspended, and nothing has been
written to its response. -/
structure Unsuspended (p : Nat) (q : Request) (k : Nat) (state : DispatchState) (s : Container) : Prop where
  attached : s.request.pipeline = some p
  fixed : s.request.fixed = q.fixed
  unmarked : s.request.asyncStarted = false
  depth : s.request.depth = k
  dispatch : s.request.dispatch = state
  empty : s.response.body = []

/-- A visit begins: the chain is at its first filter. -/
structure Arrives (config : Config) (p : Nat) (r : Registry) (q : Request) (k : Nat)
    (state : DispatchState) (w : Wrapper) (s : Container) : Prop
    extends Visiting config p r ⟨p, r.serial, w.name, state⟩ s, Unsuspended p q k state s where
  first : s.chain.position = 0
  servlet_eq : s.chain.servlet = some w.servlet
  servletAsync : s.chain.servletAsync = w.asyncSupported

/-- What there is after a visit: the result is none of too many suspensions, the request is as before
but for its suspension, and it is suspended if it says so here. -/
structure Outcome (before : Request) (suspends : Prop) (a : Result) (q : Request) (response : Response) :
    Prop where
  ordinary : Ordinary a
  request : ∃ asyncSupported asyncStarted nonAsyncComponents,
    q = { before with asyncSupported, asyncStarted, nonAsyncComponents }
  suspended : suspends →
    a = .ok () ∧ q.asyncStarted = true ∧ q.asyncSupported = true ∧ response.body = []
  rested : ¬ suspends → q.asyncStarted = false

/-- All visits at this depth leave the request suspended exactly if it is said of them. -/
def SuspendsAlike (config : Config) (p : Nat) (r : Registry) (q : Request) (count : String → Nat) (k : Nat)
    (calls : Calls) : Prop :=
  ∀ {state : DispatchState} {w : Wrapper} {e : ServletEntry} {s : Container},
    w.ComesFrom .builtin count e → Arrives config p r q k state w s →
    (Traversal.doFilter calls).Yields
      (Outcome s.request (s.request.asyncSupported = true ∧ Suspends config q k state e)) s

section Visits

variable {config : Config} {p : Nat} {r : Registry} {q : Request} {k : Nat} {state : DispatchState}
  {e : ServletEntry} {w : Wrapper} {s t u : Container} {calls : Calls} {count : String → Nat}

theorem declinesAsync_iff {f : FilterConfig} {d : FilterEntry} (own : f.ComesFrom .builtin d) :
    f.declinesAsync = true ↔ d.asyncSupported = some false := by
  rw [FilterConfig.declinesAsync, own.1, FilterDefinition.ofEntry]
  cases d.asyncSupported with
  | none => simp [AsyncSupport.ofOption]
  | some yes => cases yes <;> simp [AsyncSupport.ofOption]

/-- What there is after a part of the visit, as it is after the whole of it. -/
theorem Outcome.shift {before inner q' : Request} {suspends suspends' : Prop} {a : Result}
    {response : Response} (h : Outcome inner suspends a q response) (same : suspends ↔ suspends')
    (started : q'.asyncStarted = q.asyncStarted) (supported : q'.asyncSupported = q.asyncSupported)
    (request : ∀ asyncSupported asyncStarted nonAsyncComponents,
      q = { inner with asyncSupported, asyncStarted, nonAsyncComponents } →
      ∃ nonAsyncComponents, q' = { before with asyncSupported, asyncStarted, nonAsyncComponents }) :
    Outcome before suspends' a q' response := by
  obtain ⟨ordinary, ⟨_, _, _, own⟩, suspended, rested⟩ := h
  obtain ⟨_, own'⟩ := request _ _ _ own
  rw [← started, ← supported] at suspended
  rw [← started] at rested
  exact ⟨ordinary, ⟨_, _, _, own'⟩, suspended ∘ same.2, rested ∘ mt same.1⟩

theorem Outcome.unaltered {before : Request} {suspends : Prop} {a : Result} {response : Response}
    (h : Outcome before suspends a q response) : Unaltered a :=
  fun f failed => (h.ordinary f failed).1

theorem Unsuspended.outcome (h : Unsuspended p q k state s) {a : Result} (ordinary : Ordinary a)
    {suspends : Prop} (rests : ¬ suspends) (asyncSupported : Bool) (response : Response) :
    Outcome s.request suspends a { s.request with asyncSupported } response :=
  ⟨ordinary, ⟨_, _, _, rfl⟩, fun other => absurd other rests, fun _ => h.unmarked⟩

theorem Unsuspended.narrowed (h : Unsuspended p q k state s) {declined : Bool}
    (request : t.request = s.request.narrowed declined) (body : t.response.body = s.response.body) :
    Unsuspended p q k state t := by
  obtain ⟨attached, fixed, unmarked, depth, dispatch, empty⟩ := h
  constructor <;> first | rw [request]; assumption | rw [body]; assumption

variable (contents : r.Contents config .builtin)
include contents

theorem Entered.arrives {base : Chain} (entered : Entered p r w base t u) (equipped : Equipped p r t)
    (served : w ∈ r.wrappers) (transparent : Transparent base.executor) (h : Unsuspended p q k state s)
    {j : Nat} {state' : DispatchState}
    (request : t.request = { s.request with depth := j, dispatch := state' })
    (response : u.response = s.response) : Arrives config p r q j state' w u := by
  have visiting := entered.visiting contents equipped served transparent
  have chain : u.chain = base.populated r w t.request.dispatch := entered.quiet.chain
  obtain ⟨names, asks⟩ := entered.request
  obtain ⟨attached, fixed, unmarked, depth, dispatch, empty⟩ := h
  rw [request] at asks visiting
  refine ⟨visiting, ⟨?_, ?_, ?_, ?_, ?_, response ▸ empty⟩, ?_, ?_, ?_⟩
  · rw [asks, ← attached]
  · rw [asks, ← fixed]
    rfl
  · rw [asks, ← unmarked]
  · rw [asks]
  · rw [asks]
  · rw [chain, populated_position]
  · rw [chain]
    exact (populated_members r w _ base).2
  · rw [chain, populated_servletAsync]

variable (distinct : (config.filters.map (·.name)).Nodup) (from_ : w.ComesFrom .builtin count e)
include distinct from_

theorem Arrives.reachable (h : Arrives config p r q k state w u) :
    (∀ f ∈ u.chain.filters, f.Passes config u.request) ↔ e.Reachable config q state := by
  simp only [FilterConfig.passes_of_fixed h.fixed]
  constructor
  · rintro passes d ⟨listed, selects⟩
    obtain ⟨f, member, own⟩ := h.selected contents distinct (e := d) ⟨listed, from_.name ▸ selects⟩
    obtain ⟨d', listed', own', passed⟩ := passes f member
    obtain rfl := entry_unique distinct listed listed' own own'
    exact passed
  · intro reachable f member
    obtain ⟨d, ⟨listed, selects⟩, own⟩ := h.selects contents member
    exact ⟨d, listed, own, reachable d ⟨listed, from_.name ▸ selects⟩⟩

theorem Arrives.declines (h : Arrives config p r q k state w u) :
    u.chain.filters.any (·.declinesAsync) = true ↔
      ∃ d, e.Behind config state d ∧ d.asyncSupported = some false := by
  rw [List.any_eq_true]
  constructor
  · rintro ⟨f, member, declines⟩
    obtain ⟨d, ⟨listed, selects⟩, own⟩ := h.selects contents member
    exact ⟨d, ⟨listed, from_.name ▸ selects⟩, (declinesAsync_iff own).1 declines⟩
  · rintro ⟨d, ⟨listed, selects⟩, declines⟩
    obtain ⟨f, member, own⟩ := h.selected contents distinct (e := d) ⟨listed, from_.name ▸ selects⟩
    exact ⟨f, member, (declinesAsync_iff own).2 declines⟩

/-- Whether the servlet of the visit may suspend the request. -/
theorem Arrives.suspendable (h : Arrives config p r q k state w u)
    (passed : ∀ f ∈ u.chain.filters, f.Passes config u.request) (request : t.request =
      u.request.narrowed (u.chain.filters.any (·.declinesAsync) || !u.chain.servletAsync)) :
    t.request.asyncSupported = true ↔
      u.request.asyncSupported = true ∧ e.Suspendable config q state := by
  have reachable := (h.reachable contents distinct from_).1 passed
  have declines := h.declines contents distinct from_
  rw [request, h.servletAsync, from_.asyncSupported]
  cases any : u.chain.filters.any (·.declinesAsync) with
  | true =>
    obtain ⟨d, behind, named⟩ := declines.1 any
    have kept : ¬ e.Suspendable config q state := fun ⟨_, _, every⟩ => every d behind named
    simp [Request.narrowed, kept]
  | false =>
    have every : ∀ d, e.Behind config state d → d.asyncSupported ≠ some false := fun d behind named => by
      rw [declines.2 ⟨d, behind, named⟩] at any
      cases any
    have same : e.Suspendable config q state ↔ e.asyncSupported = true :=
      ⟨fun h => h.2.1, fun supported => ⟨reachable, supported, every⟩⟩
    simp [Request.narrowed, same]

end Visits

/-! ### What a servlet does -/

section Servlets

variable {config : Config} {p : Nat} {r : Registry} {q : Request} {k : Nat} {state : DispatchState}
  {e : ServletEntry} {w : Wrapper} {s t u : Container} {calls : Calls} {count : String → Nat}

theorem runtime_ne_restarted {message : String}
    (differs : message.toList.head? ≠ some 'r') : Failure.runtime message ≠ restarted := by
  intro same
  refine differs ?_
  rw [Failure.runtime.inj same]
  decide

/-- What an `async-echo` servlet writes in the end. -/
def resumption (path : String) : List UInt8 := utf8 ("resumed " ++ path ++ "\n")

theorem asyncEcho_run (who : Component) (s : Container) : Builtin.asyncEcho.run calls who false s =
    (if s.request.dispatch.dispatcher = .async then
      .performAll [.setHeader "content-type" "text/plain",
        .write (utf8 ("resumed " ++ s.request.path ++ "\n"))] .done
    else .startAsync .finish : Program).run calls who false s := rfl

theorem Unsuspended.resumes (h : Unsuspended p q k state s) (resumed : state.dispatcher = .async)
    (who : Component) : (Builtin.asyncEcho.run calls who false).Yields
      (fun a q' response => a = .ok () ∧ q' = s.request ∧ response.body = resumption q.path) s := by
  have path : s.request.path = q.path := (congrArg Request.path h.fixed :)
  unfold Run.Yields
  rw [asyncEcho_run, h.dispatch, if_pos resumed]
  refine ⟨_, _, rfl, rfl, rfl, rfl, ?_⟩
  simp [Container.updateResponse, Response.write, Response.setHeader, h.empty, resumption, path]

theorem Unsuspended.asyncEcho (h : Unsuspended p q k state s) (who : Component) :
    (Builtin.asyncEcho.run calls who false).Yields
      (Outcome s.request (s.request.asyncSupported = true ∧ state.dispatcher ≠ .async)) s := by
  by_cases resumed : state.dispatcher = .async
  · refine (h.resumes resumed who).imp ?_
    rintro a q' response ⟨rfl, rfl, -⟩
    exact h.outcome (ordinary_ok ()) (fun other => other.2 resumed) s.request.asyncSupported response
  unfold Run.Yields
  rw [asyncEcho_run, h.dispatch, if_neg resumed]
  by_cases permitted : s.request.asyncSupported = true
  · have started : (Program.startAsync .finish).run calls who false s =
        (.ok (.ok ()), s.updateRequest fun r => { r with asyncStarted := true }) :=
      Run.bind_of_ok (if_pos permitted)
    refine ⟨_, _, started, rfl, ordinary_ok (), ⟨_, _, _, rfl⟩, ?_, ?_⟩
    · exact fun _ => ⟨rfl, rfl, permitted, h.empty⟩
    · exact fun rests => absurd ⟨permitted, resumed⟩ rests
  · have refused : (Program.startAsync .finish).run calls who false s =
        (.ok (.error s.request.asyncRefusal), s) := Run.bind_of_ok (if_neg permitted)
    refine ⟨_, _, refused, rfl, h.outcome ?_ (fun other => permitted other.1) _ _⟩
    rintro f ⟨⟩
    exact ⟨rfl, runtime_ne_restarted (by simp)⟩

variable (faithful : r.Faithful config .builtin count) (contents : r.Contents config .builtin)
include faithful contents

/-- A hop leaves the request suspended if the visit does that it starts. -/
theorem Unsuspended.dispatched (h : Unsuspended p q k state s) (equipped : Equipped p r s)
    {mode : Dispatcher} {target : String}
    (onward : k < maxDispatchDepth → SuspendsAlike config p r q count (k + 1) calls) :
    (Pipeline.dispatch calls p mode (.path target)).Yields (Outcome s.request
      (s.request.asyncSupported = true ∧ k < maxDispatchDepth ∧
        ∃ e', config.servletFor (Request.splitUri target).1 = some e' ∧ Suspends config q (k + 1)
          { dispatcher := mode, path := some (Request.splitUri target).1 } e')) s := by
  obtain ⟨x, found, rfl⟩ := Option.map_eq_some_iff.1 equipped.current
  obtain ⟨E, executing, transparent⟩ := equipped.executing
  obtain rfl : x.executor = E := Option.some.inj ((executing_eq found).symm.trans executing)
  by_cases shallow : k < maxDispatchDepth
  · have shallow' : s.request.depth < maxDispatchDepth := h.depth ▸ shallow
    cases mapped : config.servletFor (Request.splitUri target).1 with
    | none =>
      refine dispatch_unmapped found shallow' (congrArg (·, _) (faithful.unserved mapped)) ?_
      refine h.outcome (ordinary_servlet _) ?_ s.request.asyncSupported _
      rintro ⟨-, -, e', ⟨⟩, -⟩
    | some e' =>
      obtain ⟨w', served, from_⟩ := faithful.serves _ mapped
      refine dispatch_yields found shallow' (congrArg (·, _) served)
        fun base t u own ebbs request entered response => ?_
      have arrives := entered.arrives contents (equipped.ebbs ebbs)
        (contents.sound.mem_of_serves (.inl ⟨_, served⟩)) (own ▸ transparent) h
        (h.depth ▸ request) response
      obtain ⟨names, asks⟩ := entered.request
      rw [request] at asks
      let further : DispatchState := { dispatcher := mode, path := some (Request.splitUri target).1 }
      have same : (u.request.asyncSupported = true ∧ Suspends config q (k + 1) further e') ↔
          (s.request.asyncSupported = true ∧ k < maxDispatchDepth ∧
            ∃ d, some e' = some d ∧ Suspends config q (k + 1) further d) := by
        simp [asks, shallow]
      refine (onward shallow from_ arrives).imp fun a q' response' outcome => ?_
      exact outcome.shift same rfl rfl fun _ _ names own => ⟨names, by rw [own, asks]; rfl⟩
  · refine dispatch_refused (h.depth ▸ Nat.not_lt.1 shallow) ?_
    refine h.outcome ?_ (fun other => shallow other.2.1) s.request.asyncSupported _
    rintro f ⟨⟩
    exact ⟨rfl, runtime_ne_restarted (by simp)⟩

/-- A servlet that the visit has come to leaves the request suspended if it has come there by as many
hops as it says, and not as a resumption. -/
theorem Unsuspended.called (h : Unsuspended p q k state s) (manned : Manned p r s)
    (from_ : w.ComesFrom .builtin count e) {m : Nat}
    (onward : k < maxDispatchDepth → SuspendsAlike config p r q count (k + 1) (nestedCalls m)) :
    ∃ reaches : Prop, (Suspends config q k state e ↔ e.Suspendable config q state ∧ reaches) ∧
      (w.servlet.program.run (nestedCalls (m + 1)) w.servlet false).Yields
        (Outcome s.request (s.request.asyncSupported = true ∧ reaches)) s := by
  cases known : ComponentFactory.builtin.servlets.find? e.className with
  | none =>
    have made := from_.servlet
    rw [ServletEntry.making?, known] at made
    cases made
  | some cls =>
    have made := from_.made known
    -- In order: echo, static-text, forwarding and async-echo. The first two suspend nothing.
    rcases Builtin.servlet_cases known with ⟨named, rfl⟩ | ⟨named, rfl⟩ | ⟨named, rfl⟩ | ⟨named, rfl⟩
    · rw [← Making.ready.inj made]
      refine ⟨False, by simp [not_suspends, named], ⟨_, _, rfl, rfl, ?_⟩⟩
      exact h.outcome (ordinary_ok ()) (fun other => other.2) _ _
    · obtain ⟨status, -, made⟩ := bind_ok (Builtin.making_ready made)
      rw [← Except.ok.inj made]
      refine ⟨False, by simp [not_suspends, named], ⟨_, _, rfl, rfl, ?_⟩⟩
      exact h.outcome (ordinary_ok ()) (fun other => other.2) _ _
    · have made := Builtin.making_ready made
      split at made
      · cases made
      rename_i target sent
      obtain ⟨mode, parsed, made⟩ := bind_ok made
      rw [← Except.ok.inj made]
      refine ⟨_, suspends_forwarding named sent parsed, ?_⟩
      refine Builtin.forwarding_yields (attachedPipeline_eq manned.current h.attached)
        (fun response same => ?_) _
      have empty : response.body = [] := by
        rcases same with rfl | rfl
        · exact h.empty
        · rfl
      have sending : Unsuspended p q k state { s with response } :=
        ⟨h.attached, h.fixed, h.unmarked, h.depth, h.dispatch, empty⟩
      change (Pipeline.dispatch (nestedCalls m) _ _ _).Yields _ _
      exact sending.dispatched faithful contents
        ⟨manned.current, manned.executing, manned.only, manned.stock⟩ onward
    · rw [← Making.ready.inj made]
      exact ⟨_, suspends_asyncEcho named, h.asyncEcho _⟩

variable (distinct : (config.filters.map (·.name)).Nodup)
include distinct

theorem Arrives.step (h : Arrives config p r q k state w u) (from_ : w.ComesFrom .builtin count e)
    {m : Nat} (onward : k < maxDispatchDepth → SuspendsAlike config p r q count (k + 1) (nestedCalls m)) :
    (Traversal.doFilter (nestedCalls (m + 1 + u.chain.filters.length))).Yields (Outcome u.request
      (u.request.asyncSupported = true ∧ Suspends config q k state e)) u := by
  have reachable := h.reachable contents distinct from_
  refine visit_yields contents (fun _ _ _ outcome => outcome.unaltered) distinct u.chain.filters
    h.toManned (by rw [h.first, List.drop_zero]) h.servlet_eq
    (fun stopped a asyncSupported response ordinary => ?_) fun passed t manned request body => ?_
  · refine h.outcome ordinary (fun other => ?_) asyncSupported response
    exact stopped (reachable.2 other.2.suspendable.1)
  · have suspendable := h.suspendable contents distinct from_ passed request
    obtain ⟨reaches, same, ran⟩ :=
      (h.toUnsuspended.narrowed request body).called faithful contents manned from_ onward
    have alike : t.request.asyncSupported = true ∧ reaches ↔
        u.request.asyncSupported = true ∧ Suspends config q k state e := by
      rw [suspendable, same, and_assoc]
    refine ran.imp fun a q' response outcome => ?_
    exact outcome.shift alike rfl rfl fun _ _ names own => ⟨names, by rw [own, request]; rfl⟩

theorem suspends_alike (hops : Nat) : ∀ {k levels}, hops + k = maxDispatchDepth →
    (hops + 1) * (config.filters.length + 1) ≤ levels →
    SuspendsAlike config p r q count k (nestedCalls levels) := by
  -- A visit takes a level for each of its filters and one for its servlet.
  induction hops with
  | zero =>
    intro k levels depth room state w e u from_ h
    have short := h.length_le contents
    obtain ⟨m, rfl⟩ : ∃ m, levels = m + 1 + u.chain.filters.length :=
      ⟨levels - u.chain.filters.length - 1, by omega⟩
    exact h.step faithful contents distinct from_ fun shallow => absurd shallow (by omega)
  | succ hops ih =>
    intro k levels depth room state w e u from_ h
    have short := h.length_le contents
    rw [Nat.succ_mul] at room
    obtain ⟨m, rfl⟩ : ∃ m, levels = m + 1 + u.chain.filters.length :=
      ⟨levels - u.chain.filters.length - 1, by omega⟩
    exact h.step faithful contents distinct from_ fun _ => ih (by omega) (by omega)

end Servlets

/-! ### What a service does -/

/-- The pipeline goes on with a request that is not suspended any more, or not yet. -/
structure Awaits (executor : Option Executor) (p : Nat) (r : Registry) (q : Request)
    (state : DispatchState) (w : Wrapper) (s t : Container) : Prop
    extends Between executor p r w s t, Unsuspended p q 0 state t

section Services

variable {config : Config} {executor : Option Executor} {p levels : Nat} {r : Registry} {q : Request}
  {path : String} {state : DispatchState} {e : ServletEntry} {w : Wrapper} {s t : Container}
  {count : String → Nat}

variable (faithful : r.Faithful config .builtin count) (contents : r.Contents config .builtin)
  (distinct : (config.filters.map (·.name)).Nodup) (served : w ∈ r.wrappers)
  (from_ : w.ComesFrom .builtin count e) (room : 33 * (config.filters.length + 1) ≤ levels)

include contents served in
theorem Awaits.visits (h : Awaits executor p r q state w s t) (dispatcher : Dispatcher)
    {post : Result → Request → Response → Prop}
    (ran : ∀ u, Arrives config p r q 0 { dispatcher, path := some path } w u →
      ∀ nonAsyncComponents, u.request = { t.request with
        dispatch := { dispatcher, path := some path }
        nonAsyncComponents } →
      (Traversal.doFilter (nestedCalls levels)).Yields
        (fun a q response => post a { q with dispatch := t.request.dispatch } response) u) :
    (Pipeline.dispatchTo (nestedCalls levels) p r w { dispatcher, path := some path } true).Yields
      post t := by
  obtain ⟨x, found, rfl⟩ := Option.map_eq_some_iff.1 h.equipped.current
  refine dispatchTo_yields found x.registry w _ true
    fun base t' u lends quiet request entered response => ?_
  have top : t'.request = { t.request with
      depth := 0
      dispatch := { dispatcher, path := some path } } := by rw [request, ← h.depth]
  have arrives := entered.arrives contents (h.equipped.ebbs quiet.ebbs) served (h.lent found lends)
    h.toUnsuspended top response
  obtain ⟨names, asks⟩ := entered.request
  rw [request] at asks
  exact ran u arrives names asks

include contents distinct served from_ room

theorem Awaits.answered (h : Awaits executor p r q state w s t) (named : e.className = "async-echo")
    (reachable : e.Reachable config q { dispatcher := .async, path := some path }) :
    (Pipeline.dispatchTo (nestedCalls levels) p r w { dispatcher := .async, path := some path } true).Yields
      (fun a q' response => q'.asyncStarted = false ∧ a = .ok () ∧ response.body = resumption q.path) t := by
  refine h.visits contents served .async fun u arrives names asks => ?_
  have passes := (arrives.reachable contents distinct from_).2 reachable
  have short := arrives.length_le contents
  obtain ⟨n, rfl⟩ : ∃ n, levels = n + u.chain.filters.length :=
    ⟨levels - u.chain.filters.length, by omega⟩
  refine visit_yields contents ?_ distinct u.chain.filters arrives.toManned
    (by rw [arrives.first, List.drop_zero]) arrives.servlet_eq (fun stopped => absurd passes stopped)
    fun passed v manned request body => ?_
  · rintro a q' response ⟨-, rfl, -⟩ f ⟨⟩
  · have unsuspended := arrives.toUnsuspended.narrowed request body
    have ready : Builtin.asyncEchoClass.make e _ = _ := from_.made (named ▸ rfl)
    rw [← Making.ready.inj ready]
    refine (unsuspended.resumes rfl _).imp ?_
    rintro a q' response ⟨rfl, rfl, body⟩
    exact ⟨unsuspended.unmarked, rfl, body⟩

include faithful

/-- A traversal leaves the request suspended as it says, and else it may be the last one. -/
theorem Awaits.visited (h : Awaits executor p r q state w s t) (path : String) (dispatcher : Dispatcher) :
    (Pipeline.dispatchTo (nestedCalls levels) p r w { dispatcher, path := some path } true).Yields
      (Outcome t.request (t.request.asyncSupported = true ∧
        Suspends config q 0 { dispatcher, path := some path } e)) t := by
  refine h.visits contents served dispatcher fun u arrives names asks => ?_
  have yields := suspends_alike faithful contents distinct maxDispatchDepth rfl room from_ arrives
  have permitted : u.request.asyncSupported = t.request.asyncSupported := by rw [asks]
  refine yields.imp fun a q' response outcome => ?_
  exact outcome.shift (by rw [permitted]) rfl rfl fun _ _ names own => ⟨names, by rw [own, asks]⟩

/-- After a traversal that has left the request suspended, and before the next one. -/
theorem Awaits.again (h : Awaits executor p r q state w s t) {dispatcher : Dispatcher} {u : Container}
    (permitted : t.request.asyncSupported = true)
    (suspends : Suspends config q 0 { dispatcher, path := some path } e) {a : Result}
    (ran : Pipeline.dispatchTo (nestedCalls levels) p r w { dispatcher, path := some path } true t =
      (.ok a, u)) : a = .ok () ∧ u.request.asyncStarted = true ∧ u.request.asyncSupported = true ∧
        Awaits executor p r q state w s u.unmark := by
  obtain ⟨a', u', ran', -, outcome⟩ :=
    h.visited faithful contents distinct served from_ room path dispatcher
  obtain ⟨⟨⟩, rfl⟩ := Prod.mk.inj (ran.symm.trans ran')
  obtain ⟨returned, marked, permitted', empty⟩ := outcome.suspended ⟨permitted, suspends⟩
  have between := (h.visit contents served levels { dispatcher, path := some path }).1
  rw [ran] at between
  obtain ⟨_, _, _, same⟩ := outcome.request
  have unmarked : u.unmark.request = { u.request with asyncStarted := false } := rfl
  rw [same] at unmarked
  obtain ⟨attached, fixed, -, depth, dispatch, -⟩ := h.toUnsuspended
  refine ⟨returned, marked, permitted', between.takeAsync, ?_, ?_, ?_, ?_, ?_, empty⟩ <;>
    rw [unmarked]
  · exact attached
  · exact fixed
  · exact depth
  · exact dispatch

/-- A request that is suspended by each resumption is given up in the end. -/
theorem Awaits.given_up (suspends : Suspends config q 0 { dispatcher := .async, path := some path } e)
    (limit : Nat) : ∀ {t}, t.request.asyncStarted = true → t.request.asyncSupported = true →
      Awaits executor p r q state w s t.unmark →
      (Pipeline.resume (Pipeline.dispatchTo (nestedCalls levels) p r w
        { dispatcher := .async, path := some path } true) limit).Yields
        (fun a _ _ => a = .error restarted) t := by
  -- By induction on the resumptions that may follow, before each of which it `Awaits` the next one.
  induction limit with
  | zero => exact fun marked _ _ => ⟨_, _, resume_exhausted _ marked, rfl, rfl⟩
  | succ n ih =>
    intro t marked permitted h
    obtain ⟨a, u, ran, current, -⟩ :=
      h.visited faithful contents distinct served from_ room path .async
    obtain ⟨rfl, marked', permitted', awaits⟩ :=
      h.again faithful contents distinct served from_ room permitted suspends ran
    obtain ⟨b, v, ran', current', given_up⟩ := ih marked' permitted' awaits
    exact ⟨b, v, (resume_returned n marked ran).trans ran', current'.trans current, given_up⟩

/-- A pipeline gives a request up that both the first traversal and a resumption leave suspended; and a
servlet that is reached without hops answers if its filters let the resumption pass. -/
theorem Awaits.traversed (h : Awaits executor p r q state w s t) (path : String) :
    (Pipeline.traverse (nestedCalls levels) p r w path).Yields (fun a _ response =>
      (a = .error restarted ↔ t.request.asyncSupported = true ∧
        Suspends config q 0 { dispatcher := .request, path := some path } e ∧
        Suspends config q 0 { dispatcher := .async, path := some path } e) ∧
      (t.request.asyncSupported = true → e.className = "async-echo" →
        Suspends config q 0 { dispatcher := .request, path := some path } e →
        e.Reachable config q { dispatcher := .async, path := some path } →
        a = .ok () ∧ response.body = resumption q.path)) t := by
  have visited := h.visited faithful contents distinct served from_ room path .request
  by_cases first : t.request.asyncSupported = true ∧
      Suspends config q 0 { dispatcher := .request, path := some path } e
  · obtain ⟨a, u, ran, current, -⟩ := visited
    obtain ⟨rfl, marked, permitted, awaits⟩ :=
      h.again faithful contents distinct served from_ room first.1 first.2 ran
    refine traverse_resumed ran current ?_
    -- If the resumption suspends, each later one does, as they are all alike.
    by_cases second : Suspends config q 0 { dispatcher := .async, path := some path } e
    · have given_up := awaits.given_up faithful contents distinct served from_ room second
        maxAsyncDispatches marked permitted
      refine given_up.imp fun b q' response failed => ⟨?_, fun _ named => ?_⟩
      · exact ⟨fun _ => ⟨first.1, first.2, second⟩, fun _ => failed⟩
      · exact absurd rfl ((suspends_asyncEcho named).1 second).2
    · have again := awaits.visited faithful contents distinct served from_ room path .async
      by_cases answers : e.className = "async-echo" ∧
          e.Reachable config q { dispatcher := .async, path := some path }
      · have answered := awaits.answered contents distinct served from_ room answers.1 answers.2
        refine resume_yields marked (answered.imp ?_)
        rintro b q' response ⟨unmarked, rfl, body⟩
        refine ⟨unmarked, ⟨by rintro ⟨⟩, fun both => ?_⟩, fun _ _ _ _ => ⟨rfl, body⟩⟩
        exact absurd both.2.2 second
      · refine resume_yields marked (again.imp fun b q' response outcome => ?_)
        refine ⟨outcome.rested fun both => second both.2, ⟨fun failed => ?_, fun both => ?_⟩, ?_⟩
        · exact absurd rfl (outcome.ordinary _ failed).2
        · exact absurd both.2.2 second
        · exact fun _ named _ reachable => absurd ⟨named, reachable⟩ answers
  · refine traverse_yields (visited.imp fun a q' response outcome => ?_)
    refine ⟨outcome.rested first, ⟨fun failed => ?_, fun both => ?_⟩, fun permitted _ suspends => ?_⟩
    · exact absurd rfl (outcome.ordinary _ failed).2
    · exact absurd ⟨both.1, both.2.1⟩ first
    · exact absurd ⟨permitted, suspends⟩ first

end Services

/-- In a pipeline of built-in components a request is given up exactly if it may be suspended and is
left suspended both by the first traversal and by a resumption. This does not befall a request that an
`async-echo` servlet is mapped to, which answers it if the resumption comes to it; but it does wherever
such a servlet is behind a hop. -/
theorem service_restarted {start config : Config} {p levels : Nat} {uses : List Use} {s : Container}
    {x : Pipeline} {spec : RequestSpec}
    (opened : (Pipeline.openFor start .builtin (.ofConfig start) {}).1 = .ok (.ok p))
    (used : s = uses.foldl (Container.use p) (.opened start .builtin (.ofConfig start)))
    (found : s.pipelines.find? p = some x) (runs : x.Runs config) (valid : config.defects = [])
    (enough : 33 * (config.filters.length + 1) ≤ levels) :
    let q := (s.openRequest spec).request
    let first : DispatchState := { dispatcher := .request, path := some q.path }
    let resumed : DispatchState := { dispatcher := .async, path := some q.path }
    let reply := Pipeline.reply levels p spec s
    (reply.result = .ok (.error (.chain restarted)) ↔ spec.async = true ∧
      ∃ e, config.servletFor q.path = some e ∧ Suspends config q 0 first e ∧
        Suspends config q 0 resumed e) ∧
    ∀ e, config.servletFor q.path = some e →
      (e.className = "async-echo" → reply.result ≠ .ok (.error (.chain restarted)) ∧
        (spec.async = true → Suspends config q 0 first e → e.Reachable config q resumed →
          reply.result = .ok (.ok ()) ∧ reply.page.body = resumption q.path)) ∧
      (e.className = "forwarding" → spec.async = true → Suspends config q 0 first e →
        e.Suspendable config q resumed → reply.result = .ok (.error (.chain restarted))) := by
  have tenure := (tenure_opened opened).uses uses
  rw [← used] at tenure
  obtain ⟨⟨t, u, built⟩, -⟩ := runs
  rw [tenure.own found] at built
  have contents := Registry.build_contents built
  have faithful := Registry.build_faithful (Config.valid_of_defects valid) (congrArg Prod.fst built)
  have distinct := distinct_of_defects valid
  have tenure' : Tenure _ _ _ p (s.openRequest spec) := tenure.use (.request spec)
  intro q first resumed reply
  cases mapped : config.servletFor q.path with
  | none =>
    have missed : reply = ⟨.ok (.error (.notFound q.path)), .blank⟩ :=
      (reply_notFound found (faithful.unserved mapped)).1
    rw [missed]
    exact ⟨⟨by rintro ⟨⟩, by rintro ⟨-, e, ⟨⟩, -⟩⟩, by rintro e ⟨⟩⟩
  | some e =>
    obtain ⟨w, there, from_⟩ := faithful.serves _ mapped
    have served := contents.sound.mem_of_serves (.inl ⟨_, there⟩)
    have awaits : Awaits _ p x.registry q first w (s.openRequest spec)
        (x.registry.hold ((s.openRequest spec).attach p)) :=
      ⟨tenure'.between (PipelineOptions.transparent start) found there, rfl, rfl, rfl, rfl, rfl, rfl⟩
    have traversed := awaits.traversed faithful contents distinct served from_ enough q.path
    have serviced : (Pipeline.service levels p).Yields (fun a _ response =>
        (a = .error (.chain restarted) ↔
          spec.async = true ∧ Suspends config q 0 first e ∧ Suspends config q 0 resumed e) ∧
        (spec.async = true → e.className = "async-echo" → Suspends config q 0 first e →
          e.Reachable config q resumed → a = .ok () ∧ response.body = resumption q.path))
        (s.openRequest spec) := by
      refine service_yields found (serviceOn_yields there (traversed.imp ?_))
      rintro a q' response ⟨given_up, answers⟩
      refine ⟨Iff.trans ?_ given_up, fun permitted named suspends reachable => ?_⟩
      · cases a <;> simp [Except.mapError]
      · obtain ⟨rfl, body⟩ := answers permitted named suspends reachable
        exact ⟨rfl, body⟩
    obtain ⟨out, response, same, ⟨given_up, answers⟩, -⟩ := Pipeline.reply_of_yields serviced
    rw [show reply = _ from same]
    have ended : (.ok out : Except Halt (Except ServiceError Unit)) = .ok (.error (.chain restarted)) ↔
        spec.async = true ∧ Suspends config q 0 first e ∧ Suspends config q 0 resumed e := by
      rw [← given_up, Except.ok.injEq]
    refine ⟨by simp [ended], ?_⟩
    rintro _ ⟨⟩
    refine ⟨fun named => ⟨fun failed => ?_, fun permitted suspends reachable => ?_⟩,
      fun named permitted suspends suspendable => ended.2 ⟨permitted, suspends, ?_⟩⟩
    · exact ((suspends_asyncEcho named).1 (ended.1 failed).2.2).2 rfl
    · obtain ⟨rfl, body⟩ := answers permitted named suspends reachable
      exact ⟨rfl, body⟩
    · exact suspends.again named suspendable

/-- An `async-echo` servlet, and one that forwards to it. -/
def waitingRoom : Config where
  servlets :=
    [{ name := "late", className := "async-echo", urlPatterns := ["/late"], asyncSupported := true },
      { name := "desk", className := "forwarding", urlPatterns := ["/desk"], asyncSupported := true
        initParams := ⟨[("target", "/late")]⟩ }]

def waitingOpened : Container := .opened waitingRoom .builtin (.ofConfig waitingRoom)

theorem service_restarted_waiting :
    (Pipeline.reply 33 4 { uri := "/desk", async := true } waitingOpened).result =
        .ok (.error (.chain restarted)) ∧
      (Pipeline.reply 33 4 { uri := "/late", async := true } waitingOpened).result = .ok (.ok ()) ∧
      (Pipeline.reply 33 4 { uri := "/late", async := true } waitingOpened).page.body =
        utf8 "resumed /late\n" := by
  have opened : (Pipeline.openFor waitingRoom .builtin (.ofConfig waitingRoom) {}).1 = .ok (.ok 4) := by
    decide +kernel
  have valid : waitingRoom.defects = [] := by decide
  obtain ⟨x, found, runs⟩ := opened_runs opened
  have runs : x.Runs waitingRoom := runs
  have restarts := fun uri => @service_restarted waitingRoom waitingRoom 4 33 [] waitingOpened x
    { uri, async := true } opened rfl found runs valid (by decide)
  have suspendable (q : Request) (state : DispatchState) (e : ServletEntry) (yes : e.asyncSupported = true) :
      e.Suspendable waitingRoom q state :=
    ⟨by rintro f ⟨⟨⟩, -⟩, yes, by rintro f ⟨⟨⟩, -⟩⟩
  have late : waitingRoom.servletFor "/late" = some waitingRoom.servlets[0] := by decide +kernel
  have desk : waitingRoom.servletFor "/desk" = some waitingRoom.servlets[1] := by decide +kernel
  constructor
  · obtain ⟨-, ends⟩ := restarts "/desk"
    have inner (q : Request) : Suspends waitingRoom q 1 { dispatcher := .forward, path := some "/late" }
        waitingRoom.servlets[0] := .starts (suspendable _ _ _ rfl) rfl (by rintro ⟨⟩)
    exact (ends _ desk).2 rfl rfl (.sends (suspendable _ _ _ rfl) rfl rfl rfl (by decide) late (inner _))
      (suspendable _ _ _ rfl)
  · obtain ⟨-, ends⟩ := restarts "/late"
    exact ((ends _ late).1 rfl).2 rfl (.starts (suspendable _ _ _ rfl) rfl (by rintro ⟨⟩))
      (suspendable _ _ _ rfl).1

end ServletFilters
