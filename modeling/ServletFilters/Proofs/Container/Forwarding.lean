import ServletFilters.Proofs.Container.Resuming
import ServletFilters.Proofs.Container.Tenure
import ServletFilters.Proofs.Container.Yielding
import ServletFilters.Proofs.Registry.Gates

/-!
Servlets that forward to each other. Without filters, a request is answered by the servlet to which the
targets lead within 32 hops, it fails at a target that no servlet is mapped to, and it fails where
there are more hops, `service_walks`. Whatever came of it, later requests are serviced as before.
-/

namespace ServletFilters

/-! ### What servlets write -/

/-- What a client sees of a response. -/
structure Page where
  status : UInt16
  headers : Headers
  body : List UInt8
  deriving DecidableEq

def Page.blank : Page := ⟨200, [], []⟩

def Response.page (r : Response) : Page := ⟨r.status, r.headers, r.body⟩

/-- The servlet was made by this class. -/
def Wrapper.IsOf (w : Wrapper) (cls : ServletClass) : Prop :=
  ∃ entry n, cls.make entry n = .ready w.servlet.program

def Wrapper.Forwards (w : Wrapper) (mode : Dispatcher) (target : String) : Prop :=
  w.servlet.program = Builtin.forwarding mode target

/-- What a servlet that does not forward writes to a blank page, for a request that counts as
dispatched this way. -/
inductive Wrapper.Writes (spec : RequestSpec) (d : Dispatcher) (w : Wrapper) : Page → Prop
  | echo : w.servlet.program = Builtin.echo → Writes spec d w
      { status := 200
        headers := [("content-type", "text/plain")]
        body := utf8 (spec.method ++ " " ++ (Request.splitUri spec.uri).1 ++ " dispatcher=" ++
          d.name ++ "\n") ++ spec.body }
  | staticText {status : UInt16} {contentType body : String} :
      w.servlet.program = Builtin.staticText status contentType body →
      Writes spec d w { status, headers := [("content-type", contentType)], body := utf8 body }

theorem Wrapper.writes_or_forwards {w : Wrapper} (made : w.IsOf Builtin.echoClass ∨
      w.IsOf Builtin.staticTextClass ∨ w.IsOf Builtin.forwardingClass)
    (spec : RequestSpec) (d : Dispatcher) :
    (∃ page, w.Writes spec d page) ∨ ∃ mode target, w.Forwards mode target := by
  rcases made with ⟨entry, n, made⟩ | ⟨entry, n, made⟩ | ⟨entry, n, made⟩
  · exact .inl ⟨_, .echo (Making.ready.inj made).symm⟩
  · obtain ⟨status, -, made⟩ := bind_ok (Builtin.making_ready made)
    exact .inl ⟨_, .staticText (Except.ok.inj made).symm⟩
  · have made := Builtin.making_ready made
    split at made
    · cases made
    · obtain ⟨mode, -, made⟩ := bind_ok made
      exact .inr ⟨mode, _, (Except.ok.inj made).symm⟩

/-! ### The walk -/

/-- The targets lead from one servlet to another one in so many hops, the last of which dispatches the
request this way. -/
inductive Walks (r : Registry) (w : Wrapper) : Nat → Dispatcher → Wrapper → Prop
  | start : Walks r w 0 .request w
  | hop {k : Nat} {d mode : Dispatcher} {v u : Wrapper} {target : String} :
    Walks r w k d v → v.Forwards mode target →
    r.mapServlet (Request.splitUri target).1 = some u → Walks r w (k + 1) mode u

/-- The failure of a dispatch to a path that no servlet is mapped to. -/
def unmapped (target : String) : Failure :=
  .servlet ("no servlet available for path '" ++ target ++ "'")

/-- The failure of a dispatch inside so many others. -/
def nestedTooDeeply (target : String) : Failure :=
  .runtime ("internal dispatch to path '" ++ target ++ "' nested more than 32 levels")

/-- What comes of a call to a servlet, at a depth and for a request that is dispatched this way, if
nothing has been written yet. -/
inductive Comes (r : Registry) (spec : RequestSpec) : Nat → Dispatcher → Wrapper → Result → Page → Prop
  | answered {k : Nat} {d : Dispatcher} {v : Wrapper} {page : Page} :
    v.Writes spec d page → Comes r spec k d v (.ok ()) page
  | refused {k : Nat} {d mode : Dispatcher} {v : Wrapper} {target : String} :
    v.Forwards mode target → maxDispatchDepth ≤ k →
    Comes r spec k d v (.error (nestedTooDeeply target)) .blank
  | lost {k : Nat} {d mode : Dispatcher} {v : Wrapper} {target : String} :
    v.Forwards mode target → k < maxDispatchDepth →
    r.mapServlet (Request.splitUri target).1 = none →
    Comes r spec k d v (.error (unmapped target)) .blank
  | onward {k : Nat} {d mode : Dispatcher} {v u : Wrapper} {target : String} {out : Result}
      {page : Page} :
    v.Forwards mode target → k < maxDispatchDepth →
    r.mapServlet (Request.splitUri target).1 = some u → Comes r spec (k + 1) mode u out page →
    Comes r spec k d v out page

section Walking

variable {r : Registry} {spec : RequestSpec} {w v u : Wrapper} {k : Nat} {d : Dispatcher}

theorem Comes.unaltered {out : Result} {page : Page} (h : Comes r spec k d v out page) :
    Unaltered out := by
  induction h with
  | answered => rintro f ⟨⟩
  | refused => rintro f ⟨⟩; rfl
  | lost => rintro f ⟨⟩; rfl
  | onward _ _ _ _ ih => exact ih

/-- What comes of a call on the walk comes of the first one. -/
theorem Walks.comes (walked : Walks r w k d v) (within : k ≤ maxDispatchDepth) {out : Result}
    {page : Page} (h : Comes r spec k d v out page) : Comes r spec 0 .request w out page := by
  induction walked with
  | start => exact h
  | hop _ forwards mapped ih =>
    exact ih (Nat.le_of_succ_le within) (.onward forwards within mapped h)

theorem Walks.served (sound : r.Sound) (walked : Walks r w k d v) (served : w ∈ r.wrappers) :
    v ∈ r.wrappers := by
  cases walked with
  | start => exact served
  | hop _ _ mapped => exact sound.mem_of_serves (.inl ⟨_, mapped⟩)

theorem Walks.append {j : Nat} {e : Dispatcher} (first : Walks r w j e v) (then_ : Walks r v k d u) :
    ∃ d', Walks r w (j + k) d' u := by
  induction then_ with
  | start => exact ⟨e, first⟩
  | hop _ forwards mapped ih =>
    obtain ⟨_, walked⟩ := ih
    exact ⟨_, .hop walked forwards mapped⟩

/-- A longer walk goes on from wherever it has come to. -/
theorem Walks.through (walked : Walks r w k d v) {j : Nat} (lt : j < k) :
    ∃ e u mode target, Walks r w j e u ∧ u.Forwards mode target := by
  induction walked with
  | start => omega
  | @hop k e _ v _ target before forwards _ ih =>
    by_cases here : j = k
    · exact ⟨e, v, _, target, here ▸ before, forwards⟩
    · exact ih (by omega)

theorem Walks.round {j m : Nat} {e : Dispatcher} (reaches : Walks r w j e v)
    (round : Walks r v (m + 1) d v) (n : Nat) : ∃ i e', n ≤ i ∧ Walks r w i e' v := by
  induction n with
  | zero => exact ⟨j, e, Nat.zero_le j, reaches⟩
  | succ n ih =>
    obtain ⟨i, _, le, walked⟩ := ih
    obtain ⟨e', further⟩ := walked.append round
    exact ⟨_, e', by omega, further⟩

variable (sound : r.Sound) (made : ∀ w ∈ r.wrappers, w.IsOf Builtin.echoClass ∨
  w.IsOf Builtin.staticTextClass ∨ w.IsOf Builtin.forwardingClass) (served : w ∈ r.wrappers)
include sound made served

/-- A walk ends at a servlet that does not forward, or at a target without a servlet, or it has more
than 32 hops. -/
theorem Walks.ends (walked : Walks r w k d v) (within : k ≤ maxDispatchDepth) (spec : RequestSpec) :
    (∃ k d v page, Walks r w k d v ∧ k ≤ maxDispatchDepth ∧ v.Writes spec d page) ∨
      (∃ k d v mode target, Walks r w k d v ∧ k < maxDispatchDepth ∧ v.Forwards mode target ∧
        r.mapServlet (Request.splitUri target).1 = none) ∨
      ∃ d v mode target, Walks r w maxDispatchDepth d v ∧ v.Forwards mode target := by
  have onward := Wrapper.writes_or_forwards (made v (walked.served sound served)) spec d
  -- By induction on the hops that may follow.
  induction ahead : maxDispatchDepth - k generalizing k d v with
  | zero =>
    obtain rfl : k = maxDispatchDepth := by omega
    rcases onward with ⟨page, writes⟩ | ⟨mode, target, forwards⟩
    · exact .inl ⟨_, d, v, page, walked, within, writes⟩
    · exact .inr (.inr ⟨d, v, mode, target, walked, forwards⟩)
  | succ n ih =>
    rcases onward with ⟨page, writes⟩ | ⟨mode, target, forwards⟩
    · exact .inl ⟨_, d, v, page, walked, within, writes⟩
    cases mapped : r.mapServlet (Request.splitUri target).1 with
    | none => exact .inr (.inl ⟨k, d, v, mode, target, walked, by omega, forwards, mapped⟩)
    | some u =>
      have further := walked.hop forwards mapped
      exact ih further (by omega)
        (Wrapper.writes_or_forwards (made u (further.served sound served)) spec mode) (by omega)

theorem comes_of_walks (spec : RequestSpec) : ∃ out page, Comes r spec 0 .request w out page := by
  rcases Walks.start.ends sound made served (Nat.zero_le _) spec with
    ⟨k, d, v, page, walked, within, writes⟩ | ⟨k, d, v, mode, target, walked, within, forwards, none⟩ |
      ⟨d, v, mode, target, walked, forwards⟩
  · exact ⟨_, _, walked.comes within (.answered writes)⟩
  · exact ⟨_, _, walked.comes (Nat.le_of_lt within) (.lost forwards within none)⟩
  · exact ⟨_, _, walked.comes (Nat.le_refl _) (.refused forwards (Nat.le_refl _))⟩

end Walking

/-! ### Servicing the walk -/

/-- A servlet of the pipeline is called or about to be, for a request that is dispatched this way, so
deep and not suspended; nothing has been written yet. -/
structure Blank (p : Nat) (r : Registry) (spec : RequestSpec) (k : Nat) (d : Dispatcher)
    (s : Container) : Prop where
  current : s.current p = some r
  executing : ∃ E, s.executing p = some E ∧ Relaying E
  attached : s.request.pipeline = some p
  fixed : s.request.fixed = (Request.ofSpec s.request.serial spec).fixed
  unmarked : s.request.asyncStarted = false
  depth : s.request.depth = k
  dispatcher : s.request.dispatch.dispatcher = d
  page : s.response.page = .blank

/-- This is the result, the page was written, and the request is not suspended. -/
def Leaves (out : Result) (page : Page) (a : Result) (q : Request) (r : Response) : Prop :=
  a = out ∧ q.asyncStarted = false ∧ r.page = page

section Serving

variable {p : Nat} {r : Registry} {spec : RequestSpec} {k : Nat} {d : Dispatcher} {v w : Wrapper}
  {s t u : Container} {calls : Calls}

theorem Blank.found (h : Blank p r spec k d s) :
    ∃ x, s.pipelines.find? p = some x ∧ x.registry = r ∧ Relaying x.executor := by
  obtain ⟨x, found, own⟩ := Option.map_eq_some_iff.1 h.current
  obtain ⟨E, executing, relaying⟩ := h.executing
  obtain rfl : x.executor = E := Option.some.inj ((executing_eq found).symm.trans executing)
  exact ⟨x, found, own, relaying⟩

theorem Wrapper.Writes.run {page : Page} (writes : v.Writes spec d page)
    (h : Blank p r spec k d s) (who : Component) :
    (v.servlet.program.run calls who false).Yields (Leaves (.ok ()) page) s := by
  have status : s.response.status = 200 := congrArg Page.status h.page
  have headers : s.response.headers = [] := congrArg Page.headers h.page
  have body : s.response.body = [] := congrArg Page.body h.page
  cases writes with
  | echo program =>
    have method : s.request.method = spec.method := congrArg Request.method h.fixed
    have path : s.request.path = (Request.splitUri spec.uri).1 := congrArg Request.path h.fixed
    have sent : s.request.body = spec.body := congrArg Request.body h.fixed
    rw [program]
    refine ⟨_, _, rfl, rfl, rfl, h.unmarked, ?_⟩
    simp [Response.page, Response.write, Response.setHeader, Headers.set, Container.updateResponse,
      Container.view, status, headers, body, method, path, sent, h.dispatcher]
  | staticText program =>
    rw [program]
    refine ⟨_, _, rfl, rfl, rfl, h.unmarked, ?_⟩
    simp [Response.page, Response.write, Response.setHeader, Headers.set, Container.updateResponse,
      headers, body]

theorem Wrapper.Forwards.run {mode : Dispatcher} {target : String} (forwards : v.Forwards mode target)
    (h : Blank p r spec k d s) (who : Component) {post : Result → Request → Response → Prop}
    (sent : ∀ t, Blank p r spec k d t → (calls (.dispatch p mode (.path target))).Yields post t) :
    (v.servlet.program.run calls who false).Yields post s := by
  rw [show v.servlet.program = _ from forwards]
  refine Builtin.forwarding_yields (attachedPipeline_eq h.current h.attached)
    (fun response same => sent _ ?_) who
  have page : response.page = .blank := by
    rcases same with rfl | rfl
    · exact h.page
    · exact congrArg (fun page : Page => { page with body := [] }) h.page
  exact ⟨h.current, h.executing, h.attached, h.fixed, h.unmarked, h.depth, h.dispatcher, page⟩

/-- The chain has come to its servlet. -/
structure Reaches (v : Wrapper) (s : Container) : Prop where
  next : s.chain.filters[s.chain.position]? = none
  servlet : s.chain.servlet = some v.servlet
  executor : Relaying s.chain.executor

theorem Entered.reaches {base : Chain} (entered : Entered p r w base t u) (bare : r.mappings = [])
    (relaying : Relaying base.executor) : Reaches w u := by
  have chain : u.chain = base.release.setServlet w.servlet w.asyncSupported := by
    have populated : u.chain = base.populated r w t.request.dispatch := entered.quiet.chain
    rw [populated, Chain.populated, bare]
    rfl
  constructor <;> rw [chain]
  · rfl
  · rfl
  · exact relaying

theorem Blank.enter {base : Chain} {path : Option String} {j : Nat} {mode : Dispatcher}
    (h : Blank p r spec k d s) (ebbs : Ebbs s t)
    (request : t.request = { s.request with depth := j, dispatch := { dispatcher := mode, path } })
    (entered : Entered p r w base t u) (response : u.response = s.response) :
    Blank p r spec j mode u := by
  obtain ⟨names, entering⟩ := entered.request
  have current (k : Nat) : u.current k = s.current k :=
    (entered.quiet.current k).trans (ebbs.current k)
  have executing (k : Nat) : u.executing k = s.executing k :=
    (entered.quiet.executing k).trans (ebbs.executing k)
  rw [request] at entering
  constructor
  · rw [current, h.current]
  · rw [executing]
    exact h.executing
  · rw [entering]
    exact h.attached
  · rw [entering]
    exact h.fixed
  · rw [entering]
    exact h.unmarked
  · rw [entering]
  · rw [entering]
  · rw [response, h.page]

theorem Reaches.yields (there : Reaches v s) (h : Blank p r spec k d s) {out : Result} {page : Page}
    (unaltered : Unaltered out)
    (ran : ∀ t, Blank p r spec k d t →
      (v.servlet.program.run calls v.servlet false).Yields (Leaves out page) t) :
    (Traversal.doFilter calls).Yields (Leaves out page) s := by
  refine servlet_yields ?_ there.executor there.next there.servlet fun lastServiced journal => ?_
  · rintro a q r ⟨rfl, -⟩
    exact unaltered
  · exact ran _ ⟨h.current, h.executing, h.attached, h.fixed, h.unmarked, h.depth, h.dispatcher, h.page⟩

theorem unmapped_eq (target : String) :
    unmapped target = .servlet ("no servlet available for " ++ (Target.path target).shown) := by
  simp [unmapped, Target.shown, ← String.toList_inj]

theorem nestedTooDeeply_eq (target : String) : nestedTooDeeply target =
    .runtime ("internal dispatch to " ++ (Target.path target).shown ++ " nested more than " ++
      toString maxDispatchDepth ++ " levels") := by
  rw [show toString maxDispatchDepth = "32" from rfl]
  simp [nestedTooDeeply, Target.shown, ← String.toList_inj]

/-- What is said to come of a call comes of it. -/
theorem Comes.yields {out : Result} {page : Page} (comes : Comes r spec k d v out page)
    (bare : r.mappings = []) : ∀ {levels s}, maxDispatchDepth + 1 ≤ levels + k → k ≤ maxDispatchDepth →
      Blank p r spec k d s → Reaches v s →
      (Traversal.doFilter (nestedCalls levels)).Yields (Leaves out page) s := by
  have unaltered := comes.unaltered
  -- Each hop takes one of the levels, and the depth of the request counts it.
  induction comes with
  | answered writes =>
    intro levels s _ _ h there
    exact there.yields h unaltered fun t blank => writes.run blank _
  | refused forwards deep =>
    intro levels s room within h there
    obtain ⟨n, rfl⟩ : ∃ n, levels = n + 1 := ⟨levels - 1, by omega⟩
    refine there.yields h unaltered fun t blank => forwards.run blank _ fun t blank => ?_
    change (Pipeline.dispatch (nestedCalls n) _ _ _).Yields _ _
    refine dispatch_refused (by rw [blank.depth]; exact deep) ?_
    exact ⟨by rw [nestedTooDeeply_eq], blank.unmarked, blank.page⟩
  | lost forwards shallow none =>
    intro levels s room within h there
    obtain ⟨n, rfl⟩ : ∃ n, levels = n + 1 := ⟨levels - 1, by omega⟩
    refine there.yields h unaltered fun t blank => forwards.run blank _ fun t blank => ?_
    obtain ⟨x, found, rfl, -⟩ := blank.found
    change (Pipeline.dispatch (nestedCalls n) _ _ _).Yields _ _
    refine dispatch_unmapped found (by rw [blank.depth]; exact shallow)
      (congrArg (·, _) none) ?_
    exact ⟨by rw [unmapped_eq], blank.unmarked, blank.page⟩
  | onward forwards shallow mapped _ ih =>
    intro levels s room within h there
    obtain ⟨n, rfl⟩ : ∃ n, levels = n + 1 := ⟨levels - 1, by omega⟩
    refine there.yields h unaltered fun t blank => forwards.run blank _ fun t blank => ?_
    obtain ⟨x, found, rfl, relaying⟩ := blank.found
    change (Pipeline.dispatch (nestedCalls n) _ _ _).Yields _ _
    refine dispatch_yields found (by rw [blank.depth]; exact shallow)
      (congrArg (·, _) mapped) fun base u v own ebbs request entered response => ?_
    rw [blank.depth] at request
    exact ih unaltered (by omega) shallow (blank.enter ebbs request entered response)
      (entered.reaches bare (own ▸ relaying))

end Serving

/-! ### Requests -/

/-- What a client gets for a request. -/
structure Reply where
  result : Except Halt (Except ServiceError Unit)
  page : Page
  deriving DecidableEq

def Reply.failure (f : Failure) : Reply := ⟨.ok (.error (.chain f)), .blank⟩

namespace Pipeline

/-- The state after the pipeline has serviced a new request. -/
def serving (levels p : Nat) (spec : RequestSpec) (s : Container) : Container :=
  (service levels p (s.openRequest spec)).2

def reply (levels p : Nat) (spec : RequestSpec) (s : Container) : Reply :=
  ⟨(service levels p (s.openRequest spec)).1, (serving levels p spec s).response.page⟩

theorem reply_of_yields {levels p : Nat} {spec : RequestSpec} {s : Container}
    {post : Except ServiceError Unit → Response → Prop}
    (h : (service levels p).Yields (fun a _ response => post a response) (s.openRequest spec)) :
    ∃ out response, reply levels p spec s = ⟨.ok out, response.page⟩ ∧ post out response ∧
      (serving levels p spec s).current = s.current := by
  obtain ⟨a, t, ran, current, holds⟩ := h
  unfold reply serving
  rw [ran]
  exact ⟨a, t.response, rfl, holds, current⟩

end Pipeline

section Requests

variable {start : Config} {components : ComponentFactory} {executor : Option Executor} {p levels : Nat}
  {s : Container} {x : Pipeline} {spec : RequestSpec} {w : Wrapper}

theorem Tenure.lent (tenure : Tenure start components executor p s)
    (found : s.pipelines.find? p = some x) (relaying : Relaying executor) {pooled : Bool} {base : Chain}
    (lends : x.Lends pooled base) : Relaying base.executor := by
  rcases lends with own | ⟨-, -, servlet, c, idle, own⟩
  · obtain ⟨y, found', -, executed, -⟩ := tenure.pipeline
    obtain rfl := Option.some.inj (found.symm.trans found')
    rw [own, executed]
    exact relaying
  · obtain ⟨_, _, _, -, like⟩ := tenure.like_self found
    obtain ⟨-, _, _, rfl⟩ := like.tidy servlet c idle
    rw [own]
    rintro E ⟨⟩

theorem Tenure.blank (tenure : Tenure start components executor p s)
    (found : s.pipelines.find? p = some x) (relaying : Relaying executor) :
    Blank p x.registry spec 0 .request (x.registry.hold ((s.openRequest spec).attach p)) := by
  obtain ⟨y, found', -, executed, -⟩ := tenure.pipeline
  obtain rfl := Option.some.inj (found.symm.trans found')
  refine ⟨current_eq (s := x.registry.hold _) found, ⟨x.executor, ?_, executed ▸ relaying⟩, rfl, rfl,
    rfl, rfl, rfl, rfl⟩
  exact congrArg (Option.map _) found

theorem reply_notFound (found : s.pipelines.find? p = some x)
    (none : x.registry.mapServlet (Request.splitUri spec.uri).1 = none) :
    Pipeline.reply levels p spec s =
        ⟨.ok (.error (.notFound (Request.splitUri spec.uri).1)), .blank⟩ ∧
      (Pipeline.serving levels p spec s).current = s.current := by
  have missed : (Pipeline.service levels p).Yields (fun a _ response =>
      a = .error (.notFound (Request.splitUri spec.uri).1) ∧ response.page = .blank)
      (s.openRequest spec) := by
    have path : (s.openRequest spec).request.path = (Request.splitUri spec.uri).1 := rfl
    refine service_yields found ?_
    unfold Pipeline.serviceOn Run.Yields
    rw [path, none]
    exact ⟨_, _, rfl, rfl, rfl, rfl⟩
  obtain ⟨_, response, reply, ⟨rfl, page⟩, current⟩ := Pipeline.reply_of_yields missed
  exact ⟨page ▸ reply, current⟩

section Bare

variable (tenure : Tenure start components executor p s) (found : s.pipelines.find? p = some x)
  (relaying : Relaying executor) (bare : x.registry.mappings = [])
  (enough : maxDispatchDepth + 1 ≤ levels)
include tenure found relaying bare enough

theorem Comes.reply (mapped : x.registry.mapServlet (Request.splitUri spec.uri).1 = some w)
    {out : Result} {page : Page} (comes : Comes x.registry spec 0 .request w out page) :
    Pipeline.reply levels p spec s = ⟨.ok (out.mapError .chain), page⟩ ∧
      (Pipeline.serving levels p spec s).current = s.current := by
  have blank : Blank p x.registry spec 0 .request _ := tenure.blank found relaying
  let opened := x.registry.hold ((s.openRequest spec).attach p)
  have found' : opened.pipelines.find? p = some x := found
  have visited : (Pipeline.dispatchTo (nestedCalls levels) p x.registry w
      { dispatcher := .request, path := some (Request.splitUri spec.uri).1 } true).Yields
      (Leaves out page) opened :=
    dispatchTo_yields found' x.registry w _ true fun base t u lends quiet request entered response =>
      comes.yields bare enough (Nat.zero_le _) (blank.enter quiet.ebbs request entered response)
        (entered.reaches bare (tenure.lent found relaying lends))
  have serviced : (Pipeline.service levels p).Yields (fun a _ response =>
      a = out.mapError .chain ∧ response.page = page) (s.openRequest spec) := by
    refine service_yields found (serviceOn_yields mapped (traverse_yields (visited.imp ?_)))
    rintro a q response ⟨rfl, unmarked, page⟩
    exact ⟨unmarked, rfl, page⟩
  obtain ⟨_, response, reply, ⟨rfl, page⟩, current⟩ := Pipeline.reply_of_yields serviced
  exact ⟨page ▸ reply, current⟩

/-- Whether a request was made before makes no difference to the reply to another one. -/
theorem reply_later (made : ∀ w ∈ x.registry.wrappers, w.IsOf Builtin.echoClass ∨
      w.IsOf Builtin.staticTextClass ∨ w.IsOf Builtin.forwardingClass) (sound : x.registry.Sound)
    (kept : (Pipeline.serving levels p spec s).current = s.current) (later : RequestSpec) :
    Pipeline.reply levels p later (Pipeline.serving levels p spec s) =
      Pipeline.reply levels p later s := by
  let t := Pipeline.serving levels p spec s
  have tenure' : Tenure start components executor p t := by
    have after := tenure.uses [.request spec, .service levels]
    have same : (s.openRequest spec).use p (.service levels) = t :=
      Run.bind_pure_snd (Pipeline.service levels p) _ _
    exact same ▸ after
  obtain ⟨y, found', own⟩ : ∃ y, t.pipelines.find? p = some y ∧ y.registry = x.registry := by
    have current : t.current p = some x.registry := (congrFun kept p).trans (current_eq found)
    simpa [Container.current] using current
  cases mapped : x.registry.mapServlet (Request.splitUri later.uri).1 with
  | none =>
    rw [(reply_notFound found mapped).1]
    exact (reply_notFound found' (own ▸ mapped)).1
  | some w =>
    obtain ⟨out, page, comes⟩ :=
      comes_of_walks sound made (sound.mem_of_serves (.inl ⟨_, mapped⟩)) later
    rw [(comes.reply tenure found relaying bare enough mapped).1]
    rw [← own] at comes mapped bare
    exact (comes.reply tenure' found' relaying bare enough mapped).1

end Bare

/-- A pipeline without filter mappings, the servlets of which echo requests, answer with a fixed text
or forward, follows the targets from the servlet that a request is mapped to. A servlet that does not
forward, after at most 32 hops, answers as it does alone; a target without a servlet among the first 32
fails the request; and otherwise, as on a cycle, the 33rd hop does. In any case later requests are
answered as if this one had not been made. -/
theorem service_walks {start : Config} {components : ComponentFactory} {options : PipelineOptions}
    {p levels : Nat} {uses : List Use} {s : Container} {x : Pipeline} {spec : RequestSpec} {w : Wrapper}
    (opened : (Pipeline.openFor start components options {}).1 = .ok (.ok p))
    (used : s = uses.foldl (Container.use p) (.opened start components options))
    (found : s.pipelines.find? p = some x) (relaying : Relaying options.executor)
    (bare : x.registry.mappings = [])
    (made : ∀ w ∈ x.registry.wrappers, w.IsOf Builtin.echoClass ∨ w.IsOf Builtin.staticTextClass ∨
      w.IsOf Builtin.forwardingClass)
    (mapped : x.registry.mapServlet (Request.splitUri spec.uri).1 = some w) (enough : 33 ≤ levels) :
    (∀ k d v page, Walks x.registry w k d v → k ≤ 32 → v.Writes spec d page →
      Pipeline.reply levels p spec s = ⟨.ok (.ok ()), page⟩) ∧
    (∀ k d v mode target, Walks x.registry w k d v → k < 32 → v.Forwards mode target →
      x.registry.mapServlet (Request.splitUri target).1 = none →
      Pipeline.reply levels p spec s = .failure (unmapped target)) ∧
    (∀ d v mode target, Walks x.registry w 32 d v → v.Forwards mode target →
      Pipeline.reply levels p spec s = .failure (nestedTooDeeply target)) ∧
    ((∃ k d v page, Walks x.registry w k d v ∧ k ≤ 32 ∧ v.Writes spec d page) ∨
      (∃ k d v mode target, Walks x.registry w k d v ∧ k < 32 ∧ v.Forwards mode target ∧
        x.registry.mapServlet (Request.splitUri target).1 = none) ∨
      ∃ d v mode target, Walks x.registry w 32 d v ∧ v.Forwards mode target) ∧
    (∀ j e v m d, Walks x.registry w j e v → Walks x.registry v (m + 1) d v →
      ∃ target, Pipeline.reply levels p spec s = .failure (nestedTooDeeply target)) ∧
    ∀ later, Pipeline.reply levels p later (Pipeline.serving levels p spec s) =
      Pipeline.reply levels p later s := by
  have tenure := (tenure_opened opened).uses uses
  rw [← used] at tenure
  have sound : x.registry.Sound := by
    obtain ⟨y, found', -, -, c, ⟨⟨t, u, built⟩, -⟩, -⟩ := tenure.pipeline
    obtain rfl := Option.some.inj (found.symm.trans found')
    exact (Registry.build_contents built).sound
  have served := sound.mem_of_serves (.inl ⟨_, mapped⟩)
  have replies {k : Nat} {d : Dispatcher} {v : Wrapper} {out : Result} {page : Page}
      (walked : Walks x.registry w k d v) (within : k ≤ 32) (comes : Comes x.registry spec k d v out page) :
      Pipeline.reply levels p spec s = ⟨.ok (out.mapError .chain), page⟩ :=
    ((walked.comes within comes).reply tenure found relaying bare enough mapped).1
  have deep {d : Dispatcher} {v : Wrapper} {mode : Dispatcher} {target : String}
      (walked : Walks x.registry w 32 d v) (forwards : v.Forwards mode target) :
      Pipeline.reply levels p spec s = .failure (nestedTooDeeply target) :=
    replies walked (Nat.le_refl _) (.refused forwards (Nat.le_refl _))
  refine ⟨?_, ?_, ?_, ?_, ?_, ?_⟩
  · exact fun k d v page walked within writes => replies walked within (.answered writes)
  · exact fun k d v mode target walked within forwards none =>
      replies walked (Nat.le_of_lt within) (.lost forwards within none)
  · exact fun d v mode target => deep
  · exact Walks.start.ends sound made served (Nat.zero_le _) spec
  · intro j e v m d reaches round
    obtain ⟨i, e', le, walked⟩ := reaches.round round 33
    obtain ⟨_, _, _, target, walked, forwards⟩ := walked.through (show 32 < i by omega)
    exact ⟨target, deep walked forwards⟩
  · obtain ⟨out, page, comes⟩ := comes_of_walks sound made served spec
    exact reply_later tenure found relaying bare enough made sound
      (comes.reply tenure found relaying bare enough mapped).2

end Requests

/-! ### Configured servlets -/

section Configured

variable {config : Config} {components : ComponentFactory} {count : String → Nat} {w : Wrapper}
  {e : Config.ServletEntry} {r : Registry}

theorem Wrapper.ComesFrom.forwards (from_ : w.ComesFrom .builtin count e)
    (forwarding : e.className = "forwarding") {mode : Dispatcher} {target : String}
    (sent : e.initParams.find? "target" = some target)
    (parsed : Builtin.modeParam e.name (e.initParams.find? "mode") = .ok mode) :
    w.Forwards mode target := by
  have ready : Builtin.forwardingClass.make e _ = _ := from_.made (forwarding ▸ rfl)
  have made := Builtin.making_ready ready
  rw [sent, parsed] at made
  exact (Except.ok.inj made).symm

theorem Wrapper.ComesFrom.echoes (from_ : w.ComesFrom .builtin count e) (echo : e.className = "echo") :
    w.servlet.program = Builtin.echo := by
  have ready : Builtin.echoClass.make e _ = _ := from_.made (echo ▸ rfl)
  exact (Making.ready.inj ready).symm

/-- The servlets of a configuration that names no other classes. -/
theorem Registry.Faithful.walkable (h : r.Faithful config .builtin count)
    (classes : ∀ e ∈ config.servlets, e.className ∈ ["echo", "static-text", "forwarding"]) :
    ∀ w ∈ r.wrappers, w.IsOf Builtin.echoClass ∨ w.IsOf Builtin.staticTextClass ∨
      w.IsOf Builtin.forwardingClass := by
  intro w served
  obtain ⟨n, at_, rfl⟩ := List.getElem_of_mem served
  have from_ := h.servlets.get at_ (h.servlets.length_eq ▸ at_)
  have named := classes _ (List.get_mem config.servlets ⟨n, h.servlets.length_eq ▸ at_⟩)
  simp only [List.mem_cons, List.not_mem_nil, or_false] at named
  rcases named with echo | staticText | forwarding
  · exact .inl ⟨_, _, from_.made (echo ▸ rfl)⟩
  · exact .inr (.inl ⟨_, _, from_.made (staticText ▸ rfl)⟩)
  · exact .inr (.inr ⟨_, _, from_.made (forwarding ▸ rfl)⟩)

theorem opened_faithful {options : PipelineOptions} {p : Nat}
    (opened : (Pipeline.openFor config components options {}).1 = .ok (.ok p))
    (valid : config.defects = []) : ∃ x count,
      (Container.opened config components options).pipelines.find? p = some x ∧
        x.registry.Faithful config components count := by
  obtain ⟨r, u, ran, rfl, -, created⟩ := openFor_ok opened
  rw [created]
  exact ⟨_, _, Dict.find?_insert_self ..,
    Registry.build_faithful (Config.valid_of_defects valid) (congrArg Prod.fst ran)⟩

end Configured

/-- A servlet that echoes requests, one that is reached from another one, one that forwards to nothing
and one that forwards to itself. -/
def relaySite : Config where
  servlets :=
    [{ name := "page", className := "echo", urlPatterns := ["/page"] },
      { name := "desk", className := "forwarding", urlPatterns := ["/desk"]
        initParams := ⟨[("target", "/page?from=desk"), ("mode", "include")]⟩ },
      { name := "gate", className := "forwarding", urlPatterns := ["/gate"]
        initParams := ⟨[("target", "/desk")]⟩ },
      { name := "lost", className := "forwarding", urlPatterns := ["/lost"]
        initParams := ⟨[("target", "/nowhere")]⟩ },
      { name := "loop", className := "forwarding", urlPatterns := ["/loop"]
        initParams := ⟨[("target", "/loop")]⟩ }]

def relayOpened (executor : Option Executor) : Container :=
  .opened relaySite .builtin { executor }

theorem service_walks_relay :
    Pipeline.reply 33 7 { uri := "/gate" } (relayOpened none) =
        ⟨.ok (.ok ()), 200, [("content-type", "text/plain")], utf8 "GET /gate dispatcher=INCLUDE\n"⟩ ∧
      Pipeline.reply 33 7 { uri := "/lost" } (relayOpened none) = .failure (unmapped "/nowhere") ∧
      ∃ target, Pipeline.reply 33 7 { uri := "/loop" } (relayOpened none) =
        .failure (nestedTooDeeply target) := by
  have opened : (Pipeline.openFor relaySite .builtin {} {}).1 = .ok (.ok 7) := by decide +kernel
  obtain ⟨x, count, found, faithful⟩ := opened_faithful opened (by decide)
  have bare : x.registry.mappings = [] := List.forall₂_nil_right_iff.1 faithful.mappings
  have relaying : Relaying (none : Option Executor) := by rintro E ⟨⟩
  have walks := fun (uri : String) w => @service_walks relaySite .builtin {} 7 33 [] (relayOpened none)
    x { uri } w opened rfl found relaying bare (faithful.walkable (by decide))
  obtain ⟨page, atPage, isPage⟩ :=
    faithful.serves (Request.splitUri "/page?from=desk").1 (e := relaySite.servlets[0]) (by decide +kernel)
  obtain ⟨desk, atDesk, isDesk⟩ :=
    faithful.serves (Request.splitUri "/desk").1 (e := relaySite.servlets[1]) (by decide +kernel)
  obtain ⟨gate, atGate, isGate⟩ :=
    faithful.serves (Request.splitUri "/gate").1 (e := relaySite.servlets[2]) (by decide +kernel)
  obtain ⟨lost, atLost, isLost⟩ :=
    faithful.serves (Request.splitUri "/lost").1 (e := relaySite.servlets[3]) (by decide +kernel)
  obtain ⟨loop, atLoop, isLoop⟩ :=
    faithful.serves (Request.splitUri "/loop").1 (e := relaySite.servlets[4]) (by decide +kernel)
  refine ⟨?_, ?_, ?_⟩
  · obtain ⟨answered, -⟩ := walks "/gate" gate atGate (Nat.le_refl _)
    have one := Walks.start.hop (isGate.forwards rfl rfl rfl) atDesk
    have two := one.hop (isDesk.forwards rfl rfl rfl) atPage
    have reply := answered 2 .inclusion page _ two (by decide) (.echo (isPage.echoes rfl))
    exact reply.trans (by decide +kernel)
  · obtain ⟨-, fails, -⟩ := walks "/lost" lost atLost (Nat.le_refl _)
    exact fails 0 .request lost .forward "/nowhere" .start (by decide) (isLost.forwards rfl rfl rfl)
      (faithful.unserved (by decide +kernel))
  · obtain ⟨-, -, -, -, cycle, -⟩ := walks "/loop" loop atLoop (Nat.le_refl _)
    exact cycle 0 .request loop 0 .forward .start (.hop .start (isLoop.forwards rfl rfl rfl) atLoop)

/-- An executor that does not run what it is given keeps the servlet from writing. -/
theorem service_walks_denied :
    (Pipeline.openFor relaySite .builtin { executor := some .deny } {}).1 = .ok (.ok 7) ∧
      ∃ x w page, (relayOpened (some .deny)).pipelines.find? 7 = some x ∧ x.registry.mappings = [] ∧
        (∀ w ∈ x.registry.wrappers, w.IsOf Builtin.echoClass ∨ w.IsOf Builtin.staticTextClass ∨
          w.IsOf Builtin.forwardingClass) ∧
        x.registry.mapServlet "/page" = some w ∧ w.Writes { uri := "/page" } .request page ∧
        Pipeline.reply 33 7 { uri := "/page" } (relayOpened (some .deny)) ≠ ⟨.ok (.ok ()), page⟩ := by
  have opened : (Pipeline.openFor relaySite .builtin { executor := some .deny } {}).1 =
      .ok (.ok 7) := by decide +kernel
  obtain ⟨x, count, found, faithful⟩ := opened_faithful opened (by decide)
  obtain ⟨w, mapped, isPage⟩ :=
    faithful.serves (e := relaySite.servlets[0]) "/page" (by decide +kernel)
  have denied : (Pipeline.reply 33 7 { uri := "/page" } (relayOpened (some .deny))).page = .blank := by
    decide +kernel
  refine ⟨opened, x, w, _, found, List.forall₂_nil_right_iff.1 faithful.mappings,
    faithful.walkable (by decide), mapped, .echo (isPage.echoes rfl), fun same => ?_⟩
  rw [same] at denied
  exact absurd (congrArg Page.headers denied) (List.cons_ne_nil _ _)

end ServletFilters
