import Mathlib.Data.List.TakeWhile
import ServletFilters.Proofs.Container.Resuming

/-!
How requests are routed. A request from outside and an internal dispatch for the same address come
to the same servlet, for the path before the first question mark, or both come to none,
`routes_agree`.
-/

namespace ServletFilters

/-! ### Addresses -/

theorem before_of_cut {sep : Char} {s : List Char} {parts : List Char × List Char}
    (h : Text.cut sep s = some parts) : Text.before sep s = parts.1 := by
  induction s generalizing parts with
  | nil => cases h
  | cons c rest ih =>
    unfold Text.cut at h
    split at h
    · rename_i found
      cases h
      simp [Text.before, found]
    · rename_i other
      obtain ⟨later, cut, rfl⟩ := Option.map_eq_some_iff.1 h
      simpa [Text.before, other] using ih cut

theorem before_of_not_mem {sep : Char} {s : List Char} (h : sep ∉ s) : Text.before sep s = s := by
  apply List.takeWhile_eq_self_iff.2
  intro c member
  apply decide_eq_true
  exact fun same => h (same ▸ member)

/-- The path of an address is what stands before its first question mark. -/
theorem splitUri_path (uri : String) :
    (Request.splitUri uri).1 = String.ofList (Text.before '?' uri.toList) := by
  unfold Request.splitUri
  cases cut : Text.cut '?' uri.toList with
  | none => rw [before_of_not_mem (Text.cut_eq_none.1 cut), String.ofList_toList]
  | some parts => rw [before_of_cut cut]

/-! ### Chains that are begun -/

/-- A state in which a chain is begun for a servlet, when the request has come this way. -/
structure Outset (r : Registry) (w : Wrapper) (d : DispatchState) (u : Container) : Prop where
  dispatch : u.request.dispatch = d
  servlet : u.chain.servlet = some w.servlet
  position : u.chain.position = 0
  filters : u.chain.filters = (Chain.populated r w d {}).filters

theorem addFilter_filters {c c' : Chain} (same : c.filters = c'.filters) (f : FilterConfig) :
    (c.addFilter f).filters = (c'.addFilter f).filters := by
  unfold Chain.addFilter
  rw [same]
  split
  · exact same
  · rfl

theorem foldl_addFilter_same (fs : List FilterConfig) {c c' : Chain}
    (same : c.filters = c'.filters) :
    (fs.foldl Chain.addFilter c).filters = (fs.foldl Chain.addFilter c').filters := by
  induction fs generalizing c c' with
  | nil => exact same
  | cons f rest ih => exact ih (addFilter_filters same f)

/-- What a chain held before it was populated does not show. -/
theorem populated_same (r : Registry) (w : Wrapper) (d : DispatchState) (c c' : Chain) :
    (c.populated r w d).filters = (c'.populated r w d).filters :=
  foldl_addFilter_same _ rfl

theorem resolve_of_all {mappings : List FilterMapping} {d d' : Dispatcher}
    (all : ∀ m ∈ mappings, m.appliesTo d = true ∧ m.appliesTo d' = true)
    (path servlet : Option String) :
    resolve mappings d path servlet = resolve mappings d' path servlet := by
  unfold resolve
  rw [List.filter_eq_self.2 fun m member => (all m member).1,
    List.filter_eq_self.2 fun m member => (all m member).2]

/-- Where all mappings apply to both ways of coming, the chains have the same filters. -/
theorem Outset.same_filters {r : Registry} {w : Wrapper} {d d' : DispatchState} {u v : Container}
    (h : Outset r w d u) (h' : Outset r w d' v) (path : d.path = d'.path)
    (all : ∀ m ∈ r.mappings, m.appliesTo d.dispatcher = true ∧ m.appliesTo d'.dispatcher = true) :
    u.chain.filters = v.chain.filters := by
  rw [h.filters, h'.filters, Chain.populated, Chain.populated, path, resolve_of_all all]

theorem starts_outset {p : Nat} {s : Container} {x : Pipeline}
    (found : s.pipelines.find? p = some x) (r : Registry) (w : Wrapper) (d : DispatchState)
    (pooled : Bool) :
    ∃ u, Pipeline.starts p r w d pooled s = [u] ∧ Outset r w d u := by
  rcases dispatchTo_cases (fun _ => Run.halt .exhausted) p r w d pooled s with
    ⟨absent, -⟩ | ⟨y, base, t, u, -, -, starts, -, request, entered, -⟩
  · rw [found] at absent
    cases absent
  · have state : t.request.dispatch = d := by rw [request]
    have chain : u.chain = base.populated r w d := by
      rw [entered.quiet.chain, ← state]
      rfl
    obtain ⟨names, exchange⟩ := entered.request
    refine ⟨u, starts, ?_, ?_, ?_, ?_⟩
    · rw [exchange]
      exact state
    · rw [chain]
      exact (populated_members r w d base).2
    · rw [chain]
      exact populated_position r w d base
    · rw [chain]
      exact populated_same r w d base {}

/-! ### Requests from outside -/

section Outside

variable {p : Nat} {s : Container} {x : Pipeline} {w : Wrapper}

theorem serviceStarts_outset (calls : Calls) (found : s.pipelines.find? p = some x)
    (mapped : x.registry.mapServlet s.request.path = some w) :
    ∃ u later, Pipeline.serviceStarts calls p s = u :: later ∧
      Outset x.registry w { dispatcher := .request, path := some s.request.path } u := by
  obtain ⟨u, starts, outset⟩ := starts_outset (s := x.registry.hold (s.attach p)) found x.registry w
    { dispatcher := .request, path := some s.request.path } true
  unfold Pipeline.serviceStarts Pipeline.traversals
  simp only [found, mapped, starts]
  exact ⟨u, _, rfl, outset⟩

theorem serviceWith_missing (calls : Calls) (found : s.pipelines.find? p = some x)
    (unmapped : x.registry.mapServlet s.request.path = none) :
    (Pipeline.serviceWith calls p s).1 = .ok (.error (.notFound s.request.path)) ∧
      ∀ level, (Pipeline.serviceWith calls p s).2.visits level = s.visits level := by
  rw [serviceWith_some calls found]
  rcases serviceOn_cases calls p x.registry s.request.path (x.registry.hold (s.attach p)) with
    ⟨-, ran⟩ | ⟨w, mapped, -⟩
  · rw [ran]
    refine ⟨rfl, fun level => ?_⟩
    rw [(x.registry.letGo_aloof _).visits, (x.registry.hold_aloof _).visits]
    rfl
  · rw [unmapped] at mapped
    cases mapped

/-- A pipeline that finds a servlet visits it for the request, then as often as it is suspended. -/
theorem serviceWith_finds (outside : Outside) (levels : Nat) (found : s.pipelines.find? p = some x)
    (mapped : x.registry.mapServlet s.request.path = some w) :
    (∀ path, (Pipeline.serviceWith (callsAmid outside levels) p s).1 ≠
        .ok (.error (.notFound path))) ∧
      ∃ n, (Pipeline.serviceWith (callsAmid outside levels) p s).2.visits (s.nesting + 1) =
        List.replicate n (.round p x.registry w s.request.path .async) ++
          .round p x.registry w s.request.path .request :: s.visits (s.nesting + 1) := by
  obtain ⟨rounds, last, resumed, ends, result, -, aloof⟩ :=
    serviceWith_rounds outside levels found mapped
  constructor
  · intro path missing
    rw [result] at missing
    generalize last.outcome = outcome at missing
    rcases outcome with halt | failure | done <;> cases missing
  · have place : rounds[rounds.length - 1]? = some last := by
      rw [← List.getLast?_eq_getElem?]
      exact ends
    have there : ((x.registry.hold (s.attach p)).pipelines.find? p).isSome = true :=
      Option.isSome_iff_exists.2 ⟨x, found⟩
    have told := (resumed.visits there _ _ place).2.2
    have unmarked : last.ending.visits (s.nesting + 1) = last.after.visits (s.nesting + 1) := by
      unfold Round.ending
      split <;> rfl
    refine ⟨rounds.length - 1, ?_⟩
    rw [aloof.visits, unmarked]
    refine told.trans ?_
    rw [(x.registry.hold_aloof _).visits]
    rfl

end Outside

/-! ### Internal dispatches -/

section Inside

variable {p : Nat} {s : Container} {x : Pipeline} {target : Target}

theorem dispatchStarts_outset (found : s.pipelines.find? p = some x)
    (shallow : s.request.depth < maxDispatchDepth) (kind : Dispatcher) {w : Wrapper} {path : Option String}
    (located : Pipeline.locate x.registry target = (some w, path)) :
    ∃ v, Pipeline.dispatchStarts p kind target s = [v] ∧
      Outset x.registry w { dispatcher := kind, path } v := by
  obtain ⟨v, starts, outset⟩ := starts_outset (s := x.registry.hold s.deepen) found x.registry w
    { dispatcher := kind, path } false
  have nested : ¬ maxDispatchDepth < s.deepen.request.depth := Nat.not_lt_of_le shallow
  unfold Pipeline.dispatchStarts
  simp only [if_neg nested, found, located]
  exact ⟨v, starts, outset⟩

/-- A dispatch that may be made ends as the visit does that it comes to, if it comes to one. -/
theorem dispatch_diverts (calls : Calls) (found : s.pipelines.find? p = some x)
    (shallow : s.request.depth < maxDispatchDepth) (kind : Dispatcher) (target : Target) :
    let diverted := Pipeline.divert calls p x.registry kind target (x.registry.hold s.deepen)
    (Pipeline.dispatch calls p kind target s).1 = diverted.1 ∧
      ∀ level,
        (Pipeline.dispatch calls p kind target s).2.visits level = diverted.2.visits level := by
  intro diverted
  have nested : ¬ maxDispatchDepth < s.deepen.request.depth := Nat.not_lt_of_le shallow
  obtain ⟨result, quiet⟩ := dispatch_shallow calls p kind target nested
  rw [dispatchNested_some calls kind target (s := s.deepen) found] at result quiet
  refine ⟨result, fun level => ?_⟩
  rw [quiet.visits, (x.registry.letGo_aloof _).visits]

/-- The failure of a dispatch for which there is no servlet. -/
def Target.unserved (target : Target) : Failure :=
  .servlet ("no servlet available for " ++ target.shown)

theorem dispatch_missing (calls : Calls) (found : s.pipelines.find? p = some x)
    (shallow : s.request.depth < maxDispatchDepth) (kind : Dispatcher) {path : Option String}
    (located : Pipeline.locate x.registry target = (none, path)) :
    (Pipeline.dispatch calls p kind target s).1 = .ok (.error target.unserved) ∧
      ∀ level, (Pipeline.dispatch calls p kind target s).2.visits level = s.visits level := by
  obtain ⟨result, visits⟩ := dispatch_diverts calls found shallow kind target
  unfold Pipeline.divert at result visits
  rw [located] at result visits
  refine ⟨result, fun level => (visits level).trans ?_⟩
  change (x.registry.hold s.deepen).visits level = _
  rw [(x.registry.hold_aloof _).visits]
  rfl

theorem dispatch_finds (outside : Outside) (levels : Nat) (found : s.pipelines.find? p = some x)
    (shallow : s.request.depth < maxDispatchDepth) (kind : Dispatcher) {w : Wrapper} {path : Option String}
    (located : Pipeline.locate x.registry target = (some w, path)) :
    (Pipeline.dispatch (callsAmid outside levels) p kind target s).2.visits (s.nesting + 1) =
      ⟨p, x.registry.serial, w.name, { dispatcher := kind, path }⟩ :: s.visits (s.nesting + 1) := by
  have visits := (dispatch_diverts (callsAmid outside levels) found shallow kind target).2
  unfold Pipeline.divert at visits
  rw [located] at visits
  refine (visits _).trans ?_
  refine (dispatchTo_visits (carried_inward.callsAmid outside levels)
    (s := x.registry.hold s.deepen) found).2.trans ?_
  rw [(x.registry.hold_aloof _).visits]
  rfl

end Inside

/-- A dispatch fails because there is no servlet for it. A servlet may fail in the same words, but
then the dispatch has come to a visit. -/
def Pipeline.Unserved (outside : Outside) (levels p : Nat) (kind : Dispatcher) (target : Target)
    (s : Container) : Prop :=
  (Pipeline.dispatch (callsAmid outside levels) p kind target s).1 = .ok (.error target.unserved) ∧
    (Pipeline.dispatch (callsAmid outside levels) p kind target s).2.visits (s.nesting + 1) =
      s.visits (s.nesting + 1)

/-- A new request for an address, and a dispatch to it in any exchange that may still make one, are
routed alike by pipelines with the same registry. Where no servlet is mapped to the path before the
first question mark, the one is not found and the other fails for lack of a servlet; nothing else
makes them fail so. Otherwise both visit the servlet that is mapped, for that path, and their chains
have the same filters where all mappings apply to both ways of coming to it. -/
theorem routes_agree (outside : Outside) (levels : Nat) (spec : RequestSpec) (kind : Dispatcher)
    {p q : Nat} {s t : Container} {x y : Pipeline} (here : s.pipelines.find? p = some x)
    (there : t.pipelines.find? q = some y) (same : y.registry = x.registry)
    (shallow : t.request.depth < maxDispatchDepth) :
    let calls := callsAmid outside levels
    let path := String.ofList (Text.before '?' spec.uri.toList)
    let served := Pipeline.serviceWith calls p (s.openRequest spec)
    let sent := Pipeline.dispatch calls q kind (.path spec.uri) t
    ((∃ other, served.1 = .ok (.error (.notFound other))) ↔
        Pipeline.Unserved outside levels q kind (.path spec.uri) t) ∧
      (x.registry.mapServlet path = none → served.1 = .ok (.error (.notFound path)) ∧
        served.2.visits (s.nesting + 1) = s.visits (s.nesting + 1) ∧
        Pipeline.Unserved outside levels q kind (.path spec.uri) t) ∧
      ∀ w, x.registry.mapServlet path = some w →
        (∃ n, served.2.visits (s.nesting + 1) =
          List.replicate n (.round p x.registry w path .async) ++
            .round p x.registry w path .request :: s.visits (s.nesting + 1)) ∧
        sent.2.visits (t.nesting + 1) =
          .round q x.registry w path kind :: t.visits (t.nesting + 1) ∧
        ∃ u later v,
          Pipeline.serviceStarts calls p (s.openRequest spec) = u :: later ∧
          Pipeline.dispatchStarts q kind (.path spec.uri) t = [v] ∧
          Outset x.registry w { dispatcher := .request, path := some path } u ∧
          Outset x.registry w { dispatcher := kind, path := some path } v ∧
          ((∀ m ∈ x.registry.mappings, m.appliesTo .request = true ∧ m.appliesTo kind = true) →
            u.chain.filters = v.chain.filters) := by
  intro calls path served sent
  have here : (s.openRequest spec).pipelines.find? p = some x := here
  have asked : (s.openRequest spec).request.path = path := splitUri_path spec.uri
  have located : Pipeline.locate y.registry (.path spec.uri) =
      (x.registry.mapServlet path, some path) := by
    rw [Pipeline.locate, splitUri_path, same]
  have missing : x.registry.mapServlet path = none → served.1 = .ok (.error (.notFound path)) ∧
      served.2.visits (s.nesting + 1) = s.visits (s.nesting + 1) ∧
      Pipeline.Unserved outside levels q kind (.path spec.uri) t := by
    intro unmapped
    rw [unmapped] at located
    obtain ⟨answer, idle⟩ := serviceWith_missing calls here (asked ▸ unmapped)
    obtain ⟨failed, still⟩ := dispatch_missing calls there shallow kind located
    rw [asked] at answer
    exact ⟨answer, idle _, failed, still _⟩
  refine ⟨?_, missing, ?_⟩
  · cases mapped : x.registry.mapServlet path with
    | none => exact iff_of_true ⟨path, (missing mapped).1⟩ (missing mapped).2.2
    | some w =>
      rw [mapped] at located
      have found := (serviceWith_finds outside levels here (asked ▸ mapped)).1
      refine iff_of_false (fun ⟨other, absent⟩ => found other absent) fun ⟨_, still⟩ => ?_
      rw [dispatch_finds outside levels there shallow kind located] at still
      exact absurd (congrArg List.length still) (Nat.succ_ne_self _)
  · intro w mapped
    rw [mapped] at located
    have visited := (serviceWith_finds outside levels here (asked ▸ mapped)).2
    have diverted := dispatch_finds outside levels there shallow kind located
    obtain ⟨u, later, starts, outset⟩ := serviceStarts_outset calls here (asked ▸ mapped)
    obtain ⟨v, starts', outset'⟩ := dispatchStarts_outset there shallow kind located
    rw [asked] at visited outset
    rw [same] at diverted outset'
    exact ⟨visited, diverted, u, later, v, starts, starts', outset, outset',
      outset.same_filters outset' rfl⟩

/-- A shop with a filter before it, for requests and for forwards. -/
def shopFront : Container :=
  .opened
    { filters := [{ name := "log", className := "request-log" }]
      filterMappings :=
        [{ filterName := "log", urlPatterns := ["/shop/*"], dispatchers := ["REQUEST", "FORWARD"] }]
      servlets := [{ name := "shop", className := "echo", urlPatterns := ["/shop/*"] }] } .builtin {}

/-- The second question mark of an address is part of the query, on both ways to the shop. -/
theorem routes_agree_shopFront :
    ∃ x w u later v, shopFront.pipelines.find? 4 = some x ∧
      shopFront.request.depth < maxDispatchDepth ∧
      x.registry.mapServlet "/shop/a" = some w ∧
      (∀ m ∈ x.registry.mappings, m.appliesTo .request = true ∧ m.appliesTo .forward = true) ∧
      Pipeline.serviceStarts (callsAmid (fun _ => []) 1) 4
        (shopFront.openRequest { uri := "/shop/a?b?c" }) = u :: later ∧
      Pipeline.dispatchStarts 4 .forward (.path "/shop/a?b?c") shopFront = [v] ∧
      u.request.dispatch.path = some "/shop/a" ∧ v.request.dispatch.path = some "/shop/a" ∧
      u.chain.filters = v.chain.filters ∧ v.chain.filterNames = ["log"] := by
  have there : ((shopFront.pipelines.find? 4).bind fun x =>
      (x.registry.mapServlet "/shop/a").bind fun w =>
        if x.registry.mappings.all fun m => m.appliesTo .request && m.appliesTo .forward
        then some w.name else none) = some "shop" := by decide +kernel
  obtain ⟨x, found, there⟩ := Option.bind_eq_some_iff.1 there
  obtain ⟨w, mapped, there⟩ := Option.bind_eq_some_iff.1 there
  have all : ∀ m ∈ x.registry.mappings,
      m.appliesTo .request = true ∧ m.appliesTo .forward = true := by
    split at there
    · rename_i all
      simpa using all
    · cases there
  obtain ⟨-, -, agree⟩ := routes_agree (fun _ => []) 1 { uri := "/shop/a?b?c" } .forward found found
    rfl (by decide +kernel)
  obtain ⟨-, -, u, later, v, starts, starts', outset, outset', same⟩ := agree w mapped
  have named : (Pipeline.dispatchStarts 4 .forward (.path "/shop/a?b?c") shopFront).map
      (·.chain.filterNames) = [["log"]] := by decide +kernel
  rw [starts'] at named
  refine ⟨x, w, u, later, v, found, by decide +kernel, mapped, all, starts, starts', ?_, ?_,
    same all, ?_⟩
  · rw [outset.dispatch]
    rfl
  · rw [outset'.dispatch]
    rfl
  · exact List.head_eq_of_cons_eq named

end ServletFilters
