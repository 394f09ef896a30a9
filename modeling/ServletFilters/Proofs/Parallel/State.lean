import ServletFilters.Proofs.Parallel.Likeness

/-!
Containers of two runs that go the same way, `Parallel`, and the changes that keep them so.
-/

namespace ServletFilters

/-- Numbers that correspond do so one to one, and are in use in both containers. -/
structure Pairing.Fits (m : Margin) (i : Pairing) (s t : Container) : Prop where
  serial : m.exact → s.nextSerial = t.nextSerial
  counts : m.exact → s.constructions = t.constructions
  same : ∀ {a b o}, m.exact → i a b o → a = b
  apart : ∀ {a b o a' b' o'}, i a b o → i a' b' o' → (a = a' ↔ b = b')
  role : ∀ {a b o b' o'}, i a b o → i a b' o' → o = o'
  below : ∀ {a b o}, i a b o → a < s.nextSerial ∧ b < t.nextSerial

structure SameExchange (m : Margin) (s t : Container) : Prop where
  request : ∃ n p, t.request = { s.request with serial := n, pipeline := p } ∧
    Option.Rel m.pipeline s.request.pipeline p ∧ (m.exact → s.request.serial = n)
  response : ∃ n, t.response = { s.response with serial := n } ∧ (m.exact → s.response.serial = n)
  recorded : Option.Rel
    (fun a b => (a.1 = s.request.serial ↔ b.1 = t.request.serial) ∧
      (a.2 = s.response.serial ↔ b.2 = t.response.serial) ∧ (m.exact → a = b))
    s.lastServiced t.lastServiced

/-- No object has a number that is not in use. -/
structure Container.Bounded (s : Container) : Prop where
  instances : ∀ a, s.nextSerial ≤ a → s.instances.find? a = none
  holders : ∀ a, s.nextSerial ≤ a → s.holders.count a = 0
  response : s.response.serial < s.nextSerial
  recorded : ∀ a ∈ s.lastServiced, a.2 < s.nextSerial

theorem Container.Bounded.later {s : Container} (h : s.Bounded) {n : Nat} (le : s.nextSerial ≤ n) :
    Container.Bounded { s with nextSerial := n } where
  instances a above := h.instances a (Nat.le_trans le above)
  holders a above := h.holders a (Nat.le_trans le above)
  response := Nat.lt_of_lt_of_le h.response le
  recorded a on := Nat.lt_of_lt_of_le (h.recorded a on) le

/-- Containers of two runs that go the same way, from two journals on. -/
structure Parallel (m : Margin) (old old' : List Event) (i : Pairing) (s t : Container) : Prop where
  fits : i.Fits m s t
  exchange : SameExchange m s t
  chain : s.chain.Like m i t.chain
  nesting : t.nesting = s.nesting
  instances : ∀ {a b d cls}, i a b (some (d, cls)) →
    m.Instance d cls (s.instances.find? a) (t.instances.find? b)
  holders : ∀ {a b o}, i a b o → t.holders.count b = s.holders.count a
  bounded : s.Bounded
  bounded' : t.Bounded
  pipelines : ∀ {p q}, m.pipeline p q →
    Option.Rel (Pipeline.Like m i) (s.pipelines.find? p) (t.pipelines.find? q)
  memory : m.exact → s.memory = t.memory
  journal : ∃ new new', s.journal = new ++ old ∧ t.journal = new' ++ old' ∧ m.Accord new new'

namespace Parallel

variable {m : Margin} {old old' : List Event} {i : Pairing} {s t : Container}
  (h : Parallel m old old' i s t)
include h

/-! ### What is read alike -/

theorem request_eq (f : Request → α)
    (blind : ∀ r n p, f { r with serial := n, pipeline := p } = f r) :
    f t.request = f s.request := by
  obtain ⟨n, p, same, -, -⟩ := h.exchange.request
  rw [same, blind]

theorem pipeline : Option.Rel m.pipeline s.request.pipeline t.request.pipeline := by
  obtain ⟨n, p, same, corresponds, -⟩ := h.exchange.request
  rw [same]
  exact corresponds

theorem attached : Option.Rel m.pipeline s.attachedPipeline? t.attachedPipeline? := by
  unfold Container.attachedPipeline?
  rcases rel_cases h.pipeline with ⟨none, none'⟩ | ⟨p, q, some, some', corresponds⟩
  · rw [none, none']
    exact .none
  · rw [some, some', Option.filter_some, Option.filter_some, rel_isSome (h.pipelines corresponds)]
    split
    · exact .some corresponds
    · exact .none

theorem tracked : t.lastServiced.any (fun r => r.1 == t.request.serial) =
      s.lastServiced.any (fun r => r.1 == s.request.serial) ∧
    t.lastServiced.any (fun r => r.2 == t.response.serial) =
      s.lastServiced.any (fun r => r.2 == s.response.serial) := by
  rcases rel_cases h.exchange.recorded with
    ⟨none, none'⟩ | ⟨a, b, some, some', request, response, -⟩
  · rw [none, none']
    exact ⟨rfl, rfl⟩
  · rw [some, some', Option.any_some, Option.any_some, Option.any_some, Option.any_some]
    constructor <;> rw [Bool.eq_iff_iff, beq_iff_eq, beq_iff_eq]
    · exact request.symm
    · exact response.symm

theorem view : t.view = s.view := by
  obtain ⟨n, p, request, -⟩ := h.exchange.request
  obtain ⟨k, response, -⟩ := h.exchange.response
  unfold Container.view
  rw [h.tracked.1, h.tracked.2, rel_isSome h.attached, request, response]

/-! ### Changes -/

theorem retell {events events' before before' new new' : List Event} (accord : m.Accord new new')
    (first : events = new ++ before) (second : events' = new' ++ before') :
    Parallel m before before' i { s with journal := events } { t with journal := events' } :=
  { h with
    bounded := { h.bounded with }
    bounded' := { h.bounded' with }
    fits := { h.fits with }
    exchange := { h.exchange with }
    journal := ⟨new, new', first, second, accord⟩ }

/-- What happened before does not matter. -/
theorem anew (before before' : List Event) : Parallel m before before' i
    { s with journal := before } { t with journal := before' } :=
  h.retell .nil rfl rfl

theorem extend {new new' : List Event} (accord : m.Accord new new') : Parallel m old old' i
    { s with journal := new ++ s.journal } { t with journal := new' ++ t.journal } := by
  obtain ⟨before, before', first, second, agree⟩ := h.journal
  refine h.retell (accord.append agree) ?_ ?_
  · rw [first, List.append_assoc]
  · rw [second, List.append_assoc]

theorem note {e e' : Event} (retold : m.Retold e e') :
    Parallel m old old' i (s.note e) (t.note e') :=
  h.extend (.both retold .nil)

theorem noteFirst {e : Event} (only : m.first e) : Parallel m old old' i (s.note e) t :=
  h.extend (.first only .nil)

theorem noteSecond {e : Event} (only : m.second e) : Parallel m old old' i s (t.note e) :=
  h.extend (.second only .nil)

theorem replaceExchange {r r' : Request} {a a' : Response} {l l' : Option (Nat × Nat)}
    (same : SameExchange m { s with request := r, response := a, lastServiced := l }
      { t with request := r', response := a', lastServiced := l' })
    (bounded : a.serial < s.nextSerial ∧ ∀ b ∈ l, b.2 < s.nextSerial)
    (bounded' : a'.serial < t.nextSerial ∧ ∀ b ∈ l', b.2 < t.nextSerial) :
    Parallel m old old' i { s with request := r, response := a, lastServiced := l }
      { t with request := r', response := a', lastServiced := l' } :=
  { h with
    exchange := same
    bounded := { h.bounded with response := bounded.1, recorded := bounded.2 }
    bounded' := { h.bounded' with response := bounded'.1, recorded := bounded'.2 }
    fits := { h.fits with } }

theorem replaceRequest {r r' : Request}
    (same : SameExchange m { s with request := r } { t with request := r' }) :
    Parallel m old old' i { s with request := r } { t with request := r' } :=
  h.replaceExchange same ⟨h.bounded.response, h.bounded.recorded⟩
    ⟨h.bounded'.response, h.bounded'.recorded⟩

theorem updateRequest {f : Request → Request}
    (blind : ∀ r n p,
      f { r with serial := n, pipeline := p } = { f r with serial := n, pipeline := p })
    (serial : ∀ r, (f r).serial = r.serial) (pipeline : ∀ r, (f r).pipeline = r.pipeline) :
    Parallel m old old' i (s.updateRequest f) (t.updateRequest f) := by
  obtain ⟨n, p, same, corresponds, exact⟩ := h.exchange.request
  refine h.replaceRequest ?_
  refine { request := ⟨n, p, ?_, ?_, ?_⟩, response := h.exchange.response, recorded := ?_ }
  · change f t.request = _
    rw [same, blind]
  · change Option.Rel m.pipeline (f s.request).pipeline p
    rwa [pipeline]
  · change m.exact → (f s.request).serial = n
    rwa [serial]
  · have recorded := h.exchange.recorded
    rwa [← serial s.request, ← serial t.request] at recorded

theorem updateResponse {f : Response → Response}
    (blind : ∀ r n, f { r with serial := n } = { f r with serial := n })
    (serial : ∀ r, (f r).serial = r.serial) :
    Parallel m old old' i (s.updateResponse f) (t.updateResponse f) := by
  obtain ⟨n, same, exact⟩ := h.exchange.response
  refine h.replaceExchange ?_ ⟨?_, h.bounded.recorded⟩ ⟨?_, h.bounded'.recorded⟩
  rotate_left
  · exact serial s.response ▸ h.bounded.response
  · exact serial t.response ▸ h.bounded'.response
  refine { request := h.exchange.request, response := ⟨n, ?_, ?_⟩, recorded := ?_ }
  · change f t.response = _
    rw [same, blind]
  · change m.exact → (f s.response).serial = n
    rwa [serial]
  · have recorded := h.exchange.recorded
    rwa [← serial s.response, ← serial t.response] at recorded

theorem putOnRecord : Parallel m old old' i
    { s with lastServiced := some (s.request.serial, s.response.serial) }
    { t with lastServiced := some (t.request.serial, t.response.serial) } := by
  obtain ⟨n, p, request, -, exact⟩ := h.exchange.request
  obtain ⟨k, response, exact'⟩ := h.exchange.response
  have bound : ∀ {k n l : Nat}, l < n → ∀ b ∈ some (k, l), b.2 < n := by
    rintro k n l below _ ⟨⟩
    exact below
  refine h.replaceExchange { h.exchange with recorded := .some ?_ }
    ⟨h.bounded.response, bound h.bounded.response⟩ ⟨h.bounded'.response, bound h.bounded'.response⟩
  refine ⟨iff_of_true rfl rfl, iff_of_true rfl rfl, ?_⟩
  intro numbered
  rw [request, response, exact numbered, exact' numbered]

theorem takeOffRecord : Parallel m old old' i
    { s with lastServiced := none } { t with lastServiced := none } :=
  h.replaceExchange { h.exchange with recorded := .none } ⟨h.bounded.response, by rintro _ ⟨⟩⟩
    ⟨h.bounded'.response, by rintro _ ⟨⟩⟩

theorem attach {p q : Nat} (corresponds : m.pipeline p q) : Parallel m old old' i
    (s.updateRequest fun r => { r with pipeline := r.pipeline.or (some p) })
    (t.updateRequest fun r => { r with pipeline := r.pipeline.or (some q) }) := by
  obtain ⟨n, k, same, attached, exact⟩ := h.exchange.request
  refine h.replaceRequest { h.exchange with request := ⟨n, k.or (some q), ?_, ?_, exact⟩ }
  · change { t.request with pipeline := t.request.pipeline.or (some q) } = _
    rw [same]
  · change Option.Rel m.pipeline (s.request.pipeline.or (some p)) (k.or (some q))
    rcases rel_cases attached with ⟨none, none'⟩ | ⟨a, b, some, some', before⟩
    · rw [none, none']
      exact .some corresponds
    · rw [some, some']
      exact .some before

theorem number (n : Nat) : Parallel m old old' i { s with nextSerial := s.nextSerial + n }
    { t with nextSerial := t.nextSerial + n } :=
  { h with
    fits := { h.fits with
      serial := fun exact => congrArg (· + n) (h.fits.serial exact)
      below := fun paired => ⟨Nat.lt_add_right n (h.fits.below paired).1,
        Nat.lt_add_right n (h.fits.below paired).2⟩ }
    exchange := { h.exchange with }
    bounded := { h.bounded.later (Nat.le_add_right _ n) with }
    bounded' := { h.bounded'.later (Nat.le_add_right _ n) with } }

/-- While nothing is on record, both runs may begin a new exchange. -/
theorem openRequest (unrecorded : s.lastServiced = none ∧ t.lastServiced = none)
    (spec : RequestSpec) :
    Parallel m old old' i (s.openRequest spec) (t.openRequest spec) := by
  have later := h.number 2
  refine later.replaceExchange ⟨⟨t.nextSerial, none, rfl, .none, h.fits.serial⟩,
    ⟨t.nextSerial + 1, rfl, fun exact => congrArg (· + 1) (h.fits.serial exact)⟩, ?_⟩
    ⟨Nat.lt_succ_self _, later.bounded.recorded⟩ ⟨Nat.lt_succ_self _, later.bounded'.recorded⟩
  change Option.Rel _ s.lastServiced t.lastServiced
  rw [unrecorded.1, unrecorded.2]
  exact .none

/-- Both runs may go on with a new response, which is not the one on record. -/
theorem newResponse (response : Response) :
    Parallel m old old' i (s.newResponse response) (t.newResponse response) := by
  have later := h.number 1
  refine later.replaceExchange ⟨h.exchange.request, ⟨t.nextSerial, rfl, h.fits.serial⟩, ?_⟩
    ⟨Nat.lt_succ_self _, later.bounded.recorded⟩ ⟨Nat.lt_succ_self _, later.bounded'.recorded⟩
  change Option.Rel _ s.lastServiced t.lastServiced
  rcases rel_cases h.exchange.recorded with ⟨none, none'⟩ | ⟨a, b, some, some', request, -, exact⟩
  · rw [none, none']
    exact .none
  · rw [some, some']
    exact .some ⟨request, iff_of_false (Nat.ne_of_lt (h.bounded.recorded a some))
      (Nat.ne_of_lt (h.bounded'.recorded b some')), exact⟩

/-- Both runs may go back to the responses that they had before, while on record is what was on
record then, or nothing. -/
theorem restoreResponse {j : Pairing} {u v : Container} (after : Parallel m old old' j u v)
    (serial : s.nextSerial ≤ u.nextSerial) (serial' : t.nextSerial ≤ v.nextSerial)
    (record : u.lastServiced = s.lastServiced ∨ u.lastServiced = none)
    (record' : v.lastServiced = t.lastServiced ∨ v.lastServiced = none) :
    Parallel m old old' j { u with response := s.response } { v with response := t.response } := by
  refine after.replaceExchange ⟨after.exchange.request, h.exchange.response, ?_⟩
    ⟨Nat.lt_of_lt_of_le h.bounded.response serial, after.bounded.recorded⟩
    ⟨Nat.lt_of_lt_of_le h.bounded'.response serial', after.bounded'.recorded⟩
  change Option.Rel _ u.lastServiced v.lastServiced
  rcases rel_cases after.exchange.recorded with ⟨none, none'⟩ | ⟨a, b, some, some', request, -, exact⟩
  · rw [none, none']
    exact .none
  · rw [some] at record
    rw [some'] at record'
    have before := h.exchange.recorded
    rw [← record.resolve_right (by rintro ⟨⟩), ← record'.resolve_right (by rintro ⟨⟩)] at before
    rw [some, some']
    cases before with
    | some same => exact .some ⟨request, same.2.1, exact⟩

/-- Both runs may keep a text for components of one number. -/
theorem remember {n n' : Nat} (numbers : m.exact → n = n') (text : String) :
    Parallel m old old' i { s with memory := s.memory.insert n text }
      { t with memory := t.memory.insert n' text } :=
  { h with
    memory := fun exact => by
      rw [h.memory exact, numbers exact]
    fits := { h.fits with }
    exchange := { h.exchange with }
    bounded := { h.bounded with }
    bounded' := { h.bounded' with } }

theorem moveTo {c d : Chain} (like : c.Like m i d) {n n' : Nat} (level : n' = n) :
    Parallel m old old' i { s with chain := c, nesting := n } { t with chain := d, nesting := n' } :=
  { h with
    chain := like
    nesting := level
    bounded := { h.bounded with }
    bounded' := { h.bounded' with }
    fits := { h.fits with }
    exchange := { h.exchange with } }

theorem updateChain {f g : Chain → Chain} (like : (f s.chain).Like m i (g t.chain)) :
    Parallel m old old' i (s.updateChain f) (t.updateChain g) :=
  h.moveTo like h.nesting

/-! ### Instances, holders and pipelines -/

theorem replaceInstances {I J : Dict Nat Component}
    (like : ∀ {a b d cls}, i a b (some (d, cls)) → m.Instance d cls (I.find? a) (J.find? b))
    (bounded : ∀ a, s.nextSerial ≤ a → I.find? a = none)
    (bounded' : ∀ b, t.nextSerial ≤ b → J.find? b = none) :
    Parallel m old old' i { s with instances := I } { t with instances := J } :=
  { h with
    instances := like
    bounded := { h.bounded with instances := bounded }
    bounded' := { h.bounded' with instances := bounded' }
    fits := { h.fits with }
    exchange := { h.exchange with } }

/-- Both runs have an instance of a filter from now on; one of them may have had it before. -/
theorem keepInstances {a b : Nat} {d : FilterDefinition} {cls : FilterClass}
    (paired : i a b (some (d, cls))) {c c' : Component} (like : c.Like m c')
    (origin : c.Origin d cls)
    {I J : Dict Nat Component}
    (first : ∀ k, I.find? k = if k = a then some c else s.instances.find? k)
    (second : ∀ k, J.find? k = if k = b then some c' else t.instances.find? k) :
    Parallel m old old' i { s with instances := I } { t with instances := J } := by
  have below := h.fits.below paired
  refine h.replaceInstances ?_ ?_ ?_
  · intro a' b' d' cls' paired'
    rw [first, second]
    by_cases here : a' = a
    · subst here
      obtain ⟨rfl, rfl⟩ := Prod.mk.inj (Option.some.inj (h.fits.role paired paired'))
      rw [if_pos rfl, if_pos ((h.fits.apart paired' paired).1 rfl)]
      exact .both like origin
    · rw [if_neg here, if_neg fun same => here ((h.fits.apart paired' paired).2 same)]
      exact h.instances paired'
  · intro k above
    rw [first, if_neg (by omega)]
    exact h.bounded.instances k above
  · intro k above
    rw [second, if_neg (by omega)]
    exact h.bounded'.instances k above

theorem release {f g : FilterConfig} (like : f.Like m i g) :
    Parallel m old old' i (f.release s) (g.release t) := by
  obtain ⟨cls, -, -, -, paired⟩ := like.made
  have erased : ∀ {J : Dict Nat Component}, J.find? g.serial = none →
      (∀ b, b ≠ g.serial → J.find? b = t.instances.find? b) → Parallel m old old' i
        { s with instances := s.instances.erase f.serial } { t with instances := J } := by
    intro J gone kept
    refine h.replaceInstances ?_ ?_ ?_
    · intro a b d' cls' paired'
      rw [Dict.find?_erase]
      by_cases here : a = f.serial
      · rw [if_pos here, (h.fits.apart paired' paired).1 here, gone]
        exact .none
      · rw [if_neg here, kept b fun same => here ((h.fits.apart paired' paired).2 same)]
        exact h.instances paired'
    · intro a above
      rw [Dict.find?_erase]
      split
      · rfl
      · exact h.bounded.instances a above
    · intro b above
      by_cases here : b = g.serial
      · rw [here, gone]
      · rw [kept b here]
        exact h.bounded'.instances b above
  have instances := h.instances paired
  unfold FilterConfig.release
  generalize found : s.instances.find? f.serial = c at instances
  generalize found' : t.instances.find? g.serial = c' at instances
  cases instances with
  | none => exact h
  | both like origin =>
    have both := erased (J := t.instances.erase g.serial) (by rw [Dict.find?_erase, if_pos rfl])
      fun b other => by rw [Dict.find?_erase, if_neg other]
    dsimp only
    rw [like.name, like.announced]
    exact both.note (.destroyed _ _ like.serial)
  | @early c early origin =>
    have only : m.first (.destroyed c.serial c.name c.announced) := by
      rw [origin.name]
      exact ((m.early_events early).2 _).2.2 _
    exact (erased (J := t.instances) found' fun _ _ => rfl).noteFirst only

theorem destroy {r r' : Registry} (like : r.Like m i r') :
    Parallel m old old' i (r.destroy s) (r'.destroy t) := by
  have filters : ∀ {fs gs : List FilterConfig}, List.Forall₂ (FilterConfig.Like m i) fs gs →
      ∀ {s t}, Parallel m old old' i s t → Parallel m old old' i
        (fs.foldl (fun s f => f.release s) s) (gs.foldl (fun s f => f.release s) t) := by
    intro fs gs likes
    induction likes with
    | nil => exact id
    | cons like _ ih => exact fun h => ih (h.release like)
  have servlets : ∀ {ws xs : List Wrapper}, List.Forall₂ (Wrapper.Like m) ws xs →
      ∀ {s t}, Parallel m old old' i s t → Parallel m old old' i
        (ws.foldl (fun s w =>
          s.note (.destroyed w.servlet.serial w.servlet.name w.servlet.announced)) s)
        (xs.foldl (fun s w =>
          s.note (.destroyed w.servlet.serial w.servlet.name w.servlet.announced)) t) := by
    intro ws xs likes
    induction likes with
    | nil => exact id
    | cons like _ ih =>
      refine fun h => ih ?_
      dsimp only
      rw [like.servlet.name, like.servlet.announced]
      exact h.note (.destroyed _ _ like.servlet.serial)
  exact servlets like.wrappers (filters like.filters.values h)

theorem replaceHolders {hs hs' : List Nat} (like : ∀ {a b o}, i a b o → hs'.count b = hs.count a)
    (bounded : ∀ a, s.nextSerial ≤ a → hs.count a = 0)
    (bounded' : ∀ b, t.nextSerial ≤ b → hs'.count b = 0) :
    Parallel m old old' i { s with holders := hs } { t with holders := hs' } :=
  { h with
    holders := like
    bounded := { h.bounded with holders := bounded }
    bounded' := { h.bounded' with holders := bounded' }
    fits := { h.fits with }
    exchange := { h.exchange with } }

theorem hold {r r' : Registry} (like : r.Like m i r') :
    Parallel m old old' i (r.hold s) (r'.hold t) := by
  have below := h.fits.below like.paired
  refine Parallel.note ?_ (.held fun exact => h.fits.same exact like.paired)
  refine h.replaceHolders ?_ ?_ ?_
  · intro a b o paired
    rw [List.count_cons, List.count_cons, h.holders paired]
    congr 1
    simp only [beq_iff_eq, h.fits.apart like.paired paired]
  · intro a above
    rw [List.count_cons_of_ne (by omega)]
    exact h.bounded.holders a above
  · intro b above
    rw [List.count_cons_of_ne (by omega)]
    exact h.bounded'.holders b above

theorem letGo {r r' : Registry} (like : r.Like m i r') :
    Parallel m old old' i (r.letGo s) (r'.letGo t) := by
  have left : Parallel m old old' i
      ({ s with holders := s.holders.erase r.serial }.note (.released r.serial))
      ({ t with holders := t.holders.erase r'.serial }.note (.released r'.serial)) := by
    refine Parallel.note ?_ (.released fun exact => h.fits.same exact like.paired)
    refine h.replaceHolders ?_ ?_ ?_
    · intro a b o paired
      rw [List.count_erase, List.count_erase, h.holders paired]
      congr 1
      simp only [beq_iff_eq, h.fits.apart like.paired paired]
    · intro a above
      rw [List.count_erase, h.bounded.holders a above, Nat.zero_sub]
    · intro b above
      rw [List.count_erase, h.bounded'.holders b above, Nat.zero_sub]
  have held : r'.serial ∈ t.holders.erase r'.serial ↔ r.serial ∈ s.holders.erase r.serial := by
    rw [← List.count_pos_iff, ← List.count_pos_iff]
    exact iff_of_eq (congrArg (0 < ·) (left.holders like.paired))
  unfold Registry.letGo
  dsimp only
  by_cases kept : r.serial ∈ s.holders.erase r.serial
  · rw [if_pos (show r.serial ∈ Container.holders _ from kept),
      if_pos (show r'.serial ∈ Container.holders _ from held.2 kept)]
    exact left
  · rw [if_neg (show r.serial ∉ Container.holders _ from kept),
      if_neg (show r'.serial ∉ Container.holders _ from fun kept' => kept (held.1 kept'))]
    exact left.destroy like

theorem replacePipelines {P Q : Dict Nat Pipeline}
    (like : ∀ {p q}, m.pipeline p q → Option.Rel (Pipeline.Like m i) (P.find? p) (Q.find? q)) :
    Parallel m old old' i { s with pipelines := P } { t with pipelines := Q } :=
  { h with
    pipelines := like
    bounded := { h.bounded with }
    bounded' := { h.bounded' with }
    fits := { h.fits with }
    exchange := { h.exchange with } }

theorem insertPipeline {p q : Nat} (corresponds : m.pipeline p q) {x y : Pipeline}
    (like : x.Like m i y) : Parallel m old old' i
      { s with pipelines := s.pipelines.insert p x }
      { t with pipelines := t.pipelines.insert q y } := by
  refine h.replacePipelines ?_
  intro k l corresponds'
  rw [Dict.find?_insert, Dict.find?_insert]
  by_cases here : k = p
  · rw [if_pos here, if_pos ((m.pipeline_iff corresponds' corresponds).1 here)]
    exact .some like
  · rw [if_neg here, if_neg fun same => here ((m.pipeline_iff corresponds' corresponds).2 same)]
    exact h.pipelines corresponds'

theorem updatePipeline {p q : Nat} (corresponds : m.pipeline p q) {f g : Pipeline → Pipeline}
    (like : ∀ {x y}, s.pipelines.find? p = some x → t.pipelines.find? q = some y → x.Like m i y →
      (f x).Like m i (g y)) :
    Parallel m old old' i (s.updatePipeline p f) (t.updatePipeline q g) := by
  unfold Container.updatePipeline
  rcases rel_cases (h.pipelines corresponds) with ⟨none, none'⟩ | ⟨x, y, some, some', alike⟩
  · rw [none, none']
    exact h
  · rw [some, some']
    exact h.insertPipeline corresponds (like some some' alike)

/-- A pipeline is changed in the first run only, and still is like the one of the second. -/
theorem updatePipelineFirst {p q : Nat} (corresponds : m.pipeline p q) {f : Pipeline → Pipeline}
    (like : ∀ {x y}, s.pipelines.find? p = some x → x.Like m i y → (f x).Like m i y) :
    Parallel m old old' i (s.updatePipeline p f) t := by
  unfold Container.updatePipeline
  rcases rel_cases (h.pipelines corresponds) with ⟨none, -⟩ | ⟨x, y, some, some', alike⟩
  · rw [none]
    exact h
  · rw [some]
    refine h.replacePipelines (Q := t.pipelines) ?_
    intro k l corresponds'
    rw [Dict.find?_insert]
    by_cases here : k = p
    · rw [if_pos here, (m.pipeline_iff corresponds' corresponds).1 here, some']
      exact .some (like some alike)
    · rw [if_neg here]
      exact h.pipelines corresponds'

end Parallel

end ServletFilters
