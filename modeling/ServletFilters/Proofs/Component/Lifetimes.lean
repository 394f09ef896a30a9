import Mathlib.Data.List.Perm.Basic
import ServletFilters.Proofs.Component.Lasting
import ServletFilters.Proofs.Component.Retirement
import ServletFilters.Proofs.Container.Depth

/-!
The life of components over whole runs. Whatever a host does and whatever components do meanwhile,
a component is destroyed when its registry is retired, once and for all, `Host.run_lifetimes`.
-/

namespace ServletFilters

/-- The parts of the chain belong to registries that others than pipelines hold. -/
structure Served (others : List Nat) (s : Container) : Prop where
  filters : ∀ f ∈ s.chain.filters, ∃ r : Registry, r.Known s.journal ∧ r.serial ∈ others ∧
    f ∈ r.filters.values
  servlet : ∀ c, s.chain.servlet = some c → ∃ r : Registry, r.Known s.journal ∧
    r.serial ∈ others ∧ ∃ w ∈ r.wrappers, w.servlet = c

/-- The container goes on, and the chain is the same. -/
structure Follows (s t : Container) : Prop extends Lasting s t where
  chain : t.chain = s.chain

theorem Follows.refl (s : Container) : Follows s s := ⟨.refl s, rfl⟩

theorem Follows.trans {s t u : Container} (h₁ : Follows s t) (h₂ : Follows t u) : Follows s u :=
  ⟨h₁.toLasting.trans h₂.toLasting, h₂.chain.trans h₁.chain⟩

theorem Quiet.follows {s t : Container} (h : Quiet s t) : Follows s t := ⟨h.lasting, h.chain⟩

theorem Registry.hold_follows (r : Registry) (s : Container) : Follows s (r.hold s) :=
  ⟨r.hold_lasting s, rfl⟩

theorem Registry.letGo_follows (r : Registry) (s : Container) : Follows s (r.letGo s) :=
  ⟨r.letGo_lasting s, (r.letGo_calm s).chain⟩

theorem Served.later {others : List Nat} {s t : Container} (h : Served others s)
    (journal : s.journal <:+ t.journal) (filters : ∀ f ∈ t.chain.filters, f ∈ s.chain.filters)
    (servlet : ∀ c, t.chain.servlet = some c → s.chain.servlet = some c) : Served others t := by
  constructor
  · intro f member
    obtain ⟨r, known, rest⟩ := h.filters f (filters f member)
    exact ⟨r, known.later journal, rest⟩
  · intro c found
    obtain ⟨r, known, rest⟩ := h.servlet c (servlet c found)
    exact ⟨r, known.later journal, rest⟩

theorem Served.follows {others : List Nat} {s t : Container} (h : Served others s)
    (follows : Follows s t) : Served others t := by
  refine h.later follows.journal ?_ ?_
  · exact fun f member => follows.chain ▸ member
  · exact fun c found => follows.chain ▸ found

/-- The accounts are kept by what is quiet, together with anything that holds as long as the chain
stays the same. -/
theorem steady_accounted (others : List Nat) (also : Container → Prop)
    (stable : ∀ {s t}, Follows s t → also s → also t) :
    Steady (fun s => Accounted others none s ∧ also s) Follows where
  refl := fun _ => .refl _
  trans := Follows.trans
  quiet := fun h quiet => ⟨⟨h.1.quiet quiet, stable quiet.follows h.2⟩, quiet.follows⟩

theorem steady_known (others : List Nat) (r : Registry) :
    Steady (fun s => Accounted others none s ∧ r.Known s.journal) Follows :=
  steady_accounted others _ fun follows known => known.later follows.journal

theorem steady_served (others : List Nat) :
    Steady (fun s => Accounted others none s ∧ Served others s) Follows :=
  steady_accounted others _ fun follows served => served.follows follows

/-- A traversal whose chain belongs to registries that are held keeps the accounts, as far as the
calls inside it do. -/
theorem course_accounted (others : List Nat) :
    Course (fun s => Accounted others none s ∧ Served others s) Lasting
      (fun c s => ∃ r ∈ others, Owns s.journal r c.serial) where
  refl := fun _ => .refl _
  trans := Lasting.trans
  quiet := fun h quiet =>
    ⟨⟨h.1.quiet quiet, h.2.follows quiet.follows⟩, quiet.lasting⟩
  ready_of_rel := by
    rintro c s t path ⟨r, member, owns⟩
    exact ⟨r, member, owns.later path.journal⟩
  edit := by
    intro s t h edit
    cases edit with
    | rewind =>
      have noted := h.1.note (e := .rewound s.nesting) h.1.settled rfl rfl
      refine ⟨⟨noted.move (Nat.le_refl _) rfl rfl (fun _ => rfl) rfl, ?_⟩,
        .untold rfl rfl (Nat.le_refl _)⟩
      exact h.2.later (List.suffix_cons ..) (fun _ => id) fun _ => id
    | empty =>
      have noted := h.1.note (e := .emptied s.nesting) h.1.settled rfl rfl
      refine ⟨⟨noted.move (Nat.le_refl _) rfl rfl (fun _ => rfl) rfl, ?_⟩,
        .untold rfl rfl (Nat.le_refl _)⟩
      exact ⟨by rintro f ⟨⟩, by rintro c ⟨⟩⟩
  advance := by
    intro s f h _
    have noted := h.1.note (e := .advanced s.nesting (some s.chain.position)) h.1.settled rfl rfl
    refine ⟨⟨noted.move (Nat.le_refl _) rfl rfl (fun _ => rfl) rfl, ?_⟩,
      .untold rfl rfl (Nat.le_refl _)⟩
    exact h.2.later (List.suffix_cons ..) (fun _ => id) fun _ => id
  exhaust := by
    intro s h _
    have noted : Follows s (s.note (.advanced s.nesting none)) :=
      ⟨.untold rfl rfl (Nat.le_refl _), rfl⟩
    exact ⟨⟨h.1.note h.1.settled rfl rfl, h.2.follows noted⟩, noted.toLasting⟩
  obtain := by
    intro s f h member
    obtain ⟨r, known, held, declared⟩ := h.2.filters f member
    obtain ⟨accounted, -, owns⟩ := h.1.obtain known held declared
    have lasting := h.1.obtain_lasting known declared
    exact ⟨⟨accounted, h.2.follows ⟨lasting, f.obtain_chain s⟩⟩, lasting,
      fun c made => ⟨r.serial, held, owns c made⟩⟩
  servlet := by
    intro s c h found
    obtain ⟨r, known, held, w, member, rfl⟩ := h.2.servlet c found
    exact ⟨r.serial, held, known.owns_servlet member⟩
  invoke := by
    rintro s c stage h ⟨r, held, owns⟩
    have noted : Follows s (s.invoke stage c) := ⟨.untold rfl rfl (Nat.le_refl _), rfl⟩
    exact ⟨⟨h.1.invoke held owns stage, h.2.follows noted⟩, noted.toLasting⟩

section Visits

variable {calls : Calls} (kept : ∀ others call, (calls call).Keeps
  (fun s => Accounted others none s ∧ Served others s) Lasting)
include kept

theorem visit_accounted {others : List Nat} (p : Nat) {r : Registry} (held : r.serial ∈ others)
    {w : Wrapper} (serves : r.Serves w) (state : DispatchState) (pooled : Bool) :
    (Pipeline.dispatchTo calls p r w state pooled).Keeps
      (fun s => Accounted others none s ∧ r.Known s.journal) Follows := by
  intro s h
  refine (steady_known others r).dispatchTo h ?_ state pooled
  rintro u v ⟨accounted, known⟩ - ⟨chain, state, filters, servlet, quiet⟩
  let e : Event := .traversed (u.nesting + 1) p r.serial w.name state
  have moved : Accounted others none { u with chain, nesting := u.nesting + 1 } :=
    accounted.move (Nat.le_refl _) rfl rfl (fun _ => rfl) rfl
  have entered : Accounted others none v :=
    (moved.note (e := e) ⟨moved.settled, moved.going_of_mem held⟩ rfl rfl).quiet quiet
  have begun : Lasting u ({ u with chain, nesting := u.nesting + 1 }.note e) :=
    .untold rfl rfl (Nat.le_refl _)
  have path : Lasting u v := begun.trans quiet.lasting
  have served : Served others v := by
    constructor
    · intro f member
      rw [quiet.chain] at member
      exact ⟨r, known.later path.journal, held, filters f member⟩
    · intro c found
      rw [quiet.chain] at found
      obtain rfl := Option.some.inj (servlet.symm.trans found)
      exact ⟨r, known.later path.journal, held, w, known.sound.mem_of_serves serves, rfl⟩
  obtain ⟨⟨inside, -⟩, more⟩ := (course_accounted others).doFilter (kept others) v ⟨entered, served⟩
  have whole := path.trans more
  exact ⟨⟨inside.move (Nat.le_refl _) rfl rfl (fun _ => rfl) rfl, known.later whole.journal⟩,
    whole.trans (.same rfl (Nat.le_refl _)), rfl⟩

omit kept in
/-- What is done while the current registry of a pipeline is held keeps the accounts if it does so
with one holder more. -/
theorem whileHeld_accounted {others : List Nat} {p : Nat} {r : Registry} {s t : Container}
    (h : Accounted others none s) (current : s.current p = some r)
    (inside : Accounted (r.serial :: others) none (r.hold s) ∧ r.Known (r.hold s).journal →
      (Accounted (r.serial :: others) none t ∧ r.Known t.journal) ∧ Follows (r.hold s) t) :
    Accounted others none (r.letGo t) ∧ Follows s (r.letGo t) := by
  have known := h.known current
  have held := h.hold known (h.going_of_current current)
  obtain ⟨⟨accounted, still⟩, follows⟩ := inside ⟨held, known.later (List.suffix_cons ..)⟩
  exact ⟨accounted.letGo still,
    ((r.hold_follows s).trans follows).trans (r.letGo_follows t)⟩

theorem dispatch_accounted (others : List Nat) (p : Nat) (dispatcher : Dispatcher)
    (target : Target) : (Pipeline.dispatch calls p dispatcher target).Keeps
      (fun s => Accounted others none s ∧ Served others s) Follows := by
  have steady := steady_served others
  refine steady.dispatch ?_ dispatcher target
  intro dispatcher target s h
  rcases dispatchNested_cases calls p dispatcher target s with same | ⟨r, current, dispatched⟩
  · rw [same]
    exact steady.same h
  · rw [dispatched]
    have inner := steady_known (r.serial :: others) r
    have done := whileHeld_accounted h.1 current fun here => inner.divert here
      (fun serves => visit_accounted kept p (List.mem_cons_self ..) serves _ _ _ here)
      dispatcher target
    exact ⟨⟨done.1, h.2.follows done.2⟩, done.2⟩

theorem serviceWith_accounted (others : List Nat) (p : Nat) :
    (Pipeline.serviceWith calls p).Keeps
      (fun s => Accounted others none s ∧ Served others s) Follows := by
  have steady := steady_served others
  intro s h
  rcases serviceWith_cases calls p s with ⟨-, quiet⟩ | ⟨r, t, path, current, quiet, serviced⟩
  · exact steady.quiet h quiet
  · rw [serviced]
    refine steady.andThen (steady.quiet h quiet) fun h => ?_
    have inner := steady_known (r.serial :: others) r
    have done := whileHeld_accounted h.1 ((quiet.current p).trans current) fun here =>
      inner.serviceOn (fun serves => visit_accounted kept p (List.mem_cons_self ..) serves _ _)
        path _ here
    exact ⟨⟨done.1, h.2.follows done.2⟩, done.2⟩

end Visits

theorem reload_accounted (others : List Nat) (p : Nat) (config : Config) :
    (Pipeline.reload p config).Keeps
      (fun s => Accounted others none s ∧ Served others s) Follows := by
  intro s h
  have chain := (reload_aside p config s).chain
  rcases Pipeline.reload_cases p config s with
    quiet | ⟨old, r, t, u, v, middle, current, quiet, sound, numbered, more, rebinds, after⟩
  · exact (steady_served others).quiet h quiet
  · have follows : Follows s (Pipeline.reload p config s).2 :=
      ⟨((install_lasting quiet numbered more rebinds).trans (old.letGo_lasting _)).trans after.lasting,
        chain⟩
    refine ⟨⟨?_, h.2.follows follows⟩, follows⟩
    have used : p < v.nextSerial := by
      have := h.1.apart.pipeline_lt current
      have := quiet.nextSerial
      have := more.nextSerial
      have := rebinds.nextSerial
      change t.nextSerial ≤ u.nextSerial at *
      omega
    obtain ⟨installed, path⟩ := h.1.install quiet sound numbered more rebinds used
    rw [current] at installed
    exact (installed.letGo ((h.1.known current).later path)).quiet after

theorem callsAmid_accounted (outside : Outside) (levels : Nat) :
    ∀ others call, (callsAmid outside levels call).Keeps
      (fun s => Accounted others none s ∧ Served others s) Lasting := by
  refine callsAmid_keeps course_accounted ?_ ?_ outside levels
  · intro calls kept others p dispatcher target s h
    exact (dispatch_accounted kept others p dispatcher target s h).imp_right Follows.toLasting
  · intro others p config s h
    exact (reload_accounted others p config s h).imp_right Follows.toLasting

/-! ### Hosts -/

/-- The accounts of a host: the registries that it keeps are known, and are held by it besides
the pipelines; between its acts no chain is populated. -/
structure Host.Sound (h : Host) : Prop where
  accounted : Accounted (h.kept.map (·.serial)) none h.box
  known : ∀ r ∈ h.kept, r.Known h.box.journal
  chain : h.box.chain = {}

/-- A host goes on: its accounts are right again, and its container goes on. -/
structure Host.Goes (h next : Host) : Prop where
  sound : next.Sound
  lasting : Lasting h.box next.box

theorem Host.sound_new : Host.Sound {} := by
  have none : ∀ {n : Nat} {role : Role}, ¬ Has [] n role := by
    rintro n role ⟨e, ⟨⟩, -⟩
  have apart : Apart {} := ⟨by rintro p r ⟨⟩, by rintro p r ⟨⟩, by rintro p q a b ⟨⟩⟩
  have ledger : Ledger [] := ⟨trivial, fun _ _ _ has => absurd has none, fun has => absurd has none,
    fun held => absurd held (Nat.lt_irrefl 0)⟩
  refine ⟨⟨⟨apart, by rintro p r ⟨⟩, ledger, fun has => absurd has none, fun _ => rfl,
    fun has => absurd has none, by rintro p r ⟨⟩, fun _ => rfl, by rintro f c ⟨⟩,
    fun has => absurd has none⟩, ?_⟩, by rintro r ⟨⟩, rfl⟩
  rintro r c - ⟨held, -⟩
  exact absurd held (Nat.lt_irrefl 0)

namespace Host.Sound

variable {h : Host} (sound : h.Sound)
include sound

theorem served (others : List Nat) : Served others h.box := by
  constructor
  · rw [sound.chain]
    rintro f ⟨⟩
  · rw [sound.chain]
    rintro c ⟨⟩

theorem goOn {t : Container} (accounted : Accounted (h.kept.map (·.serial)) none t)
    (follows : Follows h.box t) : h.Goes { h with box := t } :=
  ⟨⟨accounted, fun r member => (sound.known r member).later follows.journal,
    follows.chain.trans sound.chain⟩, follows.toLasting⟩

theorem stay : h.Goes h := ⟨sound, .refl _⟩

theorem goOn_of_keeps {α : Type} {x : Run α}
    (keeps : x.Keeps (fun s => Accounted (h.kept.map (·.serial)) none s ∧
      Served (h.kept.map (·.serial)) s) Follows) : h.Goes (h.after x) := by
  obtain ⟨⟨accounted, -⟩, follows⟩ := keeps h.box ⟨sound.accounted, sound.served _⟩
  exact sound.goOn accounted follows

theorem opens {α : Type} {x : Run α} (opens : Opens h.box (x h.box).2) : h.Goes (h.after x) := by
  rcases opens with
    quiet | ⟨r, t, u, v, middle, quiet, known, numbered, more, rebinds, used, opened⟩
  · exact sound.goOn (sound.accounted.quiet quiet) quiet.follows
  · obtain ⟨installed, -⟩ := sound.accounted.install quiet known numbered more rebinds used
    have new : h.box.current u.nextSerial = none := by
      cases taken : h.box.current u.nextSerial with
      | none => rfl
      | some old =>
        have := sound.accounted.apart.pipeline_lt taken
        have := Nat.le_trans quiet.nextSerial more.nextSerial
        omega
    rw [new] at installed
    have chain : (r.hold v).chain = h.box.chain :=
      rebinds.chain.trans (more.chain.trans quiet.chain)
    refine sound.goOn ?_ ?_
    · exact opened ▸ installed
    · exact opened ▸ ⟨install_lasting quiet numbered more rebinds, chain⟩

theorem close (p : Nat) : h.Goes (h.after (Pipeline.close p)) := by
  rcases Pipeline.close_cases p h.box with ⟨-, same⟩ | ⟨old, t, current, rebinds, closed⟩
  · have unchanged : h.after (Pipeline.close p) = h := congrArg (Host.mk · h.kept) same
    rw [unchanged]
    exact sound.stay
  · have apart : Apart t := sound.accounted.apart.unbind rebinds.current rebinds.nextSerial
    have known := sound.accounted.known current
    have held : Accounted (((none : Option Registry).map (·.serial)).toList ++
        h.kept.map (·.serial)) none h.box := sound.accounted
    have unbound := held.rebind current rebinds apart (by rintro r ⟨⟩)
    have path : Follows h.box t := ⟨.same rebinds.journal rebinds.nextSerial, rebinds.chain⟩
    have done := unbound.letGo (known.later path.journal)
    exact sound.goOn (closed ▸ done) (closed ▸ path.trans (old.letGo_follows t))

theorem keep (p : Nat) : h.Goes (h.act (.keep p)) := by
  unfold Host.act
  dsimp only
  cases found : h.box.pipelines.find? p with
  | none => exact sound.stay
  | some q =>
    have current := current_eq found
    have known := sound.accounted.known current
    have follows := q.registry.hold_follows h.box
    refine ⟨⟨sound.accounted.hold known (sound.accounted.going_of_current current), ?_,
      follows.chain.trans sound.chain⟩, follows.toLasting⟩
    intro r member
    rcases List.mem_cons.1 member with rfl | member
    · exact known.later follows.journal
    · exact (sound.known r member).later follows.journal

theorem letGo (place : Nat) : h.Goes (h.act (.letGo place)) := by
  unfold Host.act
  dsimp only
  cases found : h.kept[place]? with
  | none => exact sound.stay
  | some r =>
    obtain ⟨bound, rfl⟩ := List.getElem?_eq_some_iff.1 found
    have follows := h.kept[place].letGo_follows h.box
    have order := (List.getElem_cons_eraseIdx_perm bound).map (·.serial)
    have accounted : Accounted (h.kept[place].serial :: (h.kept.eraseIdx place).map (·.serial)) none
        h.box := ⟨sound.accounted.perm order.symm, sound.accounted.settled⟩
    refine ⟨⟨accounted.letGo (sound.known _ (List.getElem_mem bound)), ?_,
      follows.chain.trans sound.chain⟩, follows.toLasting⟩
    intro r member
    exact (sound.known r (List.mem_of_mem_eraseIdx member)).later follows.journal

theorem obtain (place : Nat) (filter : String) : h.Goes (h.act (.obtain place filter)) := by
  unfold Host.act
  dsimp only
  cases found : h.kept[place]?.bind fun r => r.filters.find? filter with
  | none => exact sound.stay
  | some f =>
    obtain ⟨r, kept, declared⟩ := Option.bind_eq_some_iff.1 found
    have member := List.mem_of_getElem? kept
    have known := sound.known r member
    have declared := Dict.mem_values_of_find? declared
    obtain ⟨accounted, -, -⟩ := sound.accounted.obtain known (List.mem_map_of_mem member) declared
    exact sound.goOn accounted
      ⟨sound.accounted.obtain_lasting known declared, f.obtain_chain h.box⟩

theorem goes (act : Host.Act) : h.Goes (h.act act) := by
  cases act with
  | openPipeline config components executor =>
    exact sound.opens (Host.openWith_opens config components executor h.box)
  | close p => exact sound.close p
  | request spec =>
    exact sound.goOn (sound.accounted.move (Nat.le_add_right _ 2) rfl rfl (fun _ => rfl) rfl)
      ⟨.same rfl (Nat.le_add_right _ 2), rfl⟩
  | response =>
    exact sound.goOn (sound.accounted.move (Nat.le_succ _) rfl rfl (fun _ => rfl) rfl)
      ⟨.same rfl (Nat.le_succ _), rfl⟩
  | service levels outside p =>
    exact sound.goOn_of_keeps (serviceWith_accounted (callsAmid_accounted outside levels) _ p)
  | dispatch levels outside p dispatcher target =>
    exact sound.goOn_of_keeps
      (dispatch_accounted (callsAmid_accounted outside levels) _ p dispatcher target)
  | reload p config => exact sound.goOn_of_keeps (reload_accounted _ p config)
  | keep p => exact sound.keep p
  | letGo place => exact sound.letGo place
  | obtain place filter => exact sound.obtain place filter

theorem act (act : Host.Act) : (h.act act).Sound := (sound.goes act).sound

omit sound in
/-- What a host does by and by. -/
theorem run (sound : h.Sound) (acts : List Host.Act) : h.Goes (acts.foldl Host.act h) := by
  induction acts generalizing h with
  | nil => exact sound.stay
  | cons act rest ih =>
    have first := sound.goes act
    have later := ih first.sound
    exact ⟨later.sound, first.lasting.trans later.lasting⟩

end Host.Sound

theorem Host.run_sound (acts : List Host.Act) : (Host.run acts).Sound :=
  (Host.sound_new.run acts).sound

/-- The life of components over a whole run. At each moment at which nothing is left to be destroyed
a component was destroyed once if its registry is retired, and not at all otherwise. No component
is called or handed out after it was destroyed, and no traversal begins on a retired registry. A
registry that was built is retired as soon as no pipeline has it and nobody keeps it. -/
theorem Host.run_lifetimes (acts : List Host.Act) :
    (∀ later past, (Host.run acts).box.journal = later ++ past →
      (∀ e, later.getLast? = some e → e.isEnd = false) →
      ∀ r c, Owns past r c → past.countP (·.ends c) = if Retired past r then 1 else 0) ∧
    (∀ later e past c, (Host.run acts).box.journal = later ++ e :: past → e.uses c = true →
      past.countP (·.ends c) = 0) ∧
    (∀ later past level p r servlet state,
      (Host.run acts).box.journal = later ++ .traversed level p r servlet state :: past →
      ¬ Retired past r) ∧
    ∀ r filters servlets, .built r filters servlets ∈ (Host.run acts).box.journal →
      (Retired (Host.run acts).box.journal r ↔
        (∀ p current, (Host.run acts).box.current p = some current → current.serial ≠ r) ∧
          ∀ k ∈ (Host.run acts).kept, k.serial ≠ r) := by
  have sound := Host.run_sound acts
  have books := sound.accounted.toBooks
  refine ⟨?_, ?_, ?_, ?_⟩
  · intro later past split moment r c owns
    exact books.ledger.destroyed_once sound.accounted.settled split moment owns
  · intro later e past c split uses
    exact books.ledger.used split uses
  · intro later past level p r servlet state split
    exact books.ledger.traversed split
  · intro r filters servlets built
    rw [books.retired_iff (has_registry.2 built) (by rintro ⟨⟩)]
    constructor
    · intro none
      constructor
      · rintro p current bound rfl
        have := books.bound bound
        omega
      · rintro k member rfl
        have := books.held_le k.serial
        have : 0 < ((Host.run acts).kept.map (·.serial)).count k.serial :=
          List.count_pos_iff.2 (List.mem_map_of_mem member)
        omega
    · rintro ⟨unbound, unkept⟩
      rw [books.unbound unbound, List.count_eq_zero]
      intro member
      obtain ⟨k, kept, same⟩ := List.mem_map.1 member
      exact unkept k kept same

/-- A configuration of a filter in front of a servlet. -/
def turnoverConfig : Config where
  filters := [{ name := "gate", className := "gate" }]
  filterMappings := [{ filterName := "gate", urlPatterns := ["*"] }]
  servlets := [{ name := "page", className := "page", urlPatterns := ["/"] }]

/-- Their classes; the servlet reloads the configuration that it is part of. -/
def turnoverComponents : ComponentFactory where
  filters := ⟨[("gate", ⟨false, fun _ _ => .ready (.proceed .finish)⟩)]⟩
  servlets := ⟨[("page", ⟨false, fun _ _ => .ready (.reload turnoverConfig .finish)⟩)]⟩

def turnoverActs : List Host.Act :=
  [.openPipeline turnoverConfig turnoverComponents none, .request {}, .service 3 (fun _ => []) 4]

def turnoverJournal : List Event := (Host.run turnoverActs).box.journal

/-- The servlet that replaced its own registry and the filter in front of it are destroyed once,
after they were called. -/
theorem Host.run_lifetimes_turnover :
    Retired turnoverJournal 3 ∧
      (∀ c ∈ [2, 7], Owns turnoverJournal 3 c ∧ turnoverJournal.countP (·.ends c) = 1) ∧
      ∃ later e past, turnoverJournal = later ++ e :: past ∧ e.uses 7 = true ∧
        past.countP (·.ends 7) = 0 := by
  obtain ⟨once, unused, -, -⟩ := Host.run_lifetimes turnoverActs
  have retired : Retired turnoverJournal 3 := by decide +kernel
  have built : (turnoverJournal.any fun e =>
      match e with
      | .built r filters servlets => r == 3 && filters.contains 1 && servlets.contains 2
      | _ => false) = true := by decide +kernel
  have supplied : (turnoverJournal.any fun e =>
      match e with
      | .supplied _ f c => f == 1 && c == 7
      | _ => false) = true := by decide +kernel
  have used : (turnoverJournal.any (·.uses 7)) = true := by decide +kernel
  have owns : Owns turnoverJournal 3 2 ∧ Owns turnoverJournal 3 7 := by
    obtain ⟨e, he, birth⟩ := List.any_eq_true.1 built
    obtain ⟨e', he', supply⟩ := List.any_eq_true.1 supplied
    cases e with
    | built r filters servlets =>
      cases e' with
      | supplied level f c =>
        simp only [Bool.and_eq_true, beq_iff_eq, List.contains_iff_mem] at birth supply
        obtain ⟨⟨rfl, filter⟩, servlet⟩ := birth
        obtain ⟨rfl, rfl⟩ := supply
        exact ⟨⟨filters, servlets, he, .inl servlet⟩, filters, servlets, he,
          .inr ⟨1, filter, level, he'⟩⟩
      | _ => cases supply
    | _ => cases birth
  refine ⟨retired, ?_, ?_⟩
  · have whole : turnoverJournal = [] ++ turnoverJournal := (List.nil_append _).symm
    have dead : ∀ c, Owns turnoverJournal 3 c → turnoverJournal.countP (·.ends c) = 1 :=
      fun c owned => (once [] turnoverJournal whole (by simp) 3 c owned).trans (if_pos retired)
    intro c member
    rcases List.mem_pair.1 member with rfl | rfl
    · exact ⟨owns.1, dead 2 owns.1⟩
    · exact ⟨owns.2, dead 7 owns.2⟩
  · obtain ⟨e, member, uses⟩ := List.any_eq_true.1 used
    obtain ⟨later, past, split⟩ := List.append_of_mem member
    exact ⟨later, e, past, split, uses, unused later e past 7 split uses⟩

end ServletFilters
