import ServletFilters.Proofs.Parallel.State

/-!
Registries built in two runs. Building takes new numbers, counts and writes its journal, and leaves
the rest of a container as it is; what is built is alike, with numbers that correspond from then on.
-/

namespace ServletFilters

/-- The state with other numbers in use, other counts and more events. -/
def Container.grown (s : Container) (n : Nat) (counts : Dict String Nat) (new : List Event) :
    Container :=
  { s with nextSerial := n, constructions := counts, journal := new ++ s.journal }

theorem Container.grown_grown (s : Container) (n n' : Nat) (counts counts' : Dict String Nat)
    (new new' : List Event) :
    (s.grown n counts new).grown n' counts' new' = s.grown n' counts' (new' ++ new) := by
  unfold grown
  rw [List.append_assoc]

/-- Two containers grew alike. What corresponds since has new numbers. -/
structure Grows (m : Margin) (i j : Pairing) (s t u v : Container) : Prop where
  within : i.In j
  fresh : ∀ {a b o}, j a b o → i a b o ∨ (s.nextSerial ≤ a ∧ t.nextSerial ≤ b)
  fits : j.Fits m u v
  le : s.nextSerial ≤ u.nextSerial
  le' : t.nextSerial ≤ v.nextSerial
  journal : ∃ new new', u = s.grown u.nextSerial u.constructions new ∧
    v = t.grown v.nextSerial v.constructions new' ∧ m.Accord new new'

/-- The pairing in which the next numbers of two containers correspond as well. -/
def Pairing.pair (i : Pairing) (s t : Container) (o : Option (FilterDefinition × FilterClass)) :
    Pairing :=
  fun a b p => i a b p ∨ (a = s.nextSerial ∧ b = t.nextSerial ∧ p = o)

namespace Grows

variable {m : Margin} {i j k : Pairing} {s t u v w x : Container}

theorem refl (fits : i.Fits m s t) : Grows m i i s t s t :=
  ⟨.refl i, .inl, fits, Nat.le_refl _, Nat.le_refl _, [], [], rfl, rfl, .nil⟩

theorem trans (h₁ : Grows m i j s t u v) (h₂ : Grows m j k u v w x) : Grows m i k s t w x := by
  obtain ⟨first, first', u_eq, v_eq, agree⟩ := h₁.journal
  obtain ⟨second, second', w_eq, x_eq, agree'⟩ := h₂.journal
  refine ⟨h₁.within.trans h₂.within, ?_, h₂.fits, Nat.le_trans h₁.le h₂.le,
    Nat.le_trans h₁.le' h₂.le', second ++ first, second' ++ first', ?_, ?_, agree'.append agree⟩
  · intro a b o paired
    rcases h₂.fresh paired with old | ⟨above, above'⟩
    · exact h₁.fresh old
    · exact .inr ⟨Nat.le_trans h₁.le above, Nat.le_trans h₁.le' above'⟩
  · rw [w_eq, u_eq, Container.grown_grown]
    rfl
  · rw [x_eq, v_eq, Container.grown_grown]
    rfl

theorem note (fits : i.Fits m s t) {e e' : Event} (retold : m.Retold e e') :
    Grows m i i s t (s.note e) (t.note e') :=
  ⟨.refl i, .inl, { fits with }, Nat.le_refl _, Nat.le_refl _, [e], [e'], rfl, rfl,
    .both retold .nil⟩

theorem count (fits : i.Fits m s t) (counts counts' : Dict String Nat)
    (same : m.exact → counts = counts') :
    Grows m i i s t { s with constructions := counts } { t with constructions := counts' } :=
  ⟨.refl i, .inl, { fits with counts := same }, Nat.le_refl _, Nat.le_refl _, [], [], rfl, rfl,
    .nil⟩

/-- Both containers give a number to something that nothing has to correspond to. -/
theorem skip (fits : i.Fits m s t) :
    Grows m i i s t (freshSerial s).2 (freshSerial t).2 := by
  refine ⟨.refl i, .inl, ?_, Nat.le_succ _, Nat.le_succ _, [], [], rfl, rfl, .nil⟩
  refine { fits with serial := ?_, below := ?_ }
  · exact fun exact => congrArg (· + 1) (fits.serial exact)
  · exact fun paired =>
      ⟨Nat.lt_succ_of_lt (fits.below paired).1, Nat.lt_succ_of_lt (fits.below paired).2⟩

/-- Both containers give a number to something, and these numbers correspond from then on. -/
theorem pair (fits : i.Fits m s t) (o : Option (FilterDefinition × FilterClass)) :
    Grows m i (i.pair s t o) s t (freshSerial s).2 (freshSerial t).2 := by
  refine ⟨fun _ _ _ => .inl, ?_, ?_, Nat.le_succ _, Nat.le_succ _, [], [], rfl, rfl, .nil⟩
  · rintro a b p (old | ⟨rfl, rfl, -⟩)
    · exact .inl old
    · exact .inr ⟨Nat.le_refl _, Nat.le_refl _⟩
  constructor
  · exact fun exact => congrArg (· + 1) (fits.serial exact)
  · exact fits.counts
  · rintro a b p exact (old | ⟨rfl, rfl, -⟩)
    · exact fits.same exact old
    · exact fits.serial exact
  · rintro a b p a' b' p' (old | ⟨rfl, rfl, -⟩) (old' | ⟨rfl, rfl, -⟩)
    · exact fits.apart old old'
    · exact iff_of_false (Nat.ne_of_lt (fits.below old).1) (Nat.ne_of_lt (fits.below old).2)
    · exact iff_of_false (Nat.ne_of_gt (fits.below old').1) (Nat.ne_of_gt (fits.below old').2)
    · exact iff_of_true rfl rfl
  · rintro a b p b' p' (old | ⟨rfl, rfl, rfl⟩) (old' | ⟨same, rfl, rfl⟩)
    · exact fits.role old old'
    · exact absurd same (Nat.ne_of_lt (fits.below old).1)
    · exact absurd rfl (Nat.ne_of_lt (fits.below old').1)
    · rfl
  · rintro a b p (old | ⟨rfl, rfl, -⟩)
    · exact ⟨Nat.lt_succ_of_lt (fits.below old).1, Nat.lt_succ_of_lt (fits.below old).2⟩
    · exact ⟨Nat.lt_succ_self _, Nat.lt_succ_self _⟩

end Grows

theorem Parallel.grow {m : Margin} {old old' : List Event} {i j : Pairing} {s t u v : Container}
    (h : Parallel m old old' i s t) (grows : Grows m i j s t u v) :
    Parallel m old old' j u v := by
  obtain ⟨new, new', u_eq, v_eq, agree⟩ := grows.journal
  have fits := grows.fits
  have le := grows.le
  have le' := grows.le'
  rw [u_eq, v_eq] at fits ⊢
  refine { h with
    fits
    chain := h.chain.mono grows.within
    instances := ?_
    holders := ?_
    exchange := { h.exchange with }
    bounded := { h.bounded.later le with }
    bounded' := { h.bounded'.later le' with }
    pipelines := ?_
    journal := (h.extend agree).journal }
  · intro a b d cls paired
    rcases grows.fresh paired with before | ⟨above, above'⟩
    · exact h.instances before
    · have none := h.bounded.instances a above
      have none' := h.bounded'.instances b above'
      change m.Instance d cls (s.instances.find? a) (t.instances.find? b)
      rw [none, none']
      exact .none
  · intro a b o paired
    rcases grows.fresh paired with before | ⟨above, above'⟩
    · exact h.holders before
    · exact (h.bounded'.holders b above').trans (h.bounded.holders a above).symm
  · intro p q corresponds
    rcases rel_cases (h.pipelines corresponds) with ⟨none, none'⟩ | ⟨x, y, some, some', like⟩
    · change Option.Rel _ (s.pipelines.find? p) (t.pipelines.find? q)
      rw [none, none']
      exact .none
    · change Option.Rel _ (s.pipelines.find? p) (t.pipelines.find? q)
      rw [some, some']
      exact .some (like.mono grows.within)

theorem Parallel.growSecond {m : Margin} {old old' : List Event} {i : Pairing} {s t : Container}
    (h : Parallel m old old' i s t) (inexact : ¬ m.exact) {n : Nat} (counts : Dict String Nat)
    {new : List Event} (le : t.nextSerial ≤ n) (only : ∀ e ∈ new, m.second e) :
    Parallel m old old' i s (t.grown n counts new) := by
  have accord : m.Accord [] new := by
    induction new with
    | nil => exact .nil
    | cons e rest ih =>
      exact .second (only e (List.mem_cons_self ..))
        (ih fun e he => only e (List.mem_cons_of_mem _ he))
  exact { h with
    fits := { h.fits with
      serial := fun exact => absurd exact inexact
      counts := fun exact => absurd exact inexact
      below := fun paired =>
        ⟨(h.fits.below paired).1, Nat.lt_of_lt_of_le (h.fits.below paired).2 le⟩ }
    exchange := { h.exchange with }
    bounded' := { h.bounded'.later le with }
    journal := (h.extend accord).journal }

/-- The first container grew by itself, and what it wrote meanwhile does not matter. -/
theorem Parallel.growFirst {m : Margin} {old old' : List Event} {i : Pairing} {s t : Container}
    (h : Parallel m old old' i s t) (inexact : ¬ m.exact) {n : Nat} (counts : Dict String Nat)
    (new : List Event) (le : s.nextSerial ≤ n) :
    Parallel m (new ++ s.journal) t.journal i (s.grown n counts new) t :=
  { h with
    fits := { h.fits with
      serial := fun exact => absurd exact inexact
      counts := fun exact => absurd exact inexact
      below := fun paired =>
        ⟨Nat.lt_of_lt_of_le (h.fits.below paired).1 le, (h.fits.below paired).2⟩ }
    exchange := { h.exchange with }
    bounded := { h.bounded.later le with }
    journal := ⟨[], [], rfl, rfl, .nil⟩ }

/-- Two computations, from two containers on, end alike and have only made them grow. -/
def Building (m : Margin) (i : Pairing) (A : Pairing → α → β → Prop) (s t : Container)
    (out : Except Halt α × Container) (out' : Except Halt β × Container) : Prop :=
  ∃ j, Grows m i j s t out.2 out'.2 ∧ Ends Eq (A j) out.1 out'.1

namespace Building

variable {m : Margin} {i j : Pairing} {s t u v : Container}

theorem pure {A : Pairing → α → β → Prop} {a : α} {b : β} (grows : Grows m i j s t u v)
    (like : A j a b) : Building m i A s t ((pure a : Run α) u) ((pure b : Run β) v) :=
  ⟨j, grows, .ok like⟩

theorem halt {A : Pairing → α → β → Prop} (grows : Grows m i j s t u v) (halt : Halt) :
    Building m i A s t ((Run.halt halt : Run α) u) ((Run.halt halt : Run β) v) :=
  ⟨j, grows, .error rfl⟩

theorem after {A : Pairing → α → β → Prop} {out : Except Halt α × Container}
    {out' : Except Halt β × Container} (grows : Grows m i j s t u v)
    (next : Building m j A u v out out') : Building m i A s t out out' := by
  obtain ⟨k, further, ends⟩ := next
  exact ⟨k, grows.trans further, ends⟩

theorem bind {A : Pairing → α → β → Prop} {B : Pairing → α' → β' → Prop} {x : Run α} {y : Run β}
    {f : α → Run α'} {g : β → Run β'} (first : Building m i A s t (x s) (y t))
    (next : ∀ {j a b u v}, Grows m i j s t u v → A j a b → Building m j B u v (f a u) (g b v)) :
    Building m i B s t ((x >>= f) s) ((y >>= g) t) := by
  obtain ⟨j, grows, ends⟩ := first
  rcases ran : x s with ⟨halt | a, u⟩ <;> rcases ran' : y t with ⟨halt' | b, v⟩ <;>
    rw [ran, ran'] at grows ends
  · rw [Run.bind_of_error ran, Run.bind_of_error ran']
    cases ends with
    | error same => exact ⟨j, grows, .error same⟩
  · cases ends
  · cases ends
  · rw [Run.bind_of_ok ran, Run.bind_of_ok ran']
    cases ends with
    | ok like => exact .after grows (next grows like)

end Building

structure Component.MadeBy (announced : Bool) (name : String) (make : Nat → Making) (c : Component) :
    Prop where
  name : c.name = name
  announced : c.announced = announced
  made : ∃ n, make n = .ready c.program

section Making

variable {m : Margin} {i : Pairing} {s t : Container}

theorem FilterConfig.Like.serial {f g : FilterConfig} (h : f.Like m i g) (fits : i.Fits m s t)
    (exact : m.exact) : f.serial = g.serial := by
  obtain ⟨cls, -, -, -, paired⟩ := h.made
  exact fits.same exact paired

theorem map_eq_map {R : α → β → Prop} {f : α → γ} {g : β → γ} (even : ∀ {a b}, R a b → f a = g b)
    {l : List α} {l' : List β} (h : List.Forall₂ R l l') : l.map f = l'.map g := by
  induction h with
  | nil => rfl
  | cons related _ ih => rw [List.map_cons, List.map_cons, even related, ih]

theorem makeComponent_building (fits : i.Fits m s t) (announced : Bool) (name : String)
    {make make' : Nat → Making} (even : ∀ a b, (m.exact → a = b) → m.Making (make a) (make' b)) :
    Building m i
      (fun _ => Ends Eq fun c d => c.Like m d ∧ c.MadeBy announced name make) s t
      (makeComponent announced name make s) (makeComponent announced name make' t) := by
  have finish : ∀ {u v : Container} {a b : Nat}, (m.exact → a = b) → Grows m i i s t u v →
      Building m i (fun _ => Ends Eq fun c d => c.Like m d ∧ c.MadeBy announced name make) s t
        ((make a).finish announced name u) ((make' b).finish announced name v) := by
    intro u v a b same grows
    have like := even a b same
    generalize first : make a = x at like
    generalize make' b = y at like
    cases like with
    | panicked message => exact .halt grows (.panic message)
    | refused failure => exact .pure grows (.error rfl)
    | ready like =>
      have numbered := grows.trans (.skip grows.fits)
      have written : Grows m i i s t _ _ := numbered.trans
        (.note numbered.fits (.constructed name grows.fits.serial))
      exact .pure written (.ok ⟨⟨rfl, rfl, like, grows.fits.serial⟩, rfl, rfl, a, first⟩)
  have counts : m.exact → (s.constructions.find? name).getD 0 + 1 =
      (t.constructions.find? name).getD 0 + 1 := by
    intro exact
    rw [fits.counts exact]
  unfold makeComponent
  rw [Run.get_bind_apply, Run.get_bind_apply]
  cases announced with
  | false => exact finish counts (.refl fits)
  | true =>
    have counted : Grows m i i s t _ _ := .count fits
      (s.constructions.insert name ((s.constructions.find? name).getD 0 + 1))
      (t.constructions.insert name ((t.constructions.find? name).getD 0 + 1))
      fun exact => by rw [fits.counts exact]
    exact finish counts (counted.trans (.note counted.fits (.constructing name counts)))

/-- A component whose making always succeeds is made whatever the count. -/
theorem makeComponent_ready (announced : Bool) (name : String) {make : Nat → Making}
    (ready : ∀ n, ∃ p, make n = .ready p) (t : Container) :
    ∃ n serial p counts new, make n = .ready p ∧ t.nextSerial ≤ serial ∧
      makeComponent announced name make t =
        (.ok (.ok { serial, name, announced, program := p }), t.grown (serial + 1) counts new) ∧
      ∀ e ∈ new, e = .constructing name n ∨ e = .constructed serial name := by
  have finish : ∀ (u : Container) (n : Nat), ∃ p, make n = .ready p ∧
      (make n).finish announced name u =
        (.ok (.ok { serial := u.nextSerial, name, announced, program := p }),
          u.grown (u.nextSerial + 1) u.constructions [.constructed u.nextSerial name]) := by
    intro u n
    obtain ⟨p, made⟩ := ready n
    rw [made]
    exact ⟨p, rfl, rfl⟩
  let n := (t.constructions.find? name).getD 0 + 1
  unfold makeComponent
  rw [Run.get_bind_apply]
  cases announced with
  | false =>
    obtain ⟨p, made, finished⟩ := finish t n
    refine ⟨n, _, p, _, _, made, Nat.le_refl _, finished, ?_⟩
    intro e member
    exact .inr (List.mem_singleton.1 member)
  | true =>
    obtain ⟨p, made, finished⟩ := finish
      ({ t with constructions := t.constructions.insert name n }.note (.constructing name n)) n
    refine ⟨n, t.nextSerial, p, t.constructions.insert name n,
      [.constructed t.nextSerial name, .constructing name n], made, Nat.le_refl _, finished, ?_⟩
    intro e member
    rcases List.mem_cons.1 member with rfl | member
    · exact .inr rfl
    · exact .inl (List.mem_singleton.1 member)

theorem declareFilters_building {components : ComponentFactory} (even : m.Even components)
    (entries : List Config.FilterEntry) (fits : i.Fits m s t) {d e : Dict String FilterConfig}
    (like : d.Like (FilterConfig.Like m i) e) :
    Building m i (fun j => Ends Eq fun d e => d.Like (FilterConfig.Like m j) e) s t
      (Registry.declareFilters components entries d s)
      (Registry.declareFilters components entries e t) := by
  induction entries generalizing i s t d e with
  | nil => exact .pure (.refl fits) (.ok like)
  | cons entry rest ih =>
    unfold Registry.declareFilters
    cases known : components.filters.find? entry.className with
    | none => exact .pure (.refl fits) (.error rfl)
    | some cls =>
      let definition : FilterDefinition := .ofEntry entry
      have grows := Grows.pair fits (some (definition, cls))
      have paired : i.pair s t (some (definition, cls)) s.nextSerial t.nextSerial
        (some (definition, cls)) := .inr ⟨rfl, rfl, rfl⟩
      refine .after grows (ih grows.fits ?_)
      refine (like.imp fun like => like.mono grows.within).insert _ ⟨rfl, cls, rfl, rfl, ?_, paired⟩
      exact even.filter known

theorem makeWrappers_building {components : ComponentFactory} (even : m.Even components)
    (entries : List Config.ServletEntry) (fits : i.Fits m s t) :
    Building m i (fun _ => Ends Eq (List.Forall₂ (Wrapper.Like m))) s t
      (Registry.makeWrappers components entries s) (Registry.makeWrappers components entries t) := by
  induction entries generalizing i s t with
  | nil => exact .pure (.refl fits) (.ok .nil)
  | cons entry rest ih =>
    unfold Registry.makeWrappers
    cases known : components.servlets.find? entry.className with
    | none => exact .pure (.refl fits) (.error rfl)
    | some cls =>
      refine .bind (makeComponent_building fits cls.announced entry.name
        (even.servlet known entry)) ?_
      intro j made made' u v grows like
      cases like with
      | error same =>
        subst same
        exact .pure (.refl grows.fits) (.error rfl)
      | ok like =>
        refine .bind (ih grows.fits) ?_
        intro k others others' u v grows likes
        refine .pure (.refl grows.fits) ?_
        cases likes with
        | error same => exact .error same
        | ok likes => exact .ok (.cons ⟨rfl, rfl, like.1, rfl, rfl⟩ likes)

theorem chooseDefault_like {wrappers wrappers' : List Wrapper}
    (like : List.Forall₂ (Wrapper.Like m) wrappers wrappers') (name : Option String) :
    Ends Eq (Option.Rel (Wrapper.Like m)) (Registry.chooseDefault wrappers name)
      (Registry.chooseDefault wrappers' name) := by
  unfold Registry.chooseDefault
  cases name with
  | none => exact .ok .none
  | some name =>
    dsimp only
    have found := rel_find? (p := fun w => w.name == name) (q := fun w => w.name == name)
      (fun like => by rw [like.name]) like
    rcases rel_cases found with ⟨none, none'⟩ | ⟨w, x, some, some', like⟩
    · rw [none, none']
      exact .error rfl
    · rw [some, some']
      exact .ok (.some like)

theorem build_building (config : Config) {components : ComponentFactory} (even : m.Even components)
    (fits : i.Fits m s t) :
    Building m i (fun j => Ends Eq (Registry.Like m j)) s t
      (Registry.build config components s) (Registry.build config components t) := by
  unfold Registry.build
  refine .bind (declareFilters_building even config.filters fits .nil) ?_
  intro j declared declared' u v grows like
  cases like with
  | error same =>
    subst same
    exact .pure (.refl grows.fits) (.error rfl)
  | @ok filters filters' like =>
  dsimp only
  cases config.filterMappings.mapM FilterMapping.ofEntry with
  | error e => exact .pure (.refl grows.fits) (.error rfl)
  | ok mappings =>
  refine .bind (makeWrappers_building even config.servlets grows.fits) ?_
  intro k made made' w x further likes
  cases likes with
  | error same =>
    subst same
    exact .pure (.refl further.fits) (.error rfl)
  | @ok wrappers wrappers' likes =>
  dsimp only
  have default := chooseDefault_like likes config.defaultServlet
  generalize Registry.chooseDefault wrappers config.defaultServlet = chosen at default
  generalize Registry.chooseDefault wrappers' config.defaultServlet = chosen' at default
  cases default with
  | error same =>
    subst same
    exact .pure (.refl further.fits) (.error rfl)
  | @ok chosen chosen' default =>
  have sizes : filters'.size = filters.size := (List.Forall₂.length_eq like).symm
  have lengths := likes.length_eq
  have logged : Grows m k k w x _ _ := .note further.fits (.same (.logged ⟨.info, "Registry built",
    [("filters", .number filters.size), ("filter_mappings", .number mappings.length),
      ("servlets", .number wrappers.length)]⟩))
  have numbered := logged.trans (.pair logged.fits none)
  have within : k.In (k.pair w x none) := fun _ _ _ => .inl
  let r : Registry := ⟨w.nextSerial, mappings, filters, wrappers, chosen⟩
  let r' : Registry := ⟨x.nextSerial, mappings, filters', wrappers', chosen'⟩
  have alike : r.Like m (k.pair w x none) r' :=
    ⟨.inr ⟨rfl, rfl, rfl⟩, rfl, like.imp fun like => (like.mono further.within).mono within, likes,
      default⟩
  have birth : m.Retold r.birth r'.birth := by
    refine .built ?_ ?_ fun exact => ⟨further.fits.serial exact, ?_, ?_⟩
    · rw [List.length_map, List.length_map]
      exact like.values.length_eq
    · rw [List.length_map, List.length_map]
      exact lengths
    · exact map_eq_map (fun like => like.serial grows.fits exact) like.values
    · exact map_eq_map (fun like => like.servlet.serial exact) likes
  rw [sizes, ← lengths]
  exact .pure (numbered.trans (.note numbered.fits birth)) (.ok alike)

end Making

end ServletFilters
