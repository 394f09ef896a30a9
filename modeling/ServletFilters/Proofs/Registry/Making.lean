import ServletFilters.Proofs.Registry.Gates

/-!
The servlets that the building of a registry makes, whether or not it comes to an end. A build that
breaks off with an error has made the servlets of the first entries, `Registry.build_breaks`.
-/

namespace ServletFilters

open Config (ServletEntry)

/-- The number and the name of a component, if the event is its construction. -/
def Event.construction? : Event → Option (Nat × String)
  | .constructed c name => some (c, name)
  | _ => none

/-- The components that were constructed, newest first. -/
def constructions (events : List Event) : List (Nat × String) :=
  events.filterMap Event.construction?

def Wrapper.identity (w : Wrapper) : Nat × String := (w.servlet.serial, w.name)

/-- A servlet was made for each of the entries, in their order, and nothing else was constructed. -/
structure Made (entries : List ServletEntry) (ws : List Wrapper) (s t : Container) : Prop where
  quiet : Quiet s t
  declared : List.Forall₂ (fun w e => w.name = e.name ∧ w.urlPatterns = e.urlPatterns) ws entries
  constructed : constructions t.journal = (ws.map (·.identity)).reverse ++ constructions s.journal
  numbers : ∀ w ∈ ws, s.nextSerial ≤ w.servlet.serial ∧ w.servlet.serial < t.nextSerial
  distinct : (ws.map (·.servlet.serial)).Nodup

namespace Made

variable {entries : List ServletEntry} {ws : List Wrapper} {s t u : Container}

theorem none (quiet : Quiet s t) (same : constructions t.journal = constructions s.journal) :
    Made [] [] s t :=
  ⟨quiet, .nil, same, by rintro w ⟨⟩, List.nodup_nil⟩

theorem cons {e : ServletEntry} {w : Wrapper} (quiet : Quiet s t)
    (declared : w.name = e.name ∧ w.urlPatterns = e.urlPatterns)
    (constructed : constructions t.journal = w.identity :: constructions s.journal)
    (number : s.nextSerial ≤ w.servlet.serial ∧ w.servlet.serial < t.nextSerial)
    (rest : Made entries ws t u) : Made (e :: entries) (w :: ws) s u := by
  have grown := rest.quiet.nextSerial
  have before := quiet.nextSerial
  constructor
  · exact quiet.trans rest.quiet
  · exact .cons declared rest.declared
  · rw [rest.constructed, constructed, List.map_cons, List.reverse_cons, List.append_assoc]
    rfl
  · intro v member
    rcases List.mem_cons.1 member with rfl | member
    · omega
    · have := rest.numbers v member
      omega
  · apply List.nodup_cons.2 ⟨?_, rest.distinct⟩
    intro twice
    obtain ⟨v, member, same⟩ := List.mem_map.1 twice
    have := rest.numbers v member
    dsimp only at same
    omega

theorem names (made : Made entries ws s t) : ws.map (·.name) = entries.map (·.name) := by
  have declared := made.declared
  clear made
  induction declared with
  | nil => rfl
  | cons first rest ih => exact congrArg₂ List.cons first.1 ih

/-- What is quiet and constructs nothing may come before. -/
theorem after (made : Made entries ws t u) (quiet : Quiet s t)
    (same : constructions t.journal = constructions s.journal) : Made entries ws s u := by
  have before := quiet.nextSerial
  refine ⟨quiet.trans made.quiet, made.declared, same ▸ made.constructed, ?_, made.distinct⟩
  intro w member
  have := made.numbers w member
  omega

end Made

theorem constructions_note (s : Container) {e : Event} (silent : e.construction? = none) :
    constructions (s.note e).journal = constructions s.journal :=
  List.filterMap_cons_none silent

theorem makeComponent_constructs (announced : Bool) (name : String) (make : Nat → Making)
    (s : Container) :
    let out := makeComponent announced name make s
    (∀ c, out.1 = .ok (.ok c) →
        constructions out.2.journal = (c.serial, name) :: constructions s.journal) ∧
      ((∀ c, out.1 ≠ .ok (.ok c)) → constructions out.2.journal = constructions s.journal) := by
  have finished : ∀ n (u : Container), constructions u.journal = constructions s.journal →
      (∀ c, ((make n).finish announced name u).1 = .ok (.ok c) →
        constructions ((make n).finish announced name u).2.journal =
          (c.serial, name) :: constructions s.journal) ∧
      ((∀ c, ((make n).finish announced name u).1 ≠ .ok (.ok c)) →
        constructions ((make n).finish announced name u).2.journal = constructions s.journal) := by
    intro n u same
    cases make n with
    | refused failure => exact ⟨by rintro c ⟨⟩, fun _ => same⟩
    | panicked message => exact ⟨by rintro c ⟨⟩, fun _ => same⟩
    | ready program =>
      refine ⟨?_, fun none => absurd rfl (none _)⟩
      rintro c ⟨⟩
      exact congrArg ((u.nextSerial, name) :: ·) same
  unfold makeComponent
  rw [Run.get_bind_apply]
  cases announced with
  | true =>
    apply finished
    exact constructions_note _ rfl
  | false => exact finished _ s rfl

/-- Servlets are made up to the first entry that cannot be made, if there is one. -/
theorem makeWrappers_made (components : ComponentFactory) (entries : List ServletEntry)
    (s : Container) :
    let out := Registry.makeWrappers components entries s
    ∃ made rest ws, entries = made ++ rest ∧ Made made ws s out.2 ∧
      ((rest = [] ∧ out.1 = .ok (.ok ws)) ∨
        ∃ e more, rest = e :: more ∧
          ((components.servlets.find? e.className = none ∧
              out.1 = .ok (.error (.unknownServletClass e.name e.className))) ∨
            (∃ failure, out.1 = .ok (.error (.servletInit e.name failure))) ∨
            ∃ message, out.1 = .error (.panic message))) := by
  induction entries generalizing s with
  | nil => exact ⟨[], [], [], rfl, .none (.refl s) rfl, .inl ⟨rfl, rfl⟩⟩
  | cons e rest ih =>
    unfold Registry.makeWrappers
    cases known : components.servlets.find? e.className with
    | none =>
      exact ⟨[], e :: rest, [], rfl, .none (.refl s) rfl, .inr ⟨e, rest, rfl, .inl ⟨known, rfl⟩⟩⟩
    | some cls =>
      dsimp only
      obtain ⟨quiet, range⟩ := makeComponent_makes cls.announced e.name (cls.make e) s
      obtain ⟨one, nothing⟩ := makeComponent_constructs cls.announced e.name (cls.make e) s
      obtain ⟨n, -, ends⟩ := makeComponent_ends cls.announced e.name (cls.make e) s
      rcases made : makeComponent cls.announced e.name (cls.make e) s with ⟨outcome, t⟩
      rw [made] at quiet range one nothing ends
      dsimp only at quiet range one nothing ends
      obtain ⟨failure, -, rfl⟩ | ⟨message, -, rfl⟩ | ⟨servlet, -, -, rfl⟩ := ends
      · rw [Run.bind_of_ok made]
        have same := nothing (by rintro c ⟨⟩)
        exact ⟨[], e :: rest, [], rfl, .none quiet same,
          .inr ⟨e, rest, rfl, .inr (.inl ⟨failure, rfl⟩)⟩⟩
      · rw [Run.bind_of_error made]
        have same := nothing (by rintro c ⟨⟩)
        exact ⟨[], e :: rest, [], rfl, .none quiet same,
          .inr ⟨e, rest, rfl, .inr (.inr ⟨message, rfl⟩)⟩⟩
      · rw [Run.bind_of_ok made]
        dsimp only
        obtain ⟨before, behind, ws, split, others, outcome⟩ := ih t
        let w : Wrapper := ⟨e.name, e.className, servlet, e.asyncSupported, e.urlPatterns⟩
        have all : Made (e :: before) (w :: ws) s (Registry.makeWrappers components rest t).2 :=
          .cons quiet ⟨rfl, rfl⟩ (one servlet rfl) (range servlet rfl) others
        rcases ran : Registry.makeWrappers components rest t with ⟨result, u⟩
        rw [ran] at all outcome
        refine ⟨e :: before, behind, w :: ws, congrArg (e :: ·) split, ?_, ?_⟩
        · rcases result with halt | result
          · rw [Run.bind_of_error ran]
            exact all
          · rw [Run.bind_of_ok ran]
            exact all
        · obtain ⟨rfl, rfl⟩ | ⟨e', more, rfl, ⟨unknown, rfl⟩ | ⟨failure, rfl⟩ | ⟨message, rfl⟩⟩ :=
            outcome
          · rw [Run.bind_of_ok ran]
            exact .inl ⟨rfl, rfl⟩
          · rw [Run.bind_of_ok ran]
            exact .inr ⟨e', more, rfl, .inl ⟨unknown, rfl⟩⟩
          · rw [Run.bind_of_ok ran]
            exact .inr ⟨e', more, rfl, .inr (.inl ⟨failure, rfl⟩)⟩
          · rw [Run.bind_of_error ran]
            exact .inr ⟨e', more, rfl, .inr (.inr ⟨message, rfl⟩)⟩

theorem declareFilters_constructs (components : ComponentFactory)
    (entries : List Config.FilterEntry) (filters : Dict String FilterConfig) (s : Container) :
    constructions (Registry.declareFilters components entries filters s).2.journal =
      constructions s.journal := by
  induction entries generalizing filters s with
  | nil => rfl
  | cons e rest ih =>
    unfold Registry.declareFilters
    cases components.filters.find? e.className with
    | none => rfl
    | some cls =>
      exact ih (filters.insert e.name ⟨s.nextSerial, .ofEntry e, .made cls⟩) (freshSerial s).2

/-- Why a build may break off, and the entries whose servlets it has made by then. -/
inductive Config.BreaksOff (config : Config) (components : ComponentFactory) :
    List ServletEntry → RegistryError → Prop where
  | filterClass {e : FilterEntry} (listed : e ∈ config.filters)
      (unknown : components.filters.find? e.className = none) :
      BreaksOff config components [] (.unknownFilterClass e.name e.className)
  | mapping {error : UnknownDispatcher}
      (unread : config.filterMappings.mapM FilterMapping.ofEntry = .error error) :
      BreaksOff config components [] (.mapping error)
  | servletClass {made more : List ServletEntry} {e : ServletEntry}
      (split : config.servlets = made ++ e :: more)
      (unknown : components.servlets.find? e.className = none) :
      BreaksOff config components made (.unknownServletClass e.name e.className)
  | servlet {made more : List ServletEntry} {e : ServletEntry} {failure : Failure}
      (split : config.servlets = made ++ e :: more) :
      BreaksOff config components made (.servletInit e.name failure)
  | default {name : String} (given : config.defaultServlet = some name)
      (undeclared : name ∉ config.servlets.map (·.name)) :
      BreaksOff config components config.servlets (.unknownDefaultServlet name)

theorem chooseDefault_error {ws : List Wrapper} {name : Option String} {error : RegistryError}
    (h : Registry.chooseDefault ws name = .error error) :
    ∃ n, name = some n ∧ error = .unknownDefaultServlet n ∧ ∀ w ∈ ws, w.name ≠ n := by
  cases name with
  | none => cases h
  | some n =>
    unfold Registry.chooseDefault at h
    dsimp only at h
    cases found : ws.find? fun w => w.name == n with
    | some w =>
      rw [found] at h
      cases h
    | none =>
      rw [found] at h
      refine ⟨n, rfl, (Except.error.inj h).symm, ?_⟩
      intro w member same
      exact List.find?_eq_none.1 found w member (beq_iff_eq.2 same)

/-- A build breaks off, is halted, or gives a registry of the servlets that it has made. -/
theorem Registry.build_made (config : Config) (components : ComponentFactory) (s : Container) :
    let out := Registry.build config components s
    (∃ error made ws, out.1 = .ok (.error error) ∧ config.BreaksOff components made error ∧
        Made made ws s out.2) ∨
      (∃ halt, out.1 = .error halt) ∨
      ∃ r t, out.1 = .ok (.ok r) ∧ Made config.servlets r.wrappers s t ∧
        Registry.chooseDefault r.wrappers config.defaultServlet = .ok r.defaultServlet := by
  obtain ⟨-, stops, succeeds⟩ := declareFilters_ends components config.filters {} s
  have quiet := (declareFilters_declared components config.filters (Nat.le_refl _)
    (Declared.empty s.nextSerial)).1
  have nothing := declareFilters_constructs components config.filters {} s
  unfold Registry.build
  rcases declared : Registry.declareFilters components config.filters {} s with ⟨outcome, t⟩
  rw [declared] at stops succeeds quiet nothing
  dsimp only at stops succeeds quiet nothing
  cases stop : config.filters.find? fun e => (components.filters.find? e.className).isNone with
  | some e =>
    obtain rfl := stops e stop
    rw [Run.bind_of_ok declared]
    have unknown : components.filters.find? e.className = none := by
      simpa using List.find?_some stop
    exact .inl ⟨_, [], [], rfl, .filterClass (List.mem_of_find?_eq_some stop) unknown,
      .none quiet nothing⟩
  | none =>
    obtain ⟨filters, rfl⟩ := succeeds stop
    rw [Run.bind_of_ok declared]
    dsimp only
    cases compiled : config.filterMappings.mapM FilterMapping.ofEntry with
    | error error => exact .inl ⟨_, [], [], rfl, .mapping compiled, .none quiet nothing⟩
    | ok mappings =>
      dsimp only
      obtain ⟨before, behind, ws, split, made, outcome⟩ :=
        makeWrappers_made components config.servlets t
      have made := made.after quiet nothing
      rcases ran : Registry.makeWrappers components config.servlets t with ⟨result, u⟩
      rw [ran] at made outcome
      obtain ⟨rfl, rfl⟩ | ⟨e, more, rfl, ⟨unknown, rfl⟩ | ⟨failure, rfl⟩ | ⟨message, rfl⟩⟩ :=
        outcome
      · rw [Run.bind_of_ok ran]
        rw [List.append_nil] at split
        subst split
        dsimp only
        cases chosen : Registry.chooseDefault ws config.defaultServlet with
        | error error =>
          obtain ⟨name, given, rfl, absent⟩ := chooseDefault_error chosen
          have undeclared : name ∉ config.servlets.map (·.name) := by
            rw [← made.names]
            intro declared
            obtain ⟨w, member, same⟩ := List.mem_map.1 declared
            exact absent w member same
          exact .inl ⟨_, config.servlets, ws, rfl, .default given undeclared, made⟩
        | ok defaultServlet => exact .inr (.inr ⟨_, u, rfl, made, chosen⟩)
      · rw [Run.bind_of_ok ran]
        exact .inl ⟨_, before, ws, rfl, .servletClass split unknown, made⟩
      · rw [Run.bind_of_ok ran]
        exact .inl ⟨_, before, ws, rfl, .servlet split, made⟩
      · rw [Run.bind_of_error ran]
        exact .inr (.inl ⟨_, rfl⟩)

theorem Registry.build_breaks {config : Config} {components : ComponentFactory}
    {error : RegistryError} {s t : Container}
    (h : Registry.build config components s = (.ok (.error error), t)) :
    ∃ made ws, config.BreaksOff components made error ∧ Made made ws s t := by
  rcases Registry.build_made config components s with
    ⟨error', made, ws, ended, breaks, all⟩ | ⟨halt, ended⟩ | ⟨r, u, ended, -⟩
  · rw [h] at ended all
    obtain rfl := Except.error.inj (Except.ok.inj ended)
    exact ⟨made, ws, breaks, all⟩
  · rw [h] at ended
    cases ended
  · rw [h] at ended
    cases ended

theorem Registry.build_servlets {config : Config} {components : ComponentFactory} {r : Registry}
    {s t : Container} (h : Registry.build config components s = (.ok (.ok r), t)) :
    ∃ u, Made config.servlets r.wrappers s u ∧
      Registry.chooseDefault r.wrappers config.defaultServlet = .ok r.defaultServlet := by
  rcases Registry.build_made config components s with
    ⟨error, made, ws, ended, -⟩ | ⟨halt, ended⟩ | ⟨r', u, ended, made, chosen⟩
  · rw [h] at ended
    cases ended
  · rw [h] at ended
    cases ended
  · rw [h] at ended
    obtain rfl := Except.ok.inj (Except.ok.inj ended)
    exact ⟨u, made, chosen⟩

end ServletFilters
