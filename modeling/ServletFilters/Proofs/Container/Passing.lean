import ServletFilters.Proofs.Container.Guarding
import ServletFilters.Proofs.Container.Yielding

/-!
Visits in pipelines of built-in components. Where all filters let the request pass, a visit yields what
its servlet does, which finds the request suspendable only if no component of the visit declines that;
otherwise one of the filters answers, `visit_yields`.
-/

namespace ServletFilters

open Config

/-- The result is of a kind that the chain leaves as it is, and not that of too many suspensions. -/
def Ordinary (result : Result) : Prop :=
  ∀ f, result = .error f → f.passesThrough = true ∧ f ≠ restarted

theorem ordinary_ok (done : Unit) : Ordinary (.ok done) := by
  rintro f ⟨⟩

theorem ordinary_servlet (message : String) : Ordinary (.error (.servlet message)) := by
  rintro f ⟨⟩
  exact ⟨rfl, by rintro ⟨⟩⟩

theorem Request.narrowed_narrowed (r : Request) (a b : Bool) :
    (r.narrowed a).narrowed b = r.narrowed (a || b) := by
  simp [narrowed, Bool.and_assoc]

section Visits

variable {config : Config} {p : Nat} {r : Registry} {s : Container} {calls : Calls}
  {post : Result → Request → Response → Prop}

/-- A filter of a built-in class yields what the chain does behind it, or answers itself. -/
theorem Builtin.filter_yields {e : FilterEntry} {cls : FilterClass} {n : Nat} {program : Program}
    (known : ComponentFactory.builtin.filters.find? e.className = some cls)
    (ready : cls.make (.ofEntry e) n = .ready program) (who : Component)
    (admitted : e.Admits s.request → ∀ response : Response, response.body = s.response.body →
      (calls .proceed).Yields post { s with response })
    (refused : ¬ e.Admits s.request → ∀ response, post (.ok ()) s.request response) :
    (program.run calls who true).Yields post s := by
  -- What built-in filters do after the rest of the chain leaves the exchange as it is.
  have proceeds (next : Result → Program) (response : Response)
      (same : response.body = s.response.body) (admits : e.Admits s.request)
      (plain : ∀ a t, ∃ journal, (next a).run calls who true t = (.ok a, { t with journal })) :
      ((Program.proceed next).run calls who true).Yields post { s with response } := by
    refine (admitted admits response same).bind fun a t holds => ?_
    obtain ⟨journal, ran⟩ := plain a t
    exact ⟨a, _, ran, rfl, holds⟩
  have finish (a : Result) (t : Container) :
      ∃ journal, (Program.finish a).run calls who true t = (.ok a, { t with journal }) :=
    ⟨t.journal, rfl⟩
  rcases filter_cases known with ⟨name, rfl⟩ | ⟨name, rfl⟩ | ⟨name, rfl⟩
  · obtain rfl := Making.ready.inj ready
    have admits : e.Admits s.request := fun other => by simp [name] at other
    refine proceeds _ s.response rfl admits fun a t => ?_
    cases a <;> exact ⟨_, rfl⟩
  · obtain ⟨field, -, made⟩ := bind_ok (making_ready ready)
    obtain ⟨value, -, made⟩ := bind_ok made
    obtain rfl := Except.ok.inj made
    have admits : e.Admits s.request := fun other => by simp [name] at other
    exact proceeds .finish (s.response.setHeader field value) rfl admits finish
  · obtain ⟨status, -, made⟩ := bind_ok (making_ready ready)
    obtain ⟨header, found, made⟩ := bind_ok made
    obtain rfl := Except.ok.inj made
    have found := requiredParam_ok found
    have run : (requireHeader header status).run calls who true s =
        (if (s.request.header? header).isSome then Program.proceed .finish else _).run calls who true s :=
      rfl
    unfold Run.Yields
    rw [run]
    by_cases has : (s.request.header? header).isSome
    · rw [if_pos has]
      exact proceeds .finish s.response rfl (fun _ => ⟨header, found, header?_isSome.1 has⟩) finish
    · rw [if_neg has]
      refine ⟨_, _, rfl, rfl, refused (fun admits => ?_) _⟩
      obtain ⟨other, found', there⟩ := admits name
      obtain rfl := Option.some.inj (found.symm.trans found')
      exact has (header?_isSome.2 there)

variable (contents : r.Contents config .builtin) (unaltered : ∀ a q r, post a q r → Unaltered a)
include contents unaltered

/-- At a filter of a built-in class, the chain fails if the filter cannot be made; else it yields what
there is behind the filter, or the filter answers. -/
theorem passes_yields {f : FilterConfig} {e : FilterEntry} (h : Manned p r s)
    (next : s.chain.filters[s.chain.position]? = some f) (own : f.ComesFrom .builtin e)
    (unmade : ¬ e.Makeable → ∀ message, post (.error (.servlet message)) s.request s.response)
    (refused : ¬ e.Admits s.request → ∀ response,
      post (.ok ()) (s.request.narrowed f.declinesAsync) response)
    (admitted : e.Makeable → e.Admits s.request → ∀ t, Manned p r t → t.chain = s.advance.chain →
      t.request = s.request.narrowed f.declinesAsync → t.response.body = s.response.body →
      (calls .proceed).Yields post t) : (Traversal.doFilter calls).Yields post s := by
  have member := h.filters f (List.mem_of_getElem? next)
  refine filter_yields unaltered h.executor.relaying next fun journal => ?_
  have manned : Manned p r ({ s with journal } : Container).advance :=
    ⟨⟨h.current, h.executing, h.only, h.stock⟩, h.filters, h.servlet, h.executor⟩
  have obtained := manned.obtain contents.sound member
  have makes := (manned.toEquipped.obtain contents.sound member).2
  have frame := f.obtain_frame ({ s with journal } : Container).advance
  rcases manned.toEquipped.obtain_builtin member own with
    ⟨makeable, c, t, given⟩ | ⟨unmakeable, message, t, given⟩
  · rw [given] at obtained makes frame
    obtain ⟨_, _, _, _, rfl⟩ := frame
    obtain ⟨cls', n, source', made⟩ := makes c rfl
    obtain ⟨definition, cls, known, source⟩ := own
    obtain rfl := FilterSource.made.inj (source.symm.trans source')
    rw [definition] at made
    refine .inr ⟨c, _, given, fun journal => ?_⟩
    refine Builtin.filter_yields known made c (fun admits response same => ?_) refused
    exact admitted makeable admits _ ⟨⟨obtained.current, obtained.executing, obtained.only,
      obtained.stock⟩, obtained.filters, obtained.servlet, obtained.executor⟩ rfl rfl same
  · exact .inl ⟨.servlet message, t, given, unmade unmakeable message⟩

variable (distinct : (config.filters.map (·.name)).Nodup)
include distinct

theorem visit_yields {c : Component} {n : Nat} (ahead : List FilterConfig) : ∀ {s}, Manned p r s →
    s.chain.filters.drop s.chain.position = ahead → s.chain.servlet = some c →
    ((¬ ∀ f ∈ ahead, f.Passes config s.request) → ∀ a asyncSupported response, Ordinary a →
      post a { s.request with asyncSupported } response) →
    ((∀ f ∈ ahead, f.Passes config s.request) → ∀ t, Manned p r t → t.request =
        s.request.narrowed (ahead.any (·.declinesAsync) || !s.chain.servletAsync) →
      t.response.body = s.response.body → (c.program.run (nestedCalls n) c false).Yields post t) →
    (Traversal.doFilter (nestedCalls (n + ahead.length))).Yields post s := by
  -- Each filter ahead takes one of the levels.
  induction ahead with
  | nil =>
    intro s h rest bound _ served
    have next : s.chain.filters[s.chain.position]? = none :=
      List.getElem?_eq_none_iff.2 (List.drop_eq_nil_iff.1 rest)
    refine servlet_yields unaltered h.executor.relaying next bound fun lastServiced journal => ?_
    refine served (by rintro f ⟨⟩) _ ?_ ?_ rfl
    · exact ⟨⟨h.current, h.executing, h.only, h.stock⟩, h.filters, h.servlet, h.executor⟩
    · simp
  | cons f ahead ih =>
    intro s h rest bound stopped served
    have next : s.chain.filters[s.chain.position]? = some f := by
      rw [← List.head?_drop, rest, List.head?_cons]
    obtain ⟨e, listed, own⟩ := contents.entry f (h.filters f (List.mem_of_getElem? next))
    have passes : f.Passes config s.request → e.Makeable ∧ e.Admits s.request := by
      rintro ⟨d, listed', own', makeable, admits⟩
      obtain rfl := entry_unique distinct listed listed' own own'
      exact ⟨makeable, admits⟩
    refine passes_yields contents unaltered h next own (fun unmakeable message => ?_)
      (fun refuses response => ?_) fun makeable admits t manned chain request body => ?_
    · exact stopped (fun all => unmakeable (passes (all f (List.mem_cons_self ..))).1) _ _ _
        (ordinary_servlet message)
    · exact stopped (fun all => refuses (passes (all f (List.mem_cons_self ..))).2) _ _ _
        (ordinary_ok ())
    have fixed : t.request.fixed = s.request.fixed := (congrArg Request.fixed request :)
    have all : (∀ g ∈ ahead, g.Passes config t.request) →
        ∀ g ∈ f :: ahead, g.Passes config s.request := by
      simp only [FilterConfig.passes_of_fixed fixed, List.forall_mem_cons]
      exact fun behind => ⟨⟨e, listed, own, makeable, admits⟩, behind⟩
    refine ih manned ?_ ?_ (fun fails => ?_) fun passed u manned' narrowed body' => ?_
    · rw [chain]
      change s.chain.filters.drop (s.chain.position + 1) = ahead
      rw [← List.tail_drop, rest, List.tail_cons]
    · rw [chain]
      exact bound
    · intro a asyncSupported response ordinary
      rw [request]
      refine stopped (fun every => fails ?_) a asyncSupported response ordinary
      simp only [FilterConfig.passes_of_fixed fixed]
      exact (List.forall_mem_cons.1 every).2
    · refine served (all passed) u manned' ?_ (body'.trans body)
      rw [narrowed, request, Request.narrowed_narrowed, chain, List.any_cons, Bool.or_assoc]
      rfl

end Visits

end ServletFilters
