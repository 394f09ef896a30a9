import ServletFilters.Container.Service
import ServletFilters.Proofs.Container.Changes

/-!
Building a registry. Whatever the configuration, a registry that is built is sound, and its parts
have numbers that were not in use; but for its birth nothing is written down that counts.
-/

namespace ServletFilters

/-- A registry whose filters stand under their own names and are made by classes, whose servlets
are different ones, and whose default servlet is one of them. -/
structure Registry.Sound (r : Registry) : Prop where
  declares : r.filters.Declares
  made : ∀ f ∈ r.filters.values, ∃ cls, f.source = .made cls
  servlets : (r.wrappers.map (·.servlet.serial)).Nodup
  default : ∀ {w}, r.defaultServlet = some w → w ∈ r.wrappers

/-- The numbers of a registry and its parts lie in a range, those of the filters before those of
the servlets and both before its own. -/
structure Registry.Numbered (r : Registry) (low middle high : Nat) : Prop where
  filters : ∀ f ∈ r.filters.values, low ≤ f.serial ∧ f.serial < middle
  servlets : ∀ w ∈ r.wrappers, middle ≤ w.servlet.serial ∧ w.servlet.serial < r.serial
  low_le : low ≤ middle
  middle_le : middle ≤ r.serial
  lt_high : r.serial < high

/-- Declared filters as building makes them: each under its name, with a number of its own from
a range. -/
structure Declared (filters : Dict String FilterConfig) (low high : Nat) : Prop where
  keys : filters.keys.Nodup
  declares : filters.Declares
  range : ∀ f ∈ filters.values, low ≤ f.serial ∧ f.serial < high
  made : ∀ f ∈ filters.values, ∃ cls, f.source = .made cls

theorem Declared.empty (low : Nat) : Declared {} low low :=
  ⟨List.nodup_nil, ⟨by rintro name f ⟨⟩, List.nodup_nil⟩, by rintro f ⟨⟩, by rintro f ⟨⟩⟩

theorem Declared.insert {filters : Dict String FilterConfig} {low high : Nat}
    (h : Declared filters low high) (bound : low ≤ high) (definition : FilterDefinition)
    (cls : FilterClass) :
    Declared (filters.insert definition.name ⟨high, definition, .made cls⟩) low (high + 1) := by
  refine ⟨Dict.nodup_keys_insert h.keys _ _, ⟨?_, ?_⟩, ?_, ?_⟩
  · intro name f found
    rw [Dict.find?_insert] at found
    split at found
    · rename_i same
      obtain rfl := Option.some.inj found
      exact same.symm
    · exact h.declares.named found
  · refine Dict.nodup_values_insert h.keys h.declares.distinct _ fun f member => ?_
    exact Nat.ne_of_lt (h.range f member).2
  · intro f member
    rcases Dict.mem_values_of_mem_insert member with rfl | old
    · exact ⟨bound, Nat.lt_succ_self _⟩
    · have range := h.range f old
      omega
  · intro f member
    rcases Dict.mem_values_of_mem_insert member with rfl | old
    · exact ⟨cls, rfl⟩
    · exact h.made f old

theorem declareFilters_declared (components : ComponentFactory) (entries : List Config.FilterEntry)
    {filters : Dict String FilterConfig} {low : Nat} {s : Container} (bound : low ≤ s.nextSerial)
    (h : Declared filters low s.nextSerial) :
    Quiet s (Registry.declareFilters components entries filters s).2 ∧
      ∀ all, (Registry.declareFilters components entries filters s).1 = .ok (.ok all) →
        Declared all low (Registry.declareFilters components entries filters s).2.nextSerial := by
  induction entries generalizing filters s with
  | nil =>
    refine ⟨.refl s, ?_⟩
    rintro all ⟨⟩
    exact h
  | cons entry rest ih =>
    unfold Registry.declareFilters
    cases components.filters.find? entry.className with
    | none => exact ⟨.refl s, by rintro all ⟨⟩⟩
    | some cls =>
      have step := h.insert bound (.ofEntry entry) cls
      obtain ⟨quiet, declared⟩ := ih (s := (freshSerial s).2) (Nat.le_succ_of_le bound) step
      exact ⟨(freshSerial_quiet s).trans quiet, declared⟩

theorem makeWrappers_numbered (components : ComponentFactory) (entries : List Config.ServletEntry)
    (s : Container) :
    Quiet s (Registry.makeWrappers components entries s).2 ∧
      ∀ ws, (Registry.makeWrappers components entries s).1 = .ok (.ok ws) →
        (ws.map (·.servlet.serial)).Nodup ∧ ∀ w ∈ ws, s.nextSerial ≤ w.servlet.serial ∧
          w.servlet.serial < (Registry.makeWrappers components entries s).2.nextSerial := by
  induction entries generalizing s with
  | nil =>
    refine ⟨.refl s, ?_⟩
    rintro ws ⟨⟩
    exact ⟨List.nodup_nil, by rintro w ⟨⟩⟩
  | cons entry rest ih =>
    unfold Registry.makeWrappers
    cases components.servlets.find? entry.className with
    | none => exact ⟨.refl s, by rintro ws ⟨⟩⟩
    | some cls =>
      dsimp only
      obtain ⟨quiet, range⟩ := makeComponent_makes cls.announced entry.name (cls.make entry) s
      rcases made : makeComponent cls.announced entry.name (cls.make entry) s with
        ⟨halt | failure | servlet, t⟩ <;> rw [made] at quiet range
      · rw [Run.bind_of_error made]
        exact ⟨quiet, by rintro ws ⟨⟩⟩
      · rw [Run.bind_of_ok made]
        exact ⟨quiet, by rintro ws ⟨⟩⟩
      · rw [Run.bind_of_ok made]
        dsimp only
        obtain ⟨later, others⟩ := ih t
        rcases ran : Registry.makeWrappers components rest t with ⟨halt | error | ws, u⟩ <;>
          rw [ran] at later others
        · rw [Run.bind_of_error ran]
          exact ⟨quiet.trans later, by rintro ws ⟨⟩⟩
        · rw [Run.bind_of_ok ran]
          exact ⟨quiet.trans later, by rintro ws ⟨⟩⟩
        · rw [Run.bind_of_ok ran]
          refine ⟨quiet.trans later, ?_⟩
          rintro all ⟨⟩
          obtain ⟨nodup, numbers⟩ := others ws rfl
          have own := range servlet rfl
          have grown := later.nextSerial
          have before := quiet.nextSerial
          dsimp only at own grown before
          refine ⟨List.nodup_cons.2 ⟨?_, nodup⟩, ?_⟩
          · intro twice
            obtain ⟨w, member, same⟩ := List.mem_map.1 twice
            have := numbers w member
            dsimp only at same this
            omega
          · intro w member
            rcases List.mem_cons.1 member with rfl | member
            · exact ⟨own.1, Nat.lt_of_lt_of_le own.2 grown⟩
            · have := numbers w member
              exact ⟨Nat.le_trans before this.1, this.2⟩

theorem chooseDefault_mem {wrappers : List Wrapper} {name : Option String} {w : Wrapper}
    (h : Registry.chooseDefault wrappers name = .ok (some w)) : w ∈ wrappers := by
  unfold Registry.chooseDefault at h
  split at h
  · cases h
  · split at h
    · rename_i found
      obtain rfl := Option.some.inj (Except.ok.inj h)
      exact List.mem_of_find?_eq_some found
    · cases h

/-- Building fails and changes its container quietly, or gives a sound registry with new numbers
and writes down its birth last. -/
theorem Registry.build_cases (config : Config) (components : ComponentFactory) (s : Container) :
    (Quiet s (Registry.build config components s).2 ∧
        ∀ r, (Registry.build config components s).1 ≠ .ok (.ok r)) ∨
      ∃ r t middle, Quiet s t ∧ r.Sound ∧ r.Numbered s.nextSerial middle t.nextSerial ∧
        Registry.build config components s = (.ok (.ok r), t.note r.birth) := by
  unfold Registry.build
  obtain ⟨quiet, declared⟩ := declareFilters_declared components config.filters (Nat.le_refl _)
    (Declared.empty s.nextSerial)
  rcases ran : Registry.declareFilters components config.filters {} s with
    ⟨halt | error | filters, t⟩ <;> rw [ran] at quiet declared
  · rw [Run.bind_of_error ran]
    exact .inl ⟨quiet, by rintro r ⟨⟩⟩
  · rw [Run.bind_of_ok ran]
    exact .inl ⟨quiet, by rintro r ⟨⟩⟩
  rw [Run.bind_of_ok ran]
  dsimp only
  cases config.filterMappings.mapM FilterMapping.ofEntry with
  | error e => exact .inl ⟨quiet, by rintro r ⟨⟩⟩
  | ok mappings =>
    dsimp only
    obtain ⟨later, numbered⟩ := makeWrappers_numbered components config.servlets t
    rcases ran' : Registry.makeWrappers components config.servlets t with
      ⟨halt | error | wrappers, u⟩ <;> rw [ran'] at later numbered
    · rw [Run.bind_of_error ran']
      exact .inl ⟨quiet.trans later, by rintro r ⟨⟩⟩
    · rw [Run.bind_of_ok ran']
      exact .inl ⟨quiet.trans later, by rintro r ⟨⟩⟩
    rw [Run.bind_of_ok ran']
    dsimp only
    cases chosen : Registry.chooseDefault wrappers config.defaultServlet with
    | error e => exact .inl ⟨quiet.trans later, by rintro r ⟨⟩⟩
    | ok defaultServlet =>
      have declared := declared filters rfl
      obtain ⟨nodup, numbers⟩ := numbered wrappers rfl
      let r : Registry := ⟨u.nextSerial, mappings, filters, wrappers, defaultServlet⟩
      refine .inr ⟨r, _, t.nextSerial, (quiet.trans later).trans
        ((Quiet.note u rfl).trans (freshSerial_quiet _)), ?_, ?_, rfl⟩
      · exact ⟨declared.declares, declared.made, nodup, fun {w} h => chooseDefault_mem
          (chosen.trans (congrArg Except.ok h))⟩
      · exact ⟨declared.range, numbers, quiet.nextSerial, later.nextSerial, Nat.lt_succ_self _⟩

def Registry.Serves (r : Registry) (w : Wrapper) : Prop :=
  (∃ path, r.mapServlet path = some w) ∨ ∃ name, r.findWrapper name = some w

theorem Registry.Sound.mem_of_serves {r : Registry} (sound : r.Sound) {w : Wrapper}
    (h : r.Serves w) : w ∈ r.wrappers := by
  rcases h with ⟨path, mapped⟩ | ⟨name, found⟩
  · unfold Registry.mapServlet at mapped
    rcases Option.or_eq_some_iff.1 mapped with found | ⟨-, default⟩
    · exact List.mem_of_find?_eq_some found
    · exact sound.default default
  · exact List.mem_of_find?_eq_some found

end ServletFilters
