/-!
# Dictionaries

Finite maps as lists of pairs, read from the front. `insert` keeps one pair per key, so
`keys` lists each key once and in order of first insertion.
-/

namespace ServletFilters

structure Dict (κ : Type) (α : Type) where
  entries : List (κ × α) := []
  deriving DecidableEq, Repr, Inhabited

namespace Dict

variable {κ α : Type} [DecidableEq κ]

def find? (d : Dict κ α) (k : κ) : Option α := d.entries.lookup k

/-- The map with the value at a key replaced, or added at the end. -/
def insert (d : Dict κ α) (k : κ) (v : α) : Dict κ α :=
  if d.entries.any (fun e => e.1 == k) then
    ⟨d.entries.map fun e => if e.1 = k then (k, v) else e⟩
  else ⟨d.entries ++ [(k, v)]⟩

def erase (d : Dict κ α) (k : κ) : Dict κ α := ⟨d.entries.filter fun e => e.1 ≠ k⟩

def keys (d : Dict κ α) : List κ := d.entries.map (·.1)

def values (d : Dict κ α) : List α := d.entries.map (·.2)

def size (d : Dict κ α) : Nat := d.entries.length

/-- The map of a list of pairs; the last pair of a key counts. -/
def ofList (pairs : List (κ × α)) : Dict κ α := pairs.foldl (fun d e => d.insert e.1 e.2) ⟨[]⟩

/-- The same keys with the same values, in any order. -/
def same [DecidableEq α] (a b : Dict κ α) : Bool :=
  a.size == b.size && a.entries.all fun e => b.find? e.1 == some e.2

@[simp] theorem find?_empty (k : κ) : (⟨[]⟩ : Dict κ α).find? k = none := rfl

private theorem lookup_pair (a j : κ) (b : α) (rest : List (κ × α)) :
    ((a, b) :: rest).lookup j = if j = a then some b else rest.lookup j := by
  simp only [List.lookup_cons]
  by_cases h : j = a
  · simp [h]
  · rw [if_neg h, beq_eq_false_iff_ne.2 h]

private theorem lookup_replace (l : List (κ × α)) (k j : κ) (v : α) :
    (l.map fun e => if e.1 = k then (k, v) else e).lookup j =
      if j = k then (l.lookup k).map fun _ => v else l.lookup j := by
  induction l with
  | nil => simp
  | cons e rest ih =>
    obtain ⟨a, b⟩ := e
    by_cases ha : a = k
    · subst ha
      by_cases hj : j = a <;> simp [lookup_pair, ih, hj]
    · by_cases hj : j = k
      · subst hj
        simp [lookup_pair, ih, ha, Ne.symm ha]
      · simp [lookup_pair, ih, ha, hj]

private theorem lookup_append_single (l : List (κ × α)) (k j : κ) (v : α) :
    (l ++ [(k, v)]).lookup j = (l.lookup j).or (if j = k then some v else none) := by
  induction l with
  | nil => simp [lookup_pair]
  | cons e rest ih =>
    obtain ⟨a, b⟩ := e
    by_cases h : j = a <;> simp [lookup_pair, ih, h]

private theorem lookup_isSome {l : List (κ × α)} {k : κ} :
    (l.lookup k).isSome = l.any fun e => e.1 == k := by
  induction l with
  | nil => rfl
  | cons e rest ih =>
    obtain ⟨a, b⟩ := e
    by_cases h : k = a
    · simp [h]
    · simp [lookup_pair, h, Ne.symm h, ih]

theorem lookup_filter_key (q : κ → Bool) (l : List (κ × α)) (k : κ) :
    (l.filter fun e => q e.1).lookup k = if q k then l.lookup k else none := by
  induction l with
  | nil => simp
  | cons e rest ih =>
    obtain ⟨a, b⟩ := e
    by_cases same : k = a
    · subst same
      cases kept : q k <;> simp [kept, ih]
    · cases kept : q a <;> simp [lookup_pair, kept, same, ih]

theorem find?_insert (d : Dict κ α) (k j : κ) (v : α) :
    (d.insert k v).find? j = if j = k then some v else d.find? j := by
  unfold insert find?
  split
  · rename_i h
    rw [lookup_replace]
    rw [← lookup_isSome] at h
    split
    · obtain ⟨w, hw⟩ := Option.isSome_iff_exists.1 h
      simp [hw]
    · rfl
  · rename_i h
    rw [lookup_append_single]
    rw [← lookup_isSome] at h
    by_cases hj : j = k
    · subst hj
      simp only [Bool.not_eq_true, Option.isSome_eq_false_iff, Option.isNone_iff_eq_none] at h
      simp [h]
    · simp [hj]

@[simp] theorem find?_insert_self (d : Dict κ α) (k : κ) (v : α) :
    (d.insert k v).find? k = some v := by simp [find?_insert]

theorem find?_erase (d : Dict κ α) (k j : κ) :
    (d.erase k).find? j = if j = k then none else d.find? j := by
  refine (lookup_filter_key (fun a => decide (a ≠ k)) d.entries j).trans ?_
  by_cases same : j = k <;> simp [same, find?]

theorem find?_eq_none_iff {d : Dict κ α} {k : κ} : d.find? k = none ↔ k ∉ d.keys := by
  rw [find?, List.lookup_eq_none_iff, keys, List.mem_map]
  constructor
  · rintro h ⟨e, he, rfl⟩
    simpa using h e he
  · intro h e he
    simpa using fun same : k = e.1 => h ⟨e, he, same.symm⟩

theorem mem_entries_of_find? {d : Dict κ α} {k : κ} {v : α} (h : d.find? k = some v) :
    (k, v) ∈ d.entries := by
  obtain ⟨before, behind, entries, -⟩ := List.lookup_eq_some_iff.1 h
  simp [entries]

theorem mem_values_of_find? {d : Dict κ α} {k : κ} {v : α} (h : d.find? k = some v) :
    v ∈ d.values :=
  List.mem_map.2 ⟨(k, v), mem_entries_of_find? h, rfl⟩

/-- With each key once, the pair of a key stands between pairs of other keys. -/
theorem entries_of_find? {d : Dict κ α} {k : κ} {v : α} (nodup : d.keys.Nodup)
    (h : d.find? k = some v) :
    ∃ before behind, d.entries = before ++ (k, v) :: behind ∧
      ∀ e ∈ before ++ behind, e.1 ≠ k := by
  obtain ⟨before, behind, entries, -⟩ := List.lookup_eq_some_iff.1 h
  refine ⟨before, behind, entries, ?_⟩
  simp only [keys, entries, List.map_append, List.map_cons, List.nodup_append, List.nodup_cons,
    List.mem_cons] at nodup
  obtain ⟨-, ⟨absent, -⟩, apart⟩ := nodup
  intro e he same
  rcases List.mem_append.1 he with he | he
  · exact apart e.1 (List.mem_map_of_mem he) k (.inl rfl) same
  · exact absent (same ▸ List.mem_map_of_mem he)

/-- Inserting at a key that is there replaces its value in place. -/
theorem entries_insert_of_find? {d : Dict κ α} {k : κ} {v : α} (nodup : d.keys.Nodup)
    (h : d.find? k = some v) (w : α) :
    ∃ before behind, d.entries = before ++ (k, v) :: behind ∧
      (d.insert k w).entries = before ++ (k, w) :: behind := by
  obtain ⟨before, behind, entries, apart⟩ := entries_of_find? nodup h
  refine ⟨before, behind, entries, ?_⟩
  have kept : ∀ part : List (κ × α), (∀ e ∈ part, e.1 ≠ k) →
      (part.map fun e => if e.1 = k then (k, w) else e) = part := by
    intro part other
    exact (List.map_congr_left fun e he => if_neg (other e he)).trans (List.map_id' part)
  have present : (d.entries.any fun e => e.1 == k) = true := by simp [entries]
  rw [insert, if_pos present]
  simp only [entries, List.map_append, List.map_cons, if_true]
  rw [kept before fun e he => apart e (List.mem_append_left _ he),
    kept behind fun e he => apart e (List.mem_append_right _ he)]

theorem entries_insert_of_find?_eq_none {d : Dict κ α} {k : κ} (h : d.find? k = none) (w : α) :
    (d.insert k w).entries = d.entries ++ [(k, w)] := by
  have absent : ¬ (d.entries.any fun e => e.1 == k) = true := by
    rw [← lookup_isSome]
    exact Option.not_isSome_iff_eq_none.2 h
  rw [insert, if_neg absent]

theorem keys_insert (d : Dict κ α) (k : κ) (w : α) :
    (d.insert k w).keys = if k ∈ d.keys then d.keys else d.keys ++ [k] := by
  by_cases there : k ∈ d.keys
  · obtain ⟨p, member, rfl⟩ := List.mem_map.1 there
    have present : (d.entries.any fun e => e.1 == p.1) = true :=
      List.any_eq_true.2 ⟨p, member, beq_self_eq_true p.1⟩
    rw [if_pos there, insert, if_pos present, keys, List.map_map]
    refine List.map_congr_left fun e _ => ?_
    by_cases same : e.1 = p.1 <;> simp [same]
  · rw [if_neg there, keys, entries_insert_of_find?_eq_none (find?_eq_none_iff.2 there),
      List.map_append]
    rfl

theorem nodup_keys_insert {d : Dict κ α} (nodup : d.keys.Nodup) (k : κ) (w : α) :
    (d.insert k w).keys.Nodup := by
  rw [keys_insert]
  split
  · exact nodup
  · rename_i absent
    refine List.nodup_append.2 ⟨nodup, by simp, ?_⟩
    intro a ha b hb same
    obtain rfl := List.mem_singleton.1 hb
    exact absent (same ▸ ha)

theorem mem_values_of_mem_insert {d : Dict κ α} {k : κ} {v w : α} (h : v ∈ (d.insert k w).values) :
    v = w ∨ v ∈ d.values := by
  obtain ⟨e, he, rfl⟩ := List.mem_map.1 h
  unfold insert at he
  split at he
  · obtain ⟨old, member, replaced⟩ := List.mem_map.1 he
    split at replaced
    · exact .inl (replaced ▸ rfl)
    · exact .inr (replaced ▸ List.mem_map_of_mem member)
  · rcases List.mem_append.1 he with he | he
    · exact .inr (List.mem_map_of_mem he)
    · exact .inl (List.mem_singleton.1 he ▸ rfl)

/-- A value that differs from all values in some respect can be inserted among values that all
differ in it. -/
theorem nodup_values_insert {d : Dict κ α} {β : Type} {f : α → β} (nodup : d.keys.Nodup)
    (distinct : (d.values.map f).Nodup) (k : κ) {w : α} (apart : ∀ v ∈ d.values, f v ≠ f w) :
    ((d.insert k w).values.map f).Nodup := by
  cases h : d.find? k with
  | some v =>
    obtain ⟨before, behind, entries, inserted⟩ := entries_insert_of_find? nodup h w
    simp only [values, entries, List.map_append, List.map_cons, List.mem_append,
      List.mem_cons] at distinct apart
    simp only [values, inserted, List.map_append, List.map_cons]
    rw [List.perm_middle.nodup_iff, List.nodup_cons] at distinct ⊢
    refine ⟨?_, distinct.2⟩
    intro present
    rcases List.mem_append.1 present with present | present
    · obtain ⟨u, hu, same⟩ := List.mem_map.1 present
      exact apart u (.inl hu) same
    · obtain ⟨u, hu, same⟩ := List.mem_map.1 present
      exact apart u (.inr (.inr hu)) same
  | none =>
    simp only [values, entries_insert_of_find?_eq_none h, List.map_append] at distinct ⊢
    refine List.nodup_append.2 ⟨distinct, by simp, ?_⟩
    intro a ha b hb same
    obtain ⟨u, hu, rfl⟩ := List.mem_map.1 ha
    exact apart u hu (same.trans (by simpa using hb))

end Dict

end ServletFilters
