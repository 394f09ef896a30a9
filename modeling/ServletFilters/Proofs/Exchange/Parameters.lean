import Mathlib.Data.List.Induction
import ServletFilters.Exchange.Fields

/-!
The parameters of a query, where the last pair of a name counts. Two queries with an ampersand
between them have the parameters of the first, overridden by those of the second, and fields that
are written as a query give each name the value of its last field, `parse_last_counts`.
-/

namespace ServletFilters

/-! ### Maps of lists of pairs -/

namespace Dict

variable {κ α : Type} [DecidableEq κ]

/-- The map that reads as `e` where `e` has a value, and as `d` elsewhere. -/
def override (d e : Dict κ α) : Dict κ α :=
  ⟨(d.entries.map fun p => (p.1, (e.find? p.1).getD p.2)) ++
    e.entries.filter fun p => p.1 ∉ d.keys⟩

private theorem lookup_map_value (f : κ → α → α) (l : List (κ × α)) (k : κ) :
    (l.map fun p => (p.1, f p.1 p.2)).lookup k = (l.lookup k).map (f k) := by
  induction l with
  | nil => rfl
  | cons p rest ih =>
    obtain ⟨a, b⟩ := p
    rw [List.map_cons, List.lookup_cons, List.lookup_cons, ih]
    cases same : k == a with
    | true =>
      rw [eq_of_beq same]
      rfl
    | false => rfl

theorem find?_override (d e : Dict κ α) (k : κ) :
    (d.override e).find? k = (e.find? k).or (d.find? k) := by
  have own : (d.entries.map fun p => (p.1, (e.find? p.1).getD p.2)).lookup k =
      (d.find? k).map (e.find? k).getD :=
    lookup_map_value (fun j v => (e.find? j).getD v) d.entries k
  have more : (e.entries.filter fun p => p.1 ∉ d.keys).lookup k =
      if decide (k ∉ d.keys) then e.find? k else none :=
    lookup_filter_key (fun j => decide (j ∉ d.keys)) e.entries k
  rw [override, find?, List.lookup_append, own, more]
  cases there : d.find? k with
  | none => simp [find?_eq_none_iff.1 there]
  | some v => cases e.find? k <;> simp

theorem keys_override (d e : Dict κ α) :
    (d.override e).keys = d.keys ++ e.keys.filter (· ∉ d.keys) := by
  simp only [keys, override, List.map_append, List.map_map, List.filter_map]
  rfl

private theorem entries_ext {l m : List (κ × α)} (keys : l.map (·.1) = m.map (·.1))
    (nodup : (l.map (·.1)).Nodup) (values : ∀ k, l.lookup k = m.lookup k) : l = m := by
  induction l generalizing m with
  | nil => exact (List.map_eq_nil_iff.1 keys.symm).symm
  | cons p rest ih =>
    obtain ⟨⟨a, c⟩, more, rfl, first, alike⟩ := List.map_eq_cons_iff.1 keys.symm
    obtain ⟨a, b⟩ := p
    obtain rfl := first
    rw [List.map_cons, List.nodup_cons] at nodup
    obtain rfl : b = c := by simpa using values a
    -- The key of the first pair is in neither tail, so that the tails read alike there as well.
    have absent (tail : List (κ × α)) (likewise : tail.map (·.1) = rest.map (·.1)) :
        tail.lookup a = none :=
      (find?_eq_none_iff : (Dict.mk tail).find? a = none ↔ _).2 fun there =>
        nodup.1 (likewise ▸ there)
    refine congrArg ((a, b) :: ·) (ih alike.symm nodup.2 fun k => ?_)
    cases same : k == a with
    | true => rw [eq_of_beq same, absent rest rfl, absent more alike]
    | false => simpa [List.lookup_cons, same] using values k

/-- A map with each key once is given by its keys in their order and by what it reads at each. -/
theorem ext_keys {d e : Dict κ α} (keys : d.keys = e.keys) (nodup : d.keys.Nodup)
    (values : ∀ k, d.find? k = e.find? k) : d = e :=
  congrArg mk (entries_ext keys nodup values)

theorem ofList_concat (ps : List (κ × α)) (p : κ × α) :
    ofList (ps ++ [p]) = (ofList ps).insert p.1 p.2 := by
  simp [ofList]

theorem find?_ofList (ps : List (κ × α)) (k : κ) :
    (ofList ps).find? k = ps.reverse.lookup k := by
  induction ps using List.reverseRecOn with
  | nil => rfl
  | append_singleton ps p ih =>
    obtain ⟨a, b⟩ := p
    rw [ofList_concat, find?_insert, ih, List.reverse_append, List.reverse_singleton,
      List.singleton_append, List.lookup_cons]
    cases same : k == a with
    | true => rw [if_pos (eq_of_beq same)]
    | false => rw [if_neg (beq_eq_false_iff_ne.1 same)]

theorem nodup_keys_ofList (ps : List (κ × α)) : (ofList ps).keys.Nodup := by
  induction ps using List.reverseRecOn with
  | nil => exact List.nodup_nil
  | append_singleton ps p ih =>
    rw [ofList_concat]
    exact nodup_keys_insert ih p.1 p.2

theorem keys_ofList_append (ps qs : List (κ × α)) :
    (ofList (ps ++ qs)).keys =
      (ofList ps).keys ++ (ofList qs).keys.filter (· ∉ (ofList ps).keys) := by
  induction qs using List.reverseRecOn with
  | nil => simp [ofList, keys]
  | append_singleton qs q ih =>
    rw [← List.append_assoc, ofList_concat, ofList_concat, keys_insert, keys_insert, ih]
    by_cases first : q.1 ∈ (ofList ps).keys <;> by_cases second : q.1 ∈ (ofList qs).keys <;>
      simp [first, second]

/-- Later pairs override earlier ones, and the keys that are new come behind, in their order. -/
theorem ofList_append (ps qs : List (κ × α)) :
    ofList (ps ++ qs) = (ofList ps).override (ofList qs) := by
  refine ext_keys ?_ (nodup_keys_ofList _) fun k => ?_
  · rw [keys_ofList_append, keys_override]
  · rw [find?_override, find?_ofList, find?_ofList, find?_ofList, List.reverse_append,
      List.lookup_append]

end Dict

/-! ### Fields written as a query -/

namespace Query

/-- A name and a value that can stand in a query as they are. -/
structure Field where
  name : String
  value : String
  name_whole : '&' ∉ name.toList := by decide
  name_ends : '=' ∉ name.toList := by decide
  value_whole : '&' ∉ value.toList := by decide

def Field.written (f : Field) : String := f.name ++ "=" ++ f.value

def written (fields : List Field) : String := "&".intercalate (fields.map (·.written))

theorem pairs_append (a b : List Char) : pairs (a ++ '&' :: b) = pairs a ++ pairs b := by
  rw [pairs, Text.pieces_append, List.filter_append, List.map_append]
  rfl

theorem pairs_field (f : Field) : pairs f.written.toList = [(f.name, f.value)] := by
  have text : f.written.toList = f.name.toList ++ '=' :: f.value.toList := by
    simp [Field.written]
  have whole : '&' ∉ f.written.toList := by
    simp [text, f.name_whole, f.value_whole]
  have cut : pair f.written.toList = (f.name, f.value) := by
    rw [pair, text, Text.cut_append _ f.name_ends]
    simp
  have nonempty : f.written.toList ≠ [] := by simp [text]
  rw [pairs, Text.pieces_of_not_mem whole]
  simp [nonempty, cut]

theorem pairs_written (fields : List Field) :
    pairs (written fields).toList = fields.map fun f => (f.name, f.value) := by
  induction fields with
  | nil => rfl
  | cons f rest ih =>
    -- An ampersand is written only where another field follows.
    cases rest with
    | nil => exact pairs_field f
    | cons g rest =>
      have text : (written (f :: g :: rest)).toList =
          f.written.toList ++ '&' :: (written (g :: rest)).toList := by
        simp [written]
      rw [text, pairs_append, pairs_field, ih]
      rfl

theorem lookup_fields (fields : List Field) (name : String) :
    (fields.map fun f => (f.name, f.value)).lookup name =
      (fields.find? (·.name = name)).map (·.value) := by
  induction fields with
  | nil => rfl
  | cons f rest ih =>
    rw [List.map_cons, List.lookup_cons, List.find?_cons, ih]
    by_cases same : f.name = name
    · simp [same]
    · simp [same, beq_eq_false_iff_ne.2 (Ne.symm same)]

theorem parse_append (a b : String) :
    parse (a ++ "&" ++ b) = (parse a).override (parse b) := by
  have text : (a ++ "&" ++ b).toList = a.toList ++ '&' :: b.toList := by simp
  rw [parse, text, pairs_append]
  exact Dict.ofList_append _ _

/-- The parameters of a query and then another are those of the first, overridden by those of the
other. Each name has one value; in written fields it is that of the last field of the name, and a
name without a field has none. -/
theorem parse_last_counts (a b : String) (fields : List Field) :
    parse (a ++ "&" ++ b) = (parse a).override (parse b) ∧
      (∀ name, (parse (a ++ "&" ++ b)).find? name =
        ((parse b).find? name).or ((parse a).find? name)) ∧
      (∀ query, (parse query).keys.Nodup) ∧
      ∀ name, (parse (written fields)).find? name =
        (fields.reverse.find? (·.name = name)).map (·.value) := by
  refine ⟨parse_append a b, ?_, fun query => Dict.nodup_keys_ofList _, ?_⟩
  · intro name
    rw [parse_append, Dict.find?_override]
  · intro name
    rw [parse, pairs_written, Dict.find?_ofList, ← List.map_reverse, lookup_fields]

example : (parse "&a=1&&b&=x&a=2=3&").entries = [("a", "2=3"), ("b", ""), ("", "x")] := by decide

example : written [{ name := "a", value := "2=3" }, { name := "", value := "" }] = "a=2=3&=" := by
  decide

end Query

end ServletFilters
