import ServletFilters.Exchange.Response

/-!
What is left of the headers that are written to a response. A header that is set takes back what was
written for its name before, in whatever letters; one that is added takes back nothing. What a
response has in the end is what nothing took back, `headers_surviving`.
-/

namespace ServletFilters

inductive HeaderWrite where
  | set (name value : String)
  | add (name value : String)
  deriving DecidableEq, Repr

namespace HeaderWrite

def pair : HeaderWrite → String × String
  | .set name value | .add name value => (name, value)

def concerns (w : HeaderWrite) (name : String) : Bool := Text.equalFold w.pair.1 name

/-- The write takes back what was written for the name before. -/
def retracts : HeaderWrite → String → Bool
  | .set own _, name => Text.equalFold own name
  | .add _ _, _ => false

/-- The writes that no later one takes back. -/
def surviving : List HeaderWrite → List HeaderWrite
  | [] => []
  | w :: later =>
    if later.any (·.retracts w.pair.1) then surviving later else w :: surviving later

end HeaderWrite

def Response.apply (r : Response) : HeaderWrite → Response
  | .set name value => r.setHeader name value
  | .add name value => r.addHeader name value

/-- The pairs that are there for a name. -/
def Headers.of (h : Headers) (name : String) : Headers := h.filter fun e => Text.equalFold e.1 name

namespace HeaderWrite

theorem concerns_of_retracts {w : HeaderWrite} {name : String} (h : w.retracts name = true) :
    w.concerns name = true := by
  cases w with
  | set own value => exact h
  | add own value => cases h

theorem retracts_of_not_concerns {w : HeaderWrite} {name : String} (h : w.concerns name = false) :
    w.retracts name = false := by
  cases w with
  | set own value => exact h
  | add own value => rfl

theorem retracts_congr {name other : String} (same : Text.fold name = Text.fold other)
    (w : HeaderWrite) : w.retracts name = w.retracts other := by
  cases w with
  | set own value => simp only [retracts, Text.equalFold, same]
  | add own value => rfl

theorem any_retracts_congr {name other : String} (same : Text.fold name = Text.fold other)
    (ws : List HeaderWrite) : ws.any (·.retracts name) = ws.any (·.retracts other) :=
  congrArg ws.any (funext (retracts_congr same))

/-- The first write that is left for a name is the one that set it last, or else the first that
added it. -/
theorem find?_surviving (name : String) (ws : List HeaderWrite) :
    (surviving ws).find? (·.concerns name) =
      (ws.reverse.find? (·.retracts name)).or (ws.find? (·.concerns name)) := by
  induction ws with
  | nil => rfl
  | cons w later ih =>
    rw [surviving, List.reverse_cons, List.find?_append]
    cases own : w.concerns name with
    | true =>
      -- A write for the name is left exactly if no later one sets the name.
      have alike := any_retracts_congr (Text.equalFold_iff.1 own) later
      cases set : later.reverse.find? (·.retracts name) with
      | some u =>
        have again : later.any (·.retracts w.pair.1) = true := by
          rw [alike, List.any_eq_true]
          exact ⟨u, List.mem_reverse.1 (List.mem_of_find?_eq_some set),
            List.find?_some (p := (retracts · name)) set⟩
        rw [if_pos again, ih, set]
        rfl
      | none =>
        have never : ¬ later.any (·.retracts w.pair.1) = true := by
          rw [alike, List.any_eq_true]
          rintro ⟨u, member, retracts⟩
          exact List.find?_eq_none.1 set u (List.mem_reverse.2 member) retracts
        rw [if_neg never]
        cases retracts : w.retracts name <;> simp [own, retracts]
    | false =>
      have skipped : ∀ rest, (w :: rest).find? (·.concerns name) = rest.find? (·.concerns name) :=
        fun rest => by rw [List.find?_cons, own]
      rw [skipped, List.find?_cons, retracts_of_not_concerns own, List.find?_nil, Option.or_none, ← ih]
      split
      · rfl
      · exact skipped _

end HeaderWrite

namespace Response

open HeaderWrite

theorem apply_headers (r : Response) (w : HeaderWrite) :
    (r.apply w).headers = r.headers.filter (fun e => !w.retracts e.1) ++ [w.pair] := by
  cases w with
  | set name value =>
    simp only [apply, setHeader, Headers.set, retracts, pair, Text.equalFold_comm]
  | add name value =>
    have all : r.headers.filter (fun e => !(add name value).retracts e.1) = r.headers :=
      List.filter_eq_self.2 fun _ _ => rfl
    rw [all]
    rfl

/-- Writes leave of the headers that are there those that none of them takes back, and add those of
their own that none after them takes back. -/
theorem foldl_apply_headers (ws : List HeaderWrite) (r : Response) :
    (ws.foldl apply r).headers =
      r.headers.filter (fun e => !ws.any (·.retracts e.1)) ++ (surviving ws).map pair := by
  induction ws generalizing r with
  | nil =>
    have all : r.headers.filter (fun e => !([] : List HeaderWrite).any (·.retracts e.1)) = r.headers :=
      List.filter_eq_self.2 fun _ _ => rfl
    rw [all]
    exact (List.append_nil _).symm
  | cons w later ih =>
    have once : (r.headers.filter fun e => !w.retracts e.1).filter
          (fun e => !later.any (·.retracts e.1)) =
        r.headers.filter fun e => !(w :: later).any (·.retracts e.1) := by
      rw [List.filter_filter]
      refine List.filter_congr fun e _ => ?_
      rw [List.any_cons, Bool.not_or, Bool.and_comm]
    rw [List.foldl_cons, ih, apply_headers, List.filter_append, once, surviving, List.append_assoc]
    cases again : later.any (·.retracts w.pair.1) <;> simp [again]

theorem apply_of (r : Response) (w : HeaderWrite) (name : String) :
    (r.apply w).headers.of name =
      if w.retracts name then [w.pair]
      else if w.concerns name then r.headers.of name ++ [w.pair] else r.headers.of name := by
  unfold Headers.of
  rw [apply_headers, List.filter_append, List.filter_filter]
  have own : [w.pair].filter (fun e => Text.equalFold e.1 name) =
      if w.concerns name then [w.pair] else [] := by
    rw [List.filter_cons, List.filter_nil]
    rfl
  have kept : ∀ e : String × String,
      (Text.equalFold e.1 name && !w.retracts e.1) = (Text.equalFold e.1 name && !w.retracts name) := by
    intro e
    cases same : Text.equalFold e.1 name with
    | false => rfl
    | true => rw [w.retracts_congr (Text.equalFold_iff.1 same)]
  rw [own, List.filter_congr fun e _ => kept e]
  cases retracts : w.retracts name with
  | true =>
    rw [concerns_of_retracts retracts]
    simp
  | false => cases w.concerns name <;> simp

theorem apply_of_other (r : Response) {w : HeaderWrite} {name : String}
    (other : w.concerns name = false) : (r.apply w).headers.of name = r.headers.of name := by
  rw [apply_of, retracts_of_not_concerns other, other, if_neg Bool.false_ne_true,
    if_neg Bool.false_ne_true]

/-- For what is there for a name, writes for other names are of no account. -/
theorem foldl_apply_of (name : String) (ws : List HeaderWrite) {r r' : Response}
    (same : r.headers.of name = r'.headers.of name) :
    (ws.foldl apply r).headers.of name =
      ((ws.filter (·.concerns name)).foldl apply r').headers.of name := by
  induction ws generalizing r r' with
  | nil => exact same
  | cons w later ih =>
    rw [List.foldl_cons, List.filter_cons]
    cases own : w.concerns name with
    | true =>
      refine ih ?_
      rw [apply_of, apply_of, same]
    | false =>
      refine ih ?_
      rw [apply_of_other r own, same]

/-- After any writes a new response has, in order, those that no later write took back: those that
are not followed by a header set of the same name, whatever the case of its letters. So the first
value of a name, in any spelling, is that of the first write for it that is left, which is the one
that set it last or, where none did, the first that added it. A header that is set is the only one
of its name, and what is there for a name is what the writes for that name alone leave. -/
theorem headers_surviving (serial : Nat) (ws : List HeaderWrite) :
    let r := ws.foldl apply { serial }
    r.headers = (surviving ws).map pair ∧
      (∀ name, r.headers.get? name = ((surviving ws).find? (·.concerns name)).map (·.pair.2) ∧
        r.headers.get? name =
          ((ws.reverse.find? (·.retracts name)).or (ws.find? (·.concerns name))).map (·.pair.2)) ∧
      (∀ name other, Text.equalFold name other = true → r.headers.get? name = r.headers.get? other) ∧
      (∀ name value, (r.setHeader name value).headers.of name = [(name, value)]) ∧
      (∀ w name, w.concerns name = false → (r.apply w).headers.of name = r.headers.of name) ∧
      ∀ name, r.headers.of name =
        (((ws.filter (·.concerns name)).foldl apply { serial }).headers).of name := by
  intro r
  have headers : r.headers = (surviving ws).map pair := foldl_apply_headers ws { serial }
  have first : ∀ name, r.headers.get? name =
      ((surviving ws).find? (·.concerns name)).map (·.pair.2) := by
    intro name
    rw [headers, Headers.get?, List.find?_map, Option.map_map]
    rfl
  refine ⟨headers, fun name => ⟨first name, ?_⟩, ?_, ?_, fun w name => apply_of_other r,
    fun name => foldl_apply_of name ws rfl⟩
  · rw [first, find?_surviving]
  · intro name other same
    have alike : ∀ e : String × String, Text.equalFold e.1 name = Text.equalFold e.1 other :=
      fun e => by simp only [Text.equalFold, Text.equalFold_iff.1 same]
    unfold Headers.get?
    rw [funext alike]
  · intro name value
    exact (apply_of r (.set name value) name).trans (if_pos (Text.equalFold_refl name))

example : surviving [.set "X-A" "1", .add "x-b" "2", .add "X-a" "3", .set "x-A" "4", .add "X-B" "5"] =
    [.add "x-b" "2", .set "x-A" "4", .add "X-B" "5"] := by decide

end Response

end ServletFilters
