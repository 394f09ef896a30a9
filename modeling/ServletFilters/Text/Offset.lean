/-!
# Offsets in bytes

Text is searched and cut at offsets that count the bytes of its UTF-8 form. An offset inside a
character, or past the end, is no place to cut (`sliceFrom?_isSome_iff`).
-/

namespace ServletFilters.Text

def byteLength : List Char → Nat
  | [] => 0
  | c :: rest => c.utf8Size + byteLength rest

@[simp] theorem byteLength_cons (c : Char) (s : List Char) :
    byteLength (c :: s) = c.utf8Size + byteLength s := rfl

@[simp] theorem byteLength_append (a b : List Char) :
    byteLength (a ++ b) = byteLength a + byteLength b := by
  induction a with
  | nil => simp [byteLength]
  | cons c rest ih => simp [ih, Nat.add_assoc]

@[simp] theorem byteLength_eq_zero {s : List Char} : byteLength s = 0 ↔ s = [] := by
  cases s with
  | nil => simp [byteLength]
  | cons c rest => simp [Nat.ne_of_gt c.utf8Size_pos]

/-- The text from an offset on. -/
def sliceFrom? : Nat → List Char → Option (List Char)
  | 0, s => some s
  | _ + 1, [] => none
  | n + 1, c :: rest =>
    if c.utf8Size ≤ n + 1 then sliceFrom? (n + 1 - c.utf8Size) rest else none

theorem sliceFrom?_cons {n : Nat} (c : Char) (rest : List Char) (h : c.utf8Size ≤ n) :
    sliceFrom? n (c :: rest) = sliceFrom? (n - c.utf8Size) rest := by
  cases n with
  | zero => exact absurd c.utf8Size_pos (Nat.not_lt.mpr h)
  | succ n => simp [sliceFrom?, h]

theorem sliceFrom?_append (a b : List Char) : sliceFrom? (byteLength a) (a ++ b) = some b := by
  induction a with
  | nil => simp [byteLength, sliceFrom?]
  | cons c rest ih =>
    rw [List.cons_append, sliceFrom?_cons c _ (by simp), byteLength_cons, Nat.add_sub_cancel_left]
    exact ih

/-- Exactly the ends of the leading parts of a text are places to cut it. -/
theorem sliceFrom?_isSome_iff {n : Nat} {s : List Char} :
    (sliceFrom? n s).isSome ↔ ∃ a b, s = a ++ b ∧ n = byteLength a := by
  constructor
  · intro cut
    induction s generalizing n with
    | nil =>
      cases n with
      | zero => exact ⟨[], [], rfl, by simp [byteLength]⟩
      | succ n => simp [sliceFrom?] at cut
    | cons c rest ih =>
      cases n with
      | zero => exact ⟨[], c :: rest, rfl, by simp [byteLength]⟩
      | succ n =>
        by_cases fits : c.utf8Size ≤ n + 1
        · rw [sliceFrom?_cons c rest fits] at cut
          obtain ⟨a, b, rfl, size⟩ := ih cut
          exact ⟨c :: a, b, rfl, by rw [byteLength_cons]; omega⟩
        · simp [sliceFrom?, fits] at cut
  · rintro ⟨a, b, rfl, rfl⟩
    simp [sliceFrom?_append]

/-- The offset of the last occurrence of a character. -/
def lastOffset? (sep : Char) : List Char → Option Nat
  | [] => none
  | c :: rest =>
    match lastOffset? sep rest with
    | some n => some (c.utf8Size + n)
    | none => if c = sep then some 0 else none

theorem lastOffset?_of_not_mem {sep : Char} {s : List Char} (h : sep ∉ s) :
    lastOffset? sep s = none := by
  induction s with
  | nil => rfl
  | cons c rest ih =>
    simp only [List.mem_cons, not_or] at h
    simp [lastOffset?, ih h.2, Ne.symm h.1]

theorem lastOffset?_append {sep : Char} (a : List Char) {b : List Char} (h : sep ∉ b) :
    lastOffset? sep (a ++ sep :: b) = some (byteLength a) := by
  induction a with
  | nil => simp [lastOffset?, lastOffset?_of_not_mem h, byteLength]
  | cons c rest ih => simp [lastOffset?, ih]

/-- The character after which a text is cut takes one byte itself. -/
theorem sliceFrom?_after (sep : Char) (a b : List Char) (h : sep.utf8Size = 1) :
    sliceFrom? (byteLength a + 1) (a ++ sep :: b) = some b := by
  have size : byteLength a + 1 = byteLength (a ++ [sep]) := by simp [h, byteLength]
  rw [size, List.append_cons a sep b]
  exact sliceFrom?_append _ b

theorem exists_last {sep : Char} {s : List Char} (h : sep ∈ s) :
    ∃ a b, s = a ++ sep :: b ∧ sep ∉ b := by
  obtain ⟨b, a, split, fresh⟩ := List.eq_append_cons_of_mem (List.mem_reverse.mpr h)
  exact ⟨a.reverse, b.reverse, by simpa using congrArg List.reverse split, by simpa using fresh⟩

end ServletFilters.Text
