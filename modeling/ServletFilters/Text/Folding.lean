/-!
# Letter case and white space

Names of headers and dispatcher kinds are compared ignoring the case of ASCII letters only;
`equalFold_iff` says that this is equality of the folded texts. `trim` drops the characters with the
property White_Space from both ends.
-/

namespace ServletFilters.Text

def fold (s : String) : List Char := s.toList.map Char.toLower

def equalFold (a b : String) : Bool := fold a == fold b

@[simp] theorem equalFold_iff {a b : String} : equalFold a b = true ↔ fold a = fold b := by
  simp [equalFold]

theorem equalFold_refl (a : String) : equalFold a a = true := by simp

theorem equalFold_comm (a b : String) : equalFold a b = equalFold b a := by
  rw [Bool.eq_iff_iff, equalFold_iff, equalFold_iff]
  exact eq_comm

/-- The characters with the property White_Space. -/
def isBlank (c : Char) : Bool :=
  let n := c.toNat
  (0x09 ≤ n && n ≤ 0x0d) || n == 0x20 || n == 0x85 || n == 0xa0 || n == 0x1680 ||
    (0x2000 ≤ n && n ≤ 0x200a) || n == 0x2028 || n == 0x2029 || n == 0x202f || n == 0x205f ||
    n == 0x3000

/-- Every character that core calls white space is blank. -/
theorem isBlank_of_isWhitespace {c : Char} (h : c.isWhitespace = true) : isBlank c = true := by
  simp only [Char.isWhitespace, Bool.or_eq_true, decide_eq_true_eq] at h
  rcases h with ((rfl | rfl) | rfl) | rfl <;> decide

def trim (s : String) : String :=
  String.ofList ((s.toList.dropWhile isBlank).reverse.dropWhile isBlank).reverse

end ServletFilters.Text
