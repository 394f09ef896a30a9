import ServletFilters.Text.Offset

/-!
# URL patterns

A pattern is `/*`, a directory followed by `/*`, `*.` and an extension, or a literal path.
`accepts` tries a literal match first and then the one other rule that the form of the
pattern asks for; `isValid` is the test that configurations have to pass.
-/

namespace ServletFilters.UrlPattern

open Text

/-- The rule, besides a literal match, by which a pattern selects paths. -/
inductive Form where
  /-- Every path. -/
  | everything
  /-- The directory itself and all below it. -/
  | below (directory : List Char)
  /-- The last segment has this extension. -/
  | extension (text : List Char)
  /-- No other path. -/
  | literal
  deriving DecidableEq, Repr

def directory? (pattern : List Char) : Option (List Char) :=
  match pattern.reverse with
  | '*' :: '/' :: rest => some rest.reverse
  | _ => none

def extension? : List Char → Option (List Char)
  | '*' :: '.' :: rest => some rest
  | _ => none

/-- The form of a pattern; a final `/*` counts before a leading `*.`. -/
def form (pattern : List Char) : Form :=
  match directory? pattern with
  | some [] => .everything
  | some directory => .below directory
  | none =>
    match extension? pattern with
    | some text => .extension text
    | none => .literal

def after? : List Char → List Char → Option (List Char)
  | [], path => some path
  | _, [] => none
  | c :: rest, d :: path => if c = d then after? rest path else none

/-- Whether a path is a directory or lies below it. -/
def isBelow (directory path : List Char) : Bool :=
  match after? directory path with
  | some [] => true
  | some (c :: _) => c == '/'
  | none => false

/-- Whether the last segment of a path has an extension: the part after the last period, where
neither part may be empty. The two cuts are made at byte offsets. -/
def hasExtension? (text path : List Char) : Option Bool :=
  match lastOffset? '/' path with
  | none => some false
  | some slash =>
    (sliceFrom? (slash + 1) path).bind fun segment =>
      match lastOffset? '.' segment with
      | none => some false
      | some period =>
        if 0 < period ∧ period + 1 < byteLength segment then
          (sliceFrom? (period + 1) segment).map (· == text)
        else some false

theorem hasExtension?_of_not_mem {text path : List Char} (h : '/' ∉ path) :
    hasExtension? text path = some false := by
  simp [hasExtension?, lastOffset?_of_not_mem h]

theorem hasExtension?_plain (text directory : List Char) {segment : List Char}
    (flat : '/' ∉ segment) (plain : '.' ∉ segment) :
    hasExtension? text (directory ++ '/' :: segment) = some false := by
  simp [hasExtension?, lastOffset?_append directory flat, sliceFrom?_after '/' directory segment rfl,
    lastOffset?_of_not_mem plain]

theorem hasExtension?_cut (text directory : List Char) {base rest : List Char}
    (flat : '/' ∉ base ++ '.' :: rest) (plain : '.' ∉ rest) :
    hasExtension? text (directory ++ '/' :: (base ++ '.' :: rest)) =
      some (decide (base ≠ [] ∧ rest ≠ [] ∧ rest = text)) := by
  have inside : 0 < byteLength base ∧ byteLength base + 1 < byteLength (base ++ '.' :: rest) ↔
      base ≠ [] ∧ rest ≠ [] := by
    have one : ('.' : Char).utf8Size = 1 := rfl
    simp only [ne_eq, ← byteLength_eq_zero, byteLength_append, byteLength_cons, one]
    omega
  simp only [hasExtension?, lastOffset?_append directory flat,
    sliceFrom?_after '/' directory (base ++ '.' :: rest) rfl, Option.bind_some,
    lastOffset?_append base plain, inside, sliceFrom?_after '.' base rest rfl, Option.map_some]
  by_cases ends : base ≠ [] ∧ rest ≠ []
  · simp [ends.1, ends.2, Bool.beq_eq_decide_eq]
  · rw [if_neg ends]
    simp only [← and_assoc, ends, false_and, decide_false]

theorem hasExtension?_isSome (text path : List Char) : (hasExtension? text path).isSome := by
  by_cases below : '/' ∈ path
  · obtain ⟨directory, segment, rfl, flat⟩ := exists_last below
    by_cases dotted : '.' ∈ segment
    · obtain ⟨base, rest, rfl, plain⟩ := exists_last dotted
      simp [hasExtension?_cut text directory flat plain]
    · simp [hasExtension?_plain text directory flat dotted]
  · simp [hasExtension?_of_not_mem below]

/-- Whether a pattern selects a path; no answer if it would have to cut inside a character. -/
def accepts? (pattern path : List Char) : Option Bool :=
  if pattern = path then some true
  else match form pattern with
    | .everything => some true
    | .below directory => some (isBelow directory path)
    | .extension text => hasExtension? text path
    | .literal => some false

theorem accepts?_isSome (pattern path : List Char) : (accepts? pattern path).isSome := by
  unfold accepts?
  split
  · rfl
  · split
    · rfl
    · rfl
    · exact hasExtension?_isSome ..
    · rfl

def accepts (pattern path : String) : Bool :=
  (accepts? pattern.toList path.toList).get (accepts?_isSome ..)

def isValidChars (pattern : List Char) : Bool :=
  if pattern = ['*'] ∨ pattern = [] then true
  else if '\n' ∈ pattern ∨ '\r' ∈ pattern then false
  else match extension? pattern with
    | some text => !text.isEmpty && !text.contains '/' && !text.contains '*'
    | none =>
      pattern.head? == some '/' && !((directory? pattern).getD pattern).contains '*'

/-- Whether a pattern is acceptable in a configuration: `*`, the empty text, `*.` with an
extension, or a path whose only star is in a final `/*`. -/
def isValid (pattern : String) : Bool := isValidChars pattern.toList

end ServletFilters.UrlPattern
