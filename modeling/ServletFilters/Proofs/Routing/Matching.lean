import Mathlib.Data.String.Basic
import ServletFilters.Routing.UrlPattern
import ServletFilters.Text.Split

/-!
# What URL patterns mean

The matcher looks for characters and cuts at byte offsets. Here a path is the list of its
segments: a directory pattern selects by the leading segments of a path, an extension pattern by
the last one. `accepts_meaning` says that the two readings agree on every pattern that a
configuration may contain, and which patterns those are; `extension_reach` says which extension
patterns select any file at all.
-/

namespace ServletFilters

namespace Text

theorem utf8Len_eq (s : List Char) : String.utf8Len s = byteLength s := by
  induction s with
  | nil => rfl
  | cons c rest ih => rw [String.utf8Len_cons, byteLength_cons, ih, Nat.add_comm]

/-- The places where a text can be cut are the valid positions of the string. -/
theorem sliceFrom?_isSome_iff_isValid {n : Nat} {s : String} :
    (sliceFrom? n s.toList).isSome ↔ String.Pos.Raw.IsValid s ⟨n⟩ := by
  rw [sliceFrom?_isSome_iff, String.Pos.Raw.isValid_iff_exists_append]
  constructor
  · rintro ⟨a, b, split, rfl⟩
    refine ⟨String.ofList a, String.ofList b, ?_, ?_⟩
    · rw [← String.ofList_append, ← split, String.ofList_toList]
    · rw [String.rawEndPos_ofList, utf8Len_eq]
  · rintro ⟨t, u, rfl, place⟩
    refine ⟨t.toList, u.toList, String.toList_append, ?_⟩
    rw [← utf8Len_eq, String.utf8Len_toList]
    exact congrArg String.Pos.Raw.byteIdx place

variable {sep : Char}

@[simp] theorem pieces_nil : pieces sep [] = [[]] := rfl

@[simp] theorem pieces_cons_self (rest : List Char) :
    pieces sep (sep :: rest) = [] :: pieces sep rest := by
  simp [pieces]

theorem pieces_getLast? (a : List Char) {b : List Char} (flat : sep ∉ b) :
    (pieces sep (a ++ sep :: b)).getLast? = some b := by
  simp [pieces_append, pieces_of_not_mem flat]

theorem intercalate_pieces (s : List Char) : [sep].intercalate (pieces sep s) = s := by
  induction s with
  | nil => simp
  | cons c rest ih =>
    by_cases cuts : c = sep
    · rw [cuts, pieces_cons_self, List.intercalate_cons_of_ne_nil (pieces_ne_nil sep rest), ih]
      rfl
    · cases inner : pieces sep rest with
      | nil => exact absurd inner (pieces_ne_nil sep rest)
      | cons first others =>
        rw [inner] at ih
        simp [pieces, cuts, inner, ih]

theorem intercalate_append {ls : List (List Char)} (some_ : ls ≠ []) (l : List Char)
    (more : List (List Char)) :
    [sep].intercalate (ls ++ l :: more) =
      [sep].intercalate ls ++ sep :: [sep].intercalate (l :: more) := by
  induction ls with
  | nil => exact absurd rfl some_
  | cons first others ih =>
    cases others with
    | nil => simp
    | cons second others =>
      rw [List.cons_append, List.intercalate_cons_of_ne_nil (by simp), ih (by simp)]
      simp

/-- The pieces of one text lead those of another where it is followed by a separator or by
nothing. -/
theorem pieces_isPrefix_iff {directory path : List Char} :
    pieces sep directory <+: pieces sep path ↔
      path = directory ∨ ∃ rest, path = directory ++ sep :: rest := by
  constructor
  · rintro ⟨more, split⟩
    have joined : [sep].intercalate (pieces sep path) = path := intercalate_pieces path
    rw [← split] at joined
    cases more with
    | nil =>
      rw [List.append_nil, intercalate_pieces] at joined
      exact .inl joined.symm
    | cons l more =>
      rw [intercalate_append (pieces_ne_nil sep directory), intercalate_pieces] at joined
      exact .inr ⟨_, joined.symm⟩
  · rintro (rfl | ⟨rest, rfl⟩)
    · exact List.prefix_rfl
    · exact ⟨pieces sep rest, (pieces_append sep directory rest).symm⟩

end Text

open Text

namespace UrlPattern

/-! ### The forms of a pattern -/

theorem directory?_eq_some {pattern directory : List Char} :
    directory? pattern = some directory ↔ pattern = directory ++ ['/', '*'] := by
  constructor
  · intro found
    unfold directory? at found
    split at found
    · next rest ends =>
      rw [← List.reverse_reverse pattern, ends]
      simpa using found
    · exact absurd found (by simp)
  · rintro rfl
    simp [directory?]

theorem extension?_eq_some {pattern text : List Char} :
    extension? pattern = some text ↔ pattern = '*' :: '.' :: text := by
  constructor
  · intro found
    unfold extension? at found
    split at found
    · simpa using found
    · exact absurd found (by simp)
  · rintro rfl
    rfl

theorem after?_eq_some {directory path rest : List Char} :
    after? directory path = some rest ↔ path = directory ++ rest := by
  induction directory generalizing path with
  | nil => simp [after?]
  | cons c directory ih =>
    cases path with
    | nil => simp [after?]
    | cons d path =>
      by_cases same : c = d
      · simp [after?, same, ih]
      · simp [after?, same, Ne.symm same]

theorem isBelow_iff {directory path : List Char} :
    isBelow directory path ↔ pieces '/' directory <+: pieces '/' path := by
  rw [pieces_isPrefix_iff]
  cases after : after? directory path with
  | none =>
    have no (rest : List Char) : path ≠ directory ++ rest := fun h => by
      simp [after?_eq_some.mpr h] at after
    simpa [isBelow, after] using ⟨by simpa using no [], fun rest => no ('/' :: rest)⟩
  | some rest =>
    rw [isBelow, after]
    obtain rfl := after?_eq_some.mp after
    cases rest with
    | nil => simp
    | cons c rest => simp

/-- A path has an extension where its last segment ends in it, after a period that does not
begin the segment. -/
theorem hasExtension?_iff {text path : List Char} (named : text ≠ []) :
    hasExtension? text path = some true ↔
      '/' ∈ path ∧ '.' ∉ text ∧
        ∃ base, base ≠ [] ∧ (pieces '/' path).getLast? = some (base ++ '.' :: text) := by
  by_cases below : '/' ∈ path
  · obtain ⟨directory, segment, rfl, flat⟩ := exists_last below
    rw [pieces_getLast? directory flat]
    by_cases dotted : '.' ∈ segment
    · obtain ⟨base, rest, rfl, plain⟩ := exists_last dotted
      rw [hasExtension?_cut text directory flat plain]
      constructor
      · intro has
        obtain ⟨proper, -, rfl⟩ := by simpa using has
        exact ⟨below, plain, base, proper, rfl⟩
      · rintro ⟨-, plain', base', proper, same⟩
        -- the last period of a segment is at one place only
        have place := congrArg (lastOffset? '.') (Option.some.inj same)
        rw [lastOffset?_append base plain, lastOffset?_append base' plain', Option.some.injEq]
          at place
        have cut := congrArg (sliceFrom? (byteLength base + 1)) (Option.some.inj same)
        rw [sliceFrom?_after '.' base rest rfl, place, sliceFrom?_after '.' base' text rfl] at cut
        have rest_eq : rest = text := Option.some.inj cut
        subst rest_eq
        have base_eq : base = base' := by simpa using same
        simp [base_eq, proper, named]
    · rw [hasExtension?_plain text directory flat dotted]
      simp only [Option.some.injEq, Bool.false_eq_true, false_iff, not_and]
      rintro - - ⟨base, -, rfl⟩
      simp at dotted
  · simp [hasExtension?_of_not_mem below, below]

theorem accepts?_everything (path : List Char) : accepts? ['/', '*'] path = some true := by
  unfold accepts?
  split <;> rfl

theorem accepts?_below {directory path : List Char} (proper : directory ≠ []) :
    accepts? (directory ++ ['/', '*']) path = some true ↔
      pieces '/' directory <+: pieces '/' path := by
  have form_eq : form (directory ++ ['/', '*']) = .below directory := by
    simp [form, directory?]
  by_cases same : directory ++ ['/', '*'] = path
  · have leads : pieces '/' directory <+: pieces '/' path :=
      pieces_isPrefix_iff.mpr (.inr ⟨['*'], same.symm⟩)
    simp [accepts?, same, leads]
  · simp [accepts?, same, form_eq, isBelow_iff]

theorem directory?_extension {text : List Char} (flat : '/' ∉ text) :
    directory? ('*' :: '.' :: text) = none := by
  cases dir : directory? ('*' :: '.' :: text) with
  | none => rfl
  | some directory =>
    have slash : '/' ∈ '*' :: '.' :: text := by simp [directory?_eq_some.mp dir]
    exact absurd (by simpa using slash) flat

theorem accepts?_extension {text path : List Char} (named : text ≠ []) (flat : '/' ∉ text) :
    accepts? ('*' :: '.' :: text) path = some true ↔ path = '*' :: '.' :: text ∨
      '/' ∈ path ∧ '.' ∉ text ∧
        ∃ base, base ≠ [] ∧ (pieces '/' path).getLast? = some (base ++ '.' :: text) := by
  have form_eq : form ('*' :: '.' :: text) = .extension text := by
    simp [form, directory?_extension flat, extension?]
  rw [← hasExtension?_iff named]
  by_cases same : path = '*' :: '.' :: text
  · simp [accepts?, same]
  · simp [accepts?, same, Ne.symm same, form_eq]

theorem accepts?_literal {pattern path : List Char} (dir : directory? pattern = none)
    (ext : extension? pattern = none) : accepts? pattern path = some true ↔ pattern = path := by
  simp [accepts?, form, dir, ext]

/-! ### What patterns select and which are acceptable -/

/-- What a pattern selects, said in terms of the segments of a path. -/
inductive Selects : List Char → List Char → Prop where
  | everything (path : List Char) : Selects ['/', '*'] path
  | below {directory path : List Char} :
      directory ≠ [] → pieces '/' directory <+: pieces '/' path →
      Selects (directory ++ ['/', '*']) path
  | extension {text base path : List Char} :
      '/' ∈ path → (pieces '/' path).getLast? = some (base ++ '.' :: text) → base ≠ [] →
      '.' ∉ text → Selects ('*' :: '.' :: text) path
  /-- Patterns of the other forms, and extension patterns too, select the path they spell. -/
  | itself {pattern : List Char} :
      (∀ directory, pattern ≠ directory ++ ['/', '*']) → Selects pattern pattern

def Unbroken (s : List Char) : Prop := '\n' ∉ s ∧ '\r' ∉ s

inductive WellFormed : List Char → Prop where
  | star : WellFormed ['*']
  | root : WellFormed []
  | extension {text : List Char} :
      text ≠ [] → '/' ∉ text → '*' ∉ text → Unbroken text → WellFormed ('*' :: '.' :: text)
  /-- The only star of a path stands in a final `/*`. -/
  | path {pattern body : List Char} :
      pattern.head? = some '/' → Unbroken pattern →
      pattern = body ∨ pattern = body ++ ['/', '*'] → '*' ∉ body → WellFormed pattern

theorem WellFormed.text {text : List Char} (formed : WellFormed ('*' :: '.' :: text)) :
    text ≠ [] ∧ '/' ∉ text := by
  cases formed with
  | extension named flat => exact ⟨named, flat⟩
  | path starts => simp at starts

theorem isValidChars_iff {pattern : List Char} : isValidChars pattern ↔ WellFormed pattern := by
  constructor
  · intro valid
    by_cases special : pattern = ['*'] ∨ pattern = []
    · obtain rfl | rfl := special
      · exact .star
      · exact .root
    by_cases broken : '\n' ∈ pattern ∨ '\r' ∈ pattern
    · simp [isValidChars, special, broken] at valid
    have unbroken : Unbroken pattern := not_or.mp broken
    cases ext : extension? pattern with
    | some text =>
      simp only [isValidChars, special, broken, ext, if_false, Bool.and_eq_true] at valid
      obtain ⟨⟨named, flat⟩, starless⟩ : (text ≠ [] ∧ '/' ∉ text) ∧ '*' ∉ text := by
        simpa using valid
      obtain rfl := extension?_eq_some.mp ext
      exact .extension named flat starless (by simpa [Unbroken] using unbroken)
    | none =>
      simp only [isValidChars, special, broken, ext, if_false, Bool.and_eq_true] at valid
      obtain ⟨starts, starless⟩ :
          pattern.head? = some '/' ∧ '*' ∉ (directory? pattern).getD pattern := by
        simpa using valid
      cases dir : directory? pattern with
      | some directory =>
        exact .path starts unbroken (.inr (directory?_eq_some.mp dir)) (by simpa [dir] using starless)
      | none => exact .path starts unbroken (.inl rfl) (by simpa [dir] using starless)
  · intro formed
    cases formed with
    | star => rfl
    | root => rfl
    | @extension text named flat starless unbroken =>
      simp [isValidChars, unbroken.1, unbroken.2, extension?, named, flat, starless]
    | @path _ body starts unbroken shape starless =>
      have special : ¬ (pattern = ['*'] ∨ pattern = []) := by
        rintro (rfl | rfl) <;> simp at starts
      have ext : extension? pattern = none := by
        cases found : extension? pattern with
        | none => rfl
        | some text => simp [extension?_eq_some.mp found] at starts
      have clean : ¬ ('\n' ∈ pattern ∨ '\r' ∈ pattern) := not_or.mpr unbroken
      have kept : (directory? pattern).getD pattern = body := by
        obtain rfl | split := shape
        · cases dir : directory? pattern with
          | none => rfl
          | some directory => simp [directory?_eq_some.mp dir] at starless
        · rw [directory?_eq_some.mpr split]
          rfl
      simp [isValidChars, special, clean, ext, kept, starts, starless]

theorem selects_below {directory path : List Char} (proper : directory ≠ [])
    (flat : ∀ text, directory ++ ['/', '*'] = '*' :: '.' :: text → '/' ∉ text) :
    Selects (directory ++ ['/', '*']) path ↔ pieces '/' directory <+: pieces '/' path := by
  constructor
  · intro selects
    generalize split : directory ++ ['/', '*'] = pattern at selects
    cases selects with
    | everything => exact absurd (List.append_left_eq_self.mp split) proper
    | below _ leads => rwa [List.append_cancel_right split]
    | @extension text =>
      have slash : '/' ∈ '*' :: '.' :: text := by simp [← split]
      exact absurd (by simpa using slash) (flat text split)
    | itself other => exact absurd split.symm (other directory)
  · exact .below proper

theorem selects_extension {text path : List Char} (flat : '/' ∉ text) :
    Selects ('*' :: '.' :: text) path ↔ path = '*' :: '.' :: text ∨
      '/' ∈ path ∧ '.' ∉ text ∧
        ∃ base, base ≠ [] ∧ (pieces '/' path).getLast? = some (base ++ '.' :: text) := by
  have other (directory : List Char) : '*' :: '.' :: text ≠ directory ++ ['/', '*'] := by
    intro split
    simpa [directory?_extension flat] using directory?_eq_some.mpr split
  constructor
  · intro selects
    generalize split : '*' :: '.' :: text = pattern at selects
    cases selects with
    | everything => exact absurd split (other [])
    | below => exact absurd split (other _)
    | extension below last proper plain =>
      obtain rfl : text = _ := by simpa using split
      exact .inr ⟨below, plain, _, proper, last⟩
    | itself => exact .inl rfl
  · rintro (rfl | ⟨below, plain, base, proper, last⟩)
    · exact .itself other
    · exact .extension below last proper plain

theorem selects_literal {pattern path : List Char}
    (other : ∀ directory, pattern ≠ directory ++ ['/', '*'])
    (noText : ∀ text, pattern ≠ '*' :: '.' :: text) :
    Selects pattern path ↔ pattern = path := by
  constructor
  · intro selects
    cases selects with
    | everything => exact absurd rfl (other [])
    | below => exact absurd rfl (other _)
    | extension => exact absurd rfl (noText _)
    | itself => rfl
  · rintro rfl
    exact .itself other

/-- The matcher answers by the segments of the path. -/
theorem accepts?_iff {pattern path : List Char}
    (named : ∀ text, pattern = '*' :: '.' :: text → text ≠ [] ∧ '/' ∉ text) :
    accepts? pattern path = some true ↔ Selects pattern path := by
  cases dir : directory? pattern with
  | some directory =>
    obtain rfl := directory?_eq_some.mp dir
    by_cases proper : directory = []
    · subst proper
      exact iff_of_true (accepts?_everything path) (.everything path)
    · rw [accepts?_below proper, selects_below proper fun text h => (named text h).2]
  | none =>
    cases ext : extension? pattern with
    | some text =>
      obtain rfl := extension?_eq_some.mp ext
      obtain ⟨given, flat⟩ := named text rfl
      rw [accepts?_extension given flat, selects_extension flat]
    | none =>
      have other (directory : List Char) : pattern ≠ directory ++ ['/', '*'] := fun h => by
        simp [directory?_eq_some.mpr h] at dir
      have noText (text : List Char) : pattern ≠ '*' :: '.' :: text := fun h => by
        simp [extension?_eq_some.mpr h] at ext
      rw [accepts?_literal dir ext, selects_literal other noText]

/-! ### Patterns and paths as strings -/

theorem accepts?_eq_some (pattern path : String) :
    accepts? pattern.toList path.toList = some (accepts pattern path) :=
  (Option.some_get (accepts?_isSome pattern.toList path.toList)).symm

theorem accepts_iff {pattern path : String} (valid : isValid pattern) :
    accepts pattern path ↔ Selects pattern.toList path.toList := by
  rw [← accepts?_iff fun text h => (h ▸ isValidChars_iff.mp valid).text, accepts?_eq_some,
    Option.some.injEq]

/-- Matching never cuts inside a character and means what the segments say; the patterns that
pass the test are the well-formed ones. -/
theorem accepts_meaning :
    (∀ pattern path : String, accepts? pattern.toList path.toList = some (accepts pattern path)) ∧
    (∀ pattern : String, isValid pattern ↔ WellFormed pattern.toList) ∧
    ∀ pattern path : String, isValid pattern →
      (accepts pattern path ↔ Selects pattern.toList path.toList) :=
  ⟨accepts?_eq_some, fun _ => isValidChars_iff, fun _ _ valid => accepts_iff valid⟩

theorem accepts_meaning_below :
    isValid "/ä/*" ∧ (accepts "/ä/*" "/ä/b" ↔ Selects "/ä/*".toList "/ä/b".toList) :=
  ⟨by decide +kernel, accepts_meaning.2.2 "/ä/*" "/ä/b" (by decide +kernel)⟩

/-! ### Files in a directory -/

section Files

variable {ext : String}

theorem toList_extension (ext : String) : ("*." ++ ext).toList = '*' :: '.' :: ext.toList := by
  simp [String.toList_append]

theorem isValid_extension (valid : isValid ("*." ++ ext)) : ext.toList ≠ [] ∧ '/' ∉ ext.toList := by
  have formed := isValidChars_iff.mp valid
  rw [toList_extension] at formed
  exact formed.text

theorem accepts_extension {path : String} (valid : isValid ("*." ++ ext)) :
    accepts ("*." ++ ext) path ↔ path = "*." ++ ext ∨
      '/' ∈ path.toList ∧ '.' ∉ ext.toList ∧
        ∃ base, base ≠ [] ∧
          (pieces '/' path.toList).getLast? = some (base ++ '.' :: ext.toList) := by
  rw [accepts_iff valid, toList_extension, selects_extension (isValid_extension valid).2,
    ← toList_extension, String.toList_inj]

/-- An extension pattern selects the files with its extension in every directory, unless the
extension has a period itself; then the pattern selects nothing but its own text. -/
theorem extension_reach (ext : String) (valid : isValid ("*." ++ ext)) :
    (∀ directory base : String, directory.toList.getLast? = some '/' → base ≠ "" →
      '/' ∉ base.toList →
      (accepts ("*." ++ ext) (directory ++ base ++ "." ++ ext) ↔ '.' ∉ ext.toList)) ∧
    ('.' ∈ ext.toList → ∀ path, accepts ("*." ++ ext) path ↔ path = "*." ++ ext) := by
  have flat := (isValid_extension valid).2
  constructor
  · intro directory base ends proper level
    obtain ⟨above, split⟩ := List.getLast?_eq_some_iff.mp ends
    have text : (directory ++ base ++ "." ++ ext).toList =
        above ++ '/' :: (base.toList ++ '.' :: ext.toList) := by
      simp [String.toList_append, split]
    have last : (pieces '/' (above ++ '/' :: (base.toList ++ '.' :: ext.toList))).getLast? =
        some (base.toList ++ '.' :: ext.toList) := pieces_getLast? above (by simp [level, flat])
    rw [accepts_extension valid, text, last]
    constructor
    · rintro (same | ⟨-, plain, -⟩)
      · have slash : '/' ∈ ("*." ++ ext).toList := by simp [← same, text]
        simp [flat] at slash
      · exact plain
    · intro plain
      exact .inr ⟨by simp, plain, base.toList, by simpa using proper, rfl⟩
  · intro dotted path
    simp [accepts_extension valid, dotted]

theorem extension_reach_txt : isValid "*.txt" ∧ accepts "*.txt" "/a/b.txt" :=
  ⟨by decide +kernel,
    ((extension_reach "txt" (by decide +kernel)).1 "/a/" "b" (by decide +kernel)
      (by decide +kernel) (by decide +kernel)).mpr (by decide +kernel)⟩

/-- The text after the last period is what counts, so an extension with a period of its own
selects no file. -/
theorem extension_with_period :
    ¬ ∀ ext directory base : String, isValid ("*." ++ ext) → directory.toList.getLast? = some '/' →
      base ≠ "" → '/' ∉ base.toList → accepts ("*." ++ ext) (directory ++ base ++ "." ++ ext) := by
  intro claim
  exact absurd (claim "tar.gz" "/x/" "a" (by decide +kernel) (by decide +kernel) (by decide +kernel)
    (by decide +kernel)) (by decide +kernel)

end Files

end UrlPattern

end ServletFilters
