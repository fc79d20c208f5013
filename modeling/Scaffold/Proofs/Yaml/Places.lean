import Scaffold.Yaml.Writing

/-!
# Characters that can be shown, in their places

A text of characters that can be shown is put into its places as it is: it holds no spelling of a
line feed but the common one, no tab and no mark for the end. Behind the first column no document
starts or ends.
-/

namespace Scaffold.Yaml

section Placing

variable {char : Char} {rest : List Char} {index line column : Nat}

/-- Behind a line end, a new line starts. -/
theorem placeFrom_of_lineEnd (h : isLineEnd char = true) :
    placeFrom index line column (char :: rest) =
      ⟨char, index, line, column⟩ :: placeFrom (index + 1) (line + 1) 0 rest := by
  rw [placeFrom, if_pos h]

/-- Behind any other character, the line goes on. -/
theorem placeFrom_of_not_lineEnd (h : isLineEnd char = false) :
    placeFrom index line column (char :: rest) =
      ⟨char, index, line, column⟩ :: placeFrom (index + 1) line (column + 1) rest := by
  rw [placeFrom, if_neg (by rw [h]; exact Bool.false_ne_true)]

/-- What is seen first is the first character, or the mark of the end. -/
theorem peek_placeFrom (chars : List Char) :
    peek (placeFrom index line column chars) = chars.headD endMark := by
  cases chars <;> rfl

/-- The mark of the end has a place of its own. -/
theorem length_placeFrom (chars : List Char) :
    (placeFrom index line column chars).length = chars.length + 1 := by
  induction chars generalizing index line column with
  | nil => rfl
  | cons char rest ih =>
    rw [placeFrom, List.length_cons, List.length_cons]
    split <;> rw [ih]

end Placing

/-- A rule starts in the first column only. -/
theorem startsRule_of_column_pos {spot : Spot} (h : 0 < spot.column) (char : Char)
    (rest : List Spot) : startsRule char (spot :: rest) = false := by
  have hcolumn : (spot.column == 0) = false := by
    simp only [beq_eq_false_iff_ne]
    omega
  unfold startsRule
  split <;> simp_all

/-- No document starts or ends behind the first column. -/
theorem startsBoundary_of_column_pos {spot : Spot} (h : 0 < spot.column) (rest : List Spot) :
    startsBoundary (spot :: rest) = false := by
  rw [startsBoundary, startsRule_of_column_pos h, startsRule_of_column_pos h, Bool.or_self]

/-- A rule starts with its character. -/
theorem startsRule_of_ne {spot : Spot} {char : Char} (h : spot.char ≠ char) (rest : List Spot) :
    startsRule char (spot :: rest) = false := by
  unfold startsRule
  split <;> simp_all

/-- A document starts and ends with hyphens and points. -/
theorem startsBoundary_of_char {spot : Spot} (hyphen : spot.char ≠ '-') (point : spot.char ≠ '.')
    (rest : List Spot) : startsBoundary (spot :: rest) = false := by
  rw [startsBoundary, startsRule_of_ne hyphen, startsRule_of_ne point, Bool.or_self]

/-- No boundary starts with a space. -/
theorem startsBoundary_of_space {spot : Spot} (h : spot.char = ' ') (rest : List Spot) :
    startsBoundary (spot :: rest) = false :=
  startsBoundary_of_char (by rw [h]; decide) (by rw [h]; decide) rest

/-- Line ends are no hyphens and no points. -/
theorem startsBoundary_of_lineEnd {spot : Spot} (h : isLineEnd spot.char = true)
    (rest : List Spot) : startsBoundary (spot :: rest) = false := by
  have hne (other : Char) (hother : isLineEnd other = false) : spot.char ≠ other := by
    rintro hsame
    rw [hsame, hother] at h
    cases h
  exact startsBoundary_of_char (hne '-' (by decide)) (hne '.' (by decide)) rest

/-- A text with no other spelling of a line feed than the common one stays as it is. -/
theorem unifyFeeds_eq_self {chars : List Char} (h : ∀ char ∈ chars, char ≠ '\r' ∧ char ≠ '\u0085') :
    unifyFeeds chars = chars := by
  fun_induction unifyFeeds chars with
  | case1 => rfl
  | case2 rest _ => exact absurd rfl (h '\r' List.mem_cons_self).1
  | case3 char rest _ ih =>
    obtain ⟨⟨hreturn, hnext⟩, hrest⟩ := List.forall_mem_cons.mp h
    rw [ih hrest]
    simp [hreturn, hnext]

namespace Writing

variable {char other : Char}

/-- Characters of which one can be shown and the other cannot differ. -/
theorem ne_of_isPrintable (h : isPrintable char = true) (hother : isPrintable other = false) :
    char ≠ other := by
  rintro rfl
  rw [h] at hother
  cases hother

/-- What can be shown may stand in a text. -/
theorem isAllowed_of_isPrintable (h : isPrintable char = true) : isAllowed char = true := by
  unfold isPrintable at h
  unfold isAllowed
  simp only [Bool.or_eq_true, Bool.and_eq_true, beq_iff_eq, bne_iff_ne, decide_eq_true_iff] at h ⊢
  omega

/-- The only spacing that can be shown is a space. -/
theorem isSpacing_of_isPrintable (h : isPrintable char = true) :
    isSpacing char = (char == ' ') := by
  have htab : (char == '\t') = false := beq_eq_false_iff_ne.mpr (ne_of_isPrintable h (by decide))
  rw [isSpacing, htab, Bool.or_false]

theorem ne_endMark_of_isPrintable (h : isPrintable char = true) : (char == endMark) = false :=
  beq_eq_false_iff_ne.mpr (ne_of_isPrintable h (by decide))

variable {test : Char → Char → Bool} {first second : Char} {rest : List Char}

theorem hasNeighbours_cons_cons : hasNeighbours test (first :: second :: rest) =
    (test first second || hasNeighbours test (second :: rest)) := rfl

/-- Neighbours behind the first character are neighbours. -/
theorem hasNeighbours_of_cons (h : hasNeighbours test (first :: rest) = false) :
    hasNeighbours test rest = false := by
  cases rest with
  | nil => rfl
  | cons second others =>
    rw [hasNeighbours_cons_cons, Bool.or_eq_false_iff] at h
    exact h.2

/-- What has no such neighbours has none at its end. -/
theorem hasNeighbours_of_append {front back : List Char}
    (h : hasNeighbours test (front ++ back) = false) : hasNeighbours test back = false := by
  induction front with
  | nil => exact h
  | cons _ _ ih => exact ih (hasNeighbours_of_cons h)

/-- Neighbours anywhere in a text fail a test that its neighbours fail. -/
theorem not_of_hasNeighbours {front : List Char}
    (h : hasNeighbours test (front ++ first :: second :: rest) = false) :
    test first second = false := by
  have hback := hasNeighbours_of_append h
  rw [hasNeighbours_cons_cons, Bool.or_eq_false_iff] at hback
  exact hback.1

section Indentation

variable {rest : List Char}

/-- A line end is not indented, and a line starts behind it. -/
theorem indentLines_lineEnd (h : isLineEnd char = true) (fresh : Bool) :
    indentLines fresh (char :: rest) = char :: indentLines true rest := by
  rw [indentLines, if_pos h]

/-- Within a line, nothing is indented. -/
theorem indentLines_within (h : isLineEnd char = false) :
    indentLines false (char :: rest) = char :: indentLines false rest := by
  rw [indentLines, h]
  rfl

/-- At the start of a line two spaces stand before the first character. -/
theorem indentLines_fresh (h : isLineEnd char = false) :
    indentLines true (char :: rest) = ' ' :: ' ' :: char :: indentLines false rest := by
  rw [indentLines, h]
  rfl

end Indentation

end Writing

end Scaffold.Yaml
