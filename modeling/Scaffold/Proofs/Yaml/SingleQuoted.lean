import Scaffold.Proofs.Yaml.Places

/-!
# Texts between single quotes read back

Between single quotes each quote is written twice, and lines behind the first one are indented. The
scan drops the indentation and takes two quotes for one; line ends are kept as they are, because
only those that are not a line feed are written so, and no space stands beside them.
-/

namespace Scaffold.Yaml

open Writing

section Steps

variable {reversed : List Char} {gap : Gap} {spot next : Spot} {rest : List Spot}

/-- Spacing and line ends make a gap. -/
theorem scanSingleFrom_gap (h : (isSpacing spot.char || isLineEnd spot.char) = true)
    (boundary : startsBoundary (spot :: rest) = false) :
    scanSingleFrom reversed gap (spot :: rest) =
      scanSingleFrom reversed (gap.add spot.char) rest := by
  have hmark : (spot.char == endMark) = false := by
    rw [beq_eq_false_iff_ne]
    intro hmark
    rw [hmark] at h
    cases h
  rw [scanSingleFrom.eq_def]
  simp only [boundary, hmark, h, Bool.or_self, Bool.false_eq_true, if_false, if_true]

variable (boundary : startsBoundary (spot :: rest) = false)

include boundary

/-- Other characters are taken, with the gap before them. -/
theorem scanSingleFrom_char (shown : isPrintable spot.char = true)
    (space : spot.char ≠ ' ') (line : isLineEnd spot.char = false)
    (quote : spot.char ≠ singleQuote) :
    scanSingleFrom reversed gap (spot :: rest) =
      scanSingleFrom (spot.char :: (gap.fold.reverse ++ reversed)) .empty rest := by
  rw [scanSingleFrom.eq_def]
  simp only [boundary, ne_endMark_of_isPrintable shown, isSpacing_of_isPrintable shown,
    beq_eq_false_iff_ne.mpr space, line, beq_eq_false_iff_ne.mpr quote, Bool.or_self,
    Bool.false_eq_true, if_false]

/-- A quote alone ends the text. -/
theorem scanSingleFrom_close (quote : spot.char = singleQuote) (alone : peek rest ≠ singleQuote) :
    scanSingleFrom reversed gap (spot :: rest) =
      some ⟨reversed.reverse ++ gap.fold, false, rest⟩ := by
  have hmark : (singleQuote == endMark) = false := rfl
  have hspacing : (isSpacing singleQuote || isLineEnd singleQuote) = false := rfl
  have hgathered : (gap.fold.reverse ++ reversed).reverse = reversed.reverse ++ gap.fold := by
    rw [List.reverse_append, List.reverse_reverse]
  rw [scanSingleFrom.eq_def]
  simp only [boundary, quote, hmark, hspacing, hgathered, Bool.or_self, Bool.false_eq_true,
    if_false, BEq.rfl, if_true]
  cases rest with
  | nil => rfl
  | cons next others =>
    have hnext : (next.char == singleQuote) = false := beq_eq_false_iff_ne.mpr alone
    simp only [hnext, Bool.false_eq_true, if_false]

omit boundary

/-- Two quotes are one. -/
theorem scanSingleFrom_quotes (boundary : startsBoundary (spot :: next :: rest) = false)
    (quote : spot.char = singleQuote) (again : next.char = singleQuote) :
    scanSingleFrom reversed gap (spot :: next :: rest) =
      scanSingleFrom (singleQuote :: (gap.fold.reverse ++ reversed)) .empty rest := by
  rw [scanSingleFrom, boundary, quote, again]
  rfl

end Steps

/-- The text with each quote written twice. -/
def doubleQuotes (chars : List Char) : List Char :=
  chars.flatMap fun char => if char == singleQuote then [singleQuote, singleQuote] else [char]

/-- What is left of a text between single quotes behind a gap. -/
structure SingleRest (gap : Gap) (chars : List Char) : Prop where
  /-- All characters can be shown, and none is a line feed. -/
  shown : ∀ char ∈ chars, isPrintable char = true ∧ char ≠ '\n'
  /-- The gap is of spaces or of line ends other than line feeds. -/
  kind : (∃ spaces, gap = .spacing spaces ∧ ∀ char ∈ spaces, char = ' ') ∨
    ∃ first ends, gap = .lines (some first) ends ∧ first ≠ '\n' ∧
      ∀ char ∈ first :: ends, isLineEnd char = true
  /-- No space stands before a line end. -/
  before : hasSpaceBeforeEnd (gap.fold ++ chars) = false
  /-- No space stands behind a line end. -/
  after : hasSpaceAfterEnd (gap.fold ++ chars) = false

namespace SingleRest

variable {gap : Gap} {chars : List Char} {char : Char}

/-- The first of several line ends folds away. -/
theorem fold_lines {first : Char} (hfirst : first ≠ '\n') (ends : List Char) :
    (Gap.lines (some first) ends).fold = first :: ends.reverse := by
  unfold Gap.fold
  split
  · next h => cases h
  · next h =>
    cases h
    exact absurd rfl hfirst
  · next h =>
    cases h
    exact absurd rfl hfirst
  · next h =>
    cases h
    rfl

/-- Behind a character of a word. -/
theorem behind_char (h : SingleRest gap (char :: chars)) : SingleRest .empty chars where
  shown := fun other hm => h.shown other (List.mem_cons_of_mem _ hm)
  kind := .inl ⟨[], rfl, List.forall_mem_nil _⟩
  before := hasNeighbours_of_cons (hasNeighbours_of_append h.before)
  after := hasNeighbours_of_cons (hasNeighbours_of_append h.after)

/-- A gap that stands for one more character. -/
theorem of_fold {wider : Gap} (h : SingleRest gap (char :: chars))
    (fold : wider.fold = gap.fold ++ [char])
    (kind : (∃ spaces, wider = .spacing spaces ∧ ∀ char ∈ spaces, char = ' ') ∨
      ∃ first ends, wider = .lines (some first) ends ∧ first ≠ '\n' ∧
        ∀ char ∈ first :: ends, isLineEnd char = true) : SingleRest wider chars where
  shown := fun other hm => h.shown other (List.mem_cons_of_mem _ hm)
  kind := kind
  before := by
    rw [fold, List.append_assoc]
    exact h.before
  after := by
    rw [fold, List.append_assoc]
    exact h.after

/-- A space goes on with spaces. -/
theorem behind_space (h : SingleRest gap (' ' :: chars)) :
    gap.isBroken = false ∧ (gap.add ' ').isBroken = false ∧
      (gap.add ' ').fold = gap.fold ++ [' '] ∧ SingleRest (gap.add ' ') chars := by
  obtain ⟨spaces, rfl, hspaces⟩ | ⟨first, ends, rfl, hfirst, hends⟩ := h.kind
  · have hfold : (Gap.add ' ' (.spacing spaces)).fold = (Gap.spacing spaces).fold ++ [' '] :=
      List.reverse_cons
    refine ⟨rfl, rfl, hfold, h.of_fold hfold (.inl ⟨' ' :: spaces, rfl, ?_⟩)⟩
    exact List.forall_mem_cons.mpr ⟨rfl, hspaces⟩
  · -- a space behind a line end is written otherwise
    have hafter := h.after
    rw [fold_lines hfirst] at hafter
    exfalso
    cases ends with
    | nil =>
      have htest := @not_of_hasNeighbours _ _ _ _ [] hafter
      rw [hends first List.mem_cons_self] at htest
      cases htest
    | cons last others =>
      rw [List.reverse_cons, ← List.cons_append, List.append_assoc] at hafter
      have htest := not_of_hasNeighbours hafter
      rw [hends last (List.mem_cons_of_mem _ List.mem_cons_self)] at htest
      cases htest

/-- A line end goes on with line ends. -/
theorem behind_lineEnd (h : SingleRest gap (char :: chars)) (line : isLineEnd char = true) :
    (gap.add char).isBroken = true ∧ (gap.add char).fold = gap.fold ++ [char] ∧
      SingleRest (gap.add char) chars := by
  have hfeed := (h.shown char List.mem_cons_self).2
  obtain ⟨spaces, rfl, hspaces⟩ | ⟨first, ends, rfl, hfirst, hends⟩ := h.kind
  · cases spaces with
    | nil =>
      have hadd : Gap.add char (.spacing []) = .lines (some char) [] := by rw [Gap.add, line]; rfl
      rw [hadd]
      have hfold := fold_lines hfeed []
      refine ⟨rfl, hfold, h.of_fold hfold (.inr ⟨char, [], rfl, hfeed, ?_⟩)⟩
      exact List.forall_mem_cons.mpr ⟨line, List.forall_mem_nil _⟩
    | cons last others =>
      -- a space before a line end is written otherwise
      have hbefore := h.before
      have hlist : (Gap.spacing (last :: others)).fold ++ char :: chars =
          others.reverse ++ last :: char :: chars := by
        rw [Gap.fold, List.reverse_cons, List.append_assoc, List.singleton_append]
      rw [hlist] at hbefore
      have htest := not_of_hasNeighbours hbefore
      rw [hspaces last List.mem_cons_self, line] at htest
      cases htest
  · have hadd : Gap.add char (.lines (some first) ends) = .lines (some first) (char :: ends) := by
      rw [Gap.add, line]
      rfl
    have hfold : (Gap.lines (some first) (char :: ends)).fold =
        (Gap.lines (some first) ends).fold ++ [char] := by
      rw [fold_lines hfirst, fold_lines hfirst, List.reverse_cons]
      rfl
    rw [hadd]
    refine ⟨rfl, hfold, h.of_fold hfold (.inr ⟨first, char :: ends, rfl, hfirst, ?_⟩)⟩
    obtain ⟨hhead, htail⟩ := List.forall_mem_cons.mp hends
    exact List.forall_mem_cons.mpr ⟨hhead, List.forall_mem_cons.mpr ⟨line, htail⟩⟩

end SingleRest

theorem doubleQuotes_cons_quote (rest : List Char) :
    doubleQuotes (singleQuote :: rest) = singleQuote :: singleQuote :: doubleQuotes rest := rfl

theorem doubleQuotes_cons_of_ne {char : Char} (h : char ≠ singleQuote) (rest : List Char) :
    doubleQuotes (char :: rest) = char :: doubleQuotes rest := by
  rw [doubleQuotes, List.flatMap_cons, beq_eq_false_iff_ne.mpr h]
  rfl

section Indentation

variable {gap : Gap} {char : Char} {column : Nat}

/-- The scan goes over the indentation of a line to its first character. -/
theorem exists_scanSingleFrom_indentLines (atStart : column = 0 ↔ gap.isBroken = true)
    (hline : isLineEnd char = false) (rest tail reversed : List Char) (index line : Nat) :
    ∃ index' column', 0 < column' ∧
      scanSingleFrom reversed gap
          (placeFrom index line column (indentLines gap.isBroken (char :: rest) ++ tail)) =
        scanSingleFrom reversed gap (⟨char, index', line, column'⟩ ::
          placeFrom (index' + 1) line (column' + 1) (indentLines false rest ++ tail)) := by
  cases gap with
  | spacing spaces =>
    have hinside : 0 < column := by
      have hcolumn : column ≠ 0 := fun h => absurd (atStart.mp h) Bool.false_ne_true
      omega
    refine ⟨index, column, hinside, ?_⟩
    rw [Gap.isBroken, indentLines_within hline, List.cons_append, placeFrom_of_not_lineEnd hline]
  | lines first ends =>
    refine ⟨index + 1 + 1, column + 1 + 1, Nat.succ_pos _, ?_⟩
    have hspace : isLineEnd ' ' = false := rfl
    rw [Gap.isBroken, indentLines_fresh hline, List.cons_append, List.cons_append,
      List.cons_append, placeFrom_of_not_lineEnd hspace, placeFrom_of_not_lineEnd hspace,
      placeFrom_of_not_lineEnd hline, scanSingleFrom_gap rfl (startsBoundary_of_space rfl _),
      scanSingleFrom_gap rfl (startsBoundary_of_space rfl _)]
    rfl

/-- The scan takes a character of a word, behind indentation or not, and be it a quote. -/
theorem exists_scanSingleFrom_word (atStart : column = 0 ↔ gap.isBroken = true)
    (shown : isPrintable char = true) (space : char ≠ ' ') (hline : isLineEnd char = false)
    (rest tail reversed : List Char) (index line : Nat) :
    ∃ index' column', 0 < column' ∧
      scanSingleFrom reversed gap (placeFrom index line column
          (indentLines gap.isBroken (doubleQuotes (char :: rest) ++ [singleQuote]) ++ tail)) =
        scanSingleFrom (char :: (gap.fold.reverse ++ reversed)) .empty
          (placeFrom index' line column'
            (indentLines false (doubleQuotes rest ++ [singleQuote]) ++ tail)) := by
  by_cases hquote : char = singleQuote
  · subst hquote
    obtain ⟨index', column', hinside, henter⟩ := exists_scanSingleFrom_indentLines atStart hline
      (singleQuote :: (doubleQuotes rest ++ [singleQuote])) tail reversed index line
    refine ⟨index' + 1 + 1, column' + 1 + 1, Nat.succ_pos _, ?_⟩
    rw [doubleQuotes_cons_quote, List.cons_append, List.cons_append, henter,
      indentLines_within hline, List.cons_append, placeFrom_of_not_lineEnd hline,
      scanSingleFrom_quotes (startsBoundary_of_column_pos hinside _) rfl rfl]
  · obtain ⟨index', column', hinside, henter⟩ := exists_scanSingleFrom_indentLines atStart hline
      (doubleQuotes rest ++ [singleQuote]) tail reversed index line
    refine ⟨index' + 1, column' + 1, Nat.succ_pos _, ?_⟩
    rw [doubleQuotes_cons_of_ne hquote, List.cons_append, henter,
      scanSingleFrom_char (startsBoundary_of_column_pos hinside _) shown space hline hquote]

/-- The scan puts a line end into the gap. -/
theorem scanSingleFrom_lineEnd (hline : isLineEnd char = true) (rest tail reversed : List Char)
    (index line : Nat) :
    scanSingleFrom reversed gap (placeFrom index line column
        (indentLines gap.isBroken (doubleQuotes (char :: rest) ++ [singleQuote]) ++ tail)) =
      scanSingleFrom reversed (gap.add char) (placeFrom (index + 1) (line + 1) 0
        (indentLines true (doubleQuotes rest ++ [singleQuote]) ++ tail)) := by
  have hquote : char ≠ singleQuote := by
    rintro rfl
    cases hline
  have hgap : (isSpacing char || isLineEnd char) = true := by rw [hline, Bool.or_true]
  rw [doubleQuotes_cons_of_ne hquote, List.cons_append, indentLines_lineEnd hline, List.cons_append,
    placeFrom_of_lineEnd hline, scanSingleFrom_gap hgap (startsBoundary_of_lineEnd hline _)]

/-- The scan puts a space within a line into the gap. -/
theorem scanSingleFrom_space (flat : gap.isBroken = false) (rest tail reversed : List Char)
    (index line : Nat) :
    scanSingleFrom reversed gap (placeFrom index line column
        (indentLines gap.isBroken (doubleQuotes (' ' :: rest) ++ [singleQuote]) ++ tail)) =
      scanSingleFrom reversed (gap.add ' ') (placeFrom (index + 1) line (column + 1)
        (indentLines false (doubleQuotes rest ++ [singleQuote]) ++ tail)) := by
  have hspace : isLineEnd ' ' = false := rfl
  have hquote : ' ' ≠ singleQuote := by decide
  rw [doubleQuotes_cons_of_ne hquote, flat, List.cons_append, indentLines_within hspace,
    List.cons_append, placeFrom_of_not_lineEnd hspace,
    scanSingleFrom_gap rfl (startsBoundary_of_space rfl _)]

end Indentation

/-- Scanning goes on to the quote behind the text. -/
theorem SingleRest.scanSingleFrom {gap : Gap} {chars : List Char} (h : SingleRest gap chars)
    (reversed : List Char) (index line : Nat) {column : Nat}
    (atStart : column = 0 ↔ gap.isBroken = true) :
    ∃ index' line' column', scanSingleFrom reversed gap (placeFrom index line column
        (indentLines gap.isBroken (doubleQuotes chars ++ [singleQuote]) ++ ['\n'])) =
      some ⟨reversed.reverse ++ gap.fold ++ chars, false,
        placeFrom index' line' column' ['\n']⟩ := by
  induction chars generalizing gap reversed index line column with
  | nil =>
    have hquote : isLineEnd singleQuote = false := rfl
    obtain ⟨index', column', hinside, henter⟩ :=
      exists_scanSingleFrom_indentLines atStart hquote [] ['\n'] reversed index line
    have halone : peek (placeFrom (index' + 1) line (column' + 1) ['\n']) ≠ singleQuote := by
      rw [peek_placeFrom]
      decide
    refine ⟨index' + 1, line, column' + 1, ?_⟩
    rw [List.append_nil]
    exact henter.trans (scanSingleFrom_close (startsBoundary_of_column_pos hinside _) rfl halone)
  | cons char rest ih =>
    obtain ⟨hprintable, -⟩ := h.shown char List.mem_cons_self
    cases hline : isLineEnd char with
    | true =>
      obtain ⟨hbroken, hfold, hrest⟩ := h.behind_lineEnd hline
      obtain ⟨index', line', column', hscan⟩ :=
        ih hrest reversed (index + 1) (line + 1) (iff_of_true rfl hbroken)
      refine ⟨index', line', column', ?_⟩
      rw [hbroken] at hscan
      rw [scanSingleFrom_lineEnd hline, hscan, hfold]
      simp
    | false =>
      by_cases hspace : char = ' '
      · subst hspace
        obtain ⟨hflat, hsame, hfold, hrest⟩ := h.behind_space
        obtain ⟨index', line', column', hscan⟩ := ih hrest reversed (index + 1) line
          (iff_of_false (Nat.succ_ne_zero column) (Bool.eq_false_iff.mp hsame))
        refine ⟨index', line', column', ?_⟩
        rw [hsame] at hscan
        rw [scanSingleFrom_space hflat, hscan, hfold]
        simp
      · obtain ⟨index₁, column₁, hinside, htake⟩ := exists_scanSingleFrom_word atStart hprintable
          hspace hline rest ['\n'] reversed index line
        obtain ⟨index', line', column', hscan⟩ := ih h.behind_char
          (char :: (gap.fold.reverse ++ reversed)) index₁ line
          (iff_of_false (Nat.ne_of_gt hinside) Bool.false_ne_true)
        refine ⟨index', line', column', htake.trans (hscan.trans ?_)⟩
        simp [Gap.fold, Gap.empty]

end Scaffold.Yaml
