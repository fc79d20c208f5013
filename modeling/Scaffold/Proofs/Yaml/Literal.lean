import Scaffold.Proofs.Yaml.Places
import Scaffold.Yaml.Token.Block

/-!
# Literal blocks read back

A text of several lines that starts with neither a space nor a line end is written as a literal
block of indented lines, and its last line end, which is not its own, is dropped. The scan takes the
indentation from the first line and keeps everything else as it is.
-/

namespace Scaffold.Yaml

open Writing

/-- What was read of a block, in reverse, with the line ends behind it. -/
def BlockText.gathered (text : BlockText) : List Char :=
  text.emptyEnds ++ text.lineEnd?.toList ++ text.reversed

/-- Without folding, a new line puts all line ends before it into the text. -/
theorem BlockText.openLine_literal (text : BlockText) (startsIndented : Bool) :
    text.openLine false startsIndented = ⟨text.gathered, none, [], startsIndented⟩ := rfl

section Steps

variable {setting : BlockSetting} {text : BlockText} {char : Char} {rest tail : List Char}
  {indent? : Option Nat} {widest index line : Nat}

/-- Spaces in the margin are no part of the text. -/
theorem scanBlockFrom_margin {spot : Spot} {rest : List Spot} (space : spot.char = ' ')
    (outside : indent?.all (spot.column < ·) = true) :
    scanBlockFrom setting text (.margin indent? widest) (spot :: rest) =
      scanBlockFrom setting text (.margin indent? (max widest spot.column)) rest := by
  rw [scanBlockFrom, outside, space]
  rfl

/-- An empty line adds its end. -/
theorem scanBlockFrom_empty {spot : Spot} {rest : List Spot} (hline : isLineEnd spot.char = true) :
    scanBlockFrom setting text (.margin indent? widest) (spot :: rest) =
      scanBlockFrom setting { text with emptyEnds := spot.char :: text.emptyEnds }
        (.margin indent? (max widest spot.column)) rest := by
  have hne (other : Char) (hother : isLineEnd other = false) : (spot.char == other) = false := by
    rw [beq_eq_false_iff_ne]
    rintro hsame
    rw [hsame, hother] at hline
    cases hline
  rw [scanBlockFrom, hline, hne ' ' rfl, hne '\t' rfl]
  simp only [Bool.and_false, Bool.false_eq_true, if_false, if_true]

/-- A line end is held back until more text follows. -/
theorem scanBlockFrom_lineEnd {spot : Spot} {rest : List Spot} {indent : Nat}
    (hline : isLineEnd spot.char = true) :
    scanBlockFrom setting text (.line indent) (spot :: rest) =
      scanBlockFrom setting { text with lineEnd? := some spot.char } (.margin (some indent) 0)
        rest := by
  rw [scanBlockFrom, if_pos hline]

/-- A character of a line is part of the text. -/
theorem scanBlockFrom_char {spot : Spot} {rest : List Spot} {indent : Nat}
    (shown : isPrintable spot.char = true) (hline : isLineEnd spot.char = false) :
    scanBlockFrom setting text (.line indent) (spot :: rest) =
      scanBlockFrom setting (text.add spot.char) (.line indent) rest := by
  rw [scanBlockFrom, hline, ne_endMark_of_isPrintable shown]
  rfl

/-- A line is opened by its first character at the indentation. -/
theorem scanBlockFrom_open {spot : Spot} {rest : List Spot} (flat : setting.folds = false)
    (shown : isPrintable spot.char = true) (hline : isLineEnd spot.char = false)
    (column : indent?.getD (max (max widest spot.column) setting.least) = spot.column)
    (margin : indent? = some spot.column ∨ spot.char ≠ ' ') :
    scanBlockFrom setting text (.margin indent? widest) (spot :: rest) =
      scanBlockFrom setting ⟨spot.char :: text.gathered, none, [], isSpacing spot.char⟩
        (.line spot.column) rest := by
  have htab : (spot.char == '\t') = false :=
    beq_eq_false_iff_ne.mpr (ne_of_isPrintable shown (by decide))
  have hmargin : (indent?.all (spot.column < ·) && spot.char == ' ') = false := by
    obtain rfl | hne := margin
    · simp
    · simp [hne]
  have hmark : (spot.char != endMark) = true := by
    rw [bne, ne_endMark_of_isPrintable shown]
    rfl
  rw [scanBlockFrom, flat, BlockText.openLine_literal]
  simp only [hmargin, htab, hline, column, hmark, BEq.rfl, Bool.and_false, Bool.and_self,
    Bool.false_eq_true, if_false, if_true]
  rfl

/-- The indentation of a line and its first character, where the indentation is known or is to be
found out. -/
theorem scanBlockFrom_indented (flat : setting.folds = false) (least : setting.least ≤ 2)
    (shown : isPrintable char = true) (hline : isLineEnd char = false)
    (place : indent? = some 2 ∨ indent? = none ∧ widest ≤ 2 ∧ char ≠ ' ') :
    scanBlockFrom setting text (.margin indent? widest)
        (placeFrom index line 0 (indentLines true (char :: rest) ++ tail)) =
      scanBlockFrom setting ⟨char :: text.gathered, none, [], isSpacing char⟩ (.line 2)
        (placeFrom (index + 1 + 1 + 1) line 3 (indentLines false rest ++ tail)) := by
  have hspace : isLineEnd ' ' = false := rfl
  have houtside (column : Nat) (h : column < 2) : indent?.all (column < ·) = true := by
    obtain rfl | ⟨rfl, -, -⟩ := place
    · exact decide_eq_true h
    · rfl
  rw [indentLines_fresh hline, List.cons_append, List.cons_append, List.cons_append,
    placeFrom_of_not_lineEnd hspace, placeFrom_of_not_lineEnd hspace,
    placeFrom_of_not_lineEnd hline, scanBlockFrom_margin rfl (houtside 0 (by decide)),
    scanBlockFrom_margin rfl (houtside 1 (by decide))]
  refine scanBlockFrom_open flat shown hline ?_ ?_
  · obtain rfl | ⟨rfl, hwidest, -⟩ := place
    · rfl
    · change max (max (max (max widest 0) 1) 2) setting.least = 2
      omega
  · obtain rfl | ⟨-, -, hne⟩ := place
    · exact .inl rfl
    · exact .inr hne

end Steps

/-- Scanning goes on to the end of a block whose text does not end in a line end, from within a line
and from the start of a line. -/
theorem exists_scanBlockFrom (setting : BlockSetting) (flat : setting.folds = false)
    (strip : setting.chomping = .strip) (least : setting.least ≤ 2) {chars : List Char}
    (shown : ∀ char ∈ chars, isPrintable char = true)
    (last : ∀ char ∈ chars.getLast?, isLineEnd char = false) :
    (∀ (text : BlockText) (index line column : Nat), text.emptyEnds = [] →
      ∃ index' line', scanBlockFrom setting text (.line 2)
          (placeFrom index line column (indentLines false chars ++ ['\n'])) =
        some ⟨text.reversed.reverse ++ chars, false, [⟨endMark, index', line', 0⟩]⟩) ∧
      (chars ≠ [] → ∀ (text : BlockText) (widest index line : Nat),
        ∃ index' line', scanBlockFrom setting text (.margin (some 2) widest)
            (placeFrom index line 0 (indentLines true chars ++ ['\n'])) =
          some ⟨text.gathered.reverse ++ chars, false, [⟨endMark, index', line', 0⟩]⟩) := by
  induction chars with
  | nil =>
    refine ⟨fun text index line column _ => ⟨index + 1, line + 1, ?_⟩, fun h => absurd rfl h⟩
    change some (ScalarScan.mk (BlockText.close setting.chomping _) _ _) = _
    rw [strip, List.append_nil]
    rfl
  | cons char rest ih =>
    obtain ⟨hchar, hrest⟩ := List.forall_mem_cons.mp shown
    have hending : ∀ other ∈ rest.getLast?, isLineEnd other = false := by
      intro other hother
      cases rest with
      | nil => cases hother
      | cons next others => exact last other hother
    obtain ⟨hwithin, hmargin⟩ := ih hrest hending
    cases hline : isLineEnd char with
    | true =>
      have hmore : rest ≠ [] := by
        rintro rfl
        rw [last char rfl] at hline
        cases hline
      constructor
      · intro text index line column hempty
        obtain ⟨index', line', hscan⟩ :=
          hmargin hmore { text with lineEnd? := some char } 0 (index + 1) (line + 1)
        refine ⟨index', line', ?_⟩
        rw [indentLines_lineEnd hline, List.cons_append, placeFrom_of_lineEnd hline,
          scanBlockFrom_lineEnd hline, hscan, BlockText.gathered, hempty]
        simp
      · intro _ text widest index line
        obtain ⟨index', line', hscan⟩ := hmargin hmore
          { text with emptyEnds := char :: text.emptyEnds } (max widest 0) (index + 1) (line + 1)
        refine ⟨index', line', ?_⟩
        rw [indentLines_lineEnd hline, List.cons_append, placeFrom_of_lineEnd hline,
          scanBlockFrom_empty hline, hscan]
        simp [BlockText.gathered]
    | false =>
      constructor
      · intro text index line column hempty
        obtain ⟨index', line', hscan⟩ :=
          hwithin (text.add char) (index + 1) line (column + 1) hempty
        refine ⟨index', line', ?_⟩
        rw [indentLines_within hline, List.cons_append, placeFrom_of_not_lineEnd hline,
          scanBlockFrom_char hchar hline, hscan]
        simp [BlockText.add]
      · intro _ text widest index line
        obtain ⟨index', line', hscan⟩ := hwithin
          ⟨char :: text.gathered, none, [], isSpacing char⟩ (index + 1 + 1 + 1) line 3 rfl
        refine ⟨index', line', ?_⟩
        rw [scanBlockFrom_indented flat least hchar hline (.inl rfl), hscan]
        simp

/-- The last line end of a literal block is not kept, if the text does not end in one. -/
theorem chompingSign_of_last {chars : List Char}
    (last : ∀ char ∈ chars.getLast?, isLineEnd char = false) : chompingSign chars = ['-'] := by
  unfold chompingSign
  split
  · rfl
  · next char hchars =>
    have hlast : chars.getLast? = some char := by
      rw [← List.head?_reverse, hchars]
      rfl
    rw [last char hlast]
    rfl
  · next char previous others hchars =>
    have hlast : chars.getLast? = some char := by
      rw [← List.head?_reverse, hchars]
      rfl
    rw [last char hlast]
    rfl

/-- A literal block is scanned as the text that was written. -/
theorem exists_scanBlock_literal {chars : List Char} (nonempty : chars ≠ [])
    (shown : ∀ char ∈ chars, isPrintable char = true)
    (first : ∀ char ∈ chars.head?, char ≠ ' ' ∧ isLineEnd char = false)
    (last : ∀ char ∈ chars.getLast?, isLineEnd char = false) (index line column : Nat) :
    ∃ index' line', scanBlock false (some 0)
        (placeFrom index line column ((literal chars).tail ++ ['\n'])) =
      some ⟨chars, false, [⟨endMark, index', line', 0⟩]⟩ := by
  cases chars with
  | nil => exact absurd rfl nonempty
  | cons char rest =>
    obtain ⟨hspace, hline⟩ := first char rfl
    obtain ⟨hchar, hrest⟩ := List.forall_mem_cons.mp shown
    have hwritten : (literal (char :: rest)).tail ++ ['\n'] =
        '-' :: '\n' :: (indentLines true (char :: rest) ++ ['\n']) := by
      have hhint : (char == ' ' || isLineEnd char) = false := by simp [hspace, hline]
      unfold literal
      rw [chompingSign_of_last last, List.head?_cons, Option.any_some, hhint]
      rfl
    have hending : ∀ other ∈ rest.getLast?, isLineEnd other = false := by
      intro other hother
      cases rest with
      | nil => cases hother
      | cons next others => exact last other hother
    obtain ⟨index', line', hscan⟩ := (exists_scanBlockFrom ⟨false, .strip, 1⟩ rfl rfl (by decide)
      hrest hending).1 ⟨char :: BlockText.empty.gathered, none, [], isSpacing char⟩
      (index + 1 + 1 + 1 + 1 + 1) (line + 1) 3 rfl
    refine ⟨index', line', ?_⟩
    have hheader : scanBlock false (some 0)
        (placeFrom index line column
          ('-' :: '\n' :: (indentLines true (char :: rest) ++ ['\n']))) =
        scanBlockFrom ⟨false, .strip, 1⟩ .empty (.margin none 0)
          (placeFrom (index + 1 + 1) (line + 1) 0
            (indentLines true (char :: rest) ++ ['\n'])) := rfl
    rw [hwritten, hheader, scanBlockFrom_indented rfl (by decide) hchar hline
      (.inr ⟨rfl, by decide, hspace⟩), hscan]
    simp [BlockText.gathered, BlockText.empty]

end Scaffold.Yaml
