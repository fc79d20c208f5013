import Scaffold.Proofs.Yaml.Places

/-!
# Plain scalars read back

A text that can stand plain is read back as it is: no colon in it ends it, no hash starts a comment
in it, and no line end folds what stands between its words.
-/

namespace Scaffold.Yaml

open Writing

section Steps

variable {setting : PlainSetting} {reversed spaces : List Char} {inWord : Bool} {spot : Spot}
  {rest : List Spot}

/-- Spaces are held back. -/
theorem scanPlainFrom_space (h : spot.char = ' ') :
    scanPlainFrom setting reversed (.spacing spaces) inWord (spot :: rest) =
      scanPlainFrom setting reversed (.spacing (' ' :: spaces)) false rest := by
  rw [scanPlainFrom, h]
  rfl

/-- A character of a word is taken, with the spaces before it. -/
theorem scanPlainFrom_word (outside : setting.inFlow = false) (shown : isPrintable spot.char = true)
    (line : isLineEnd spot.char = false) (word : spot.char ≠ ' ')
    (hash : spot.char = '#' → inWord = true) (boundary : startsBoundary (spot :: rest) = false)
    (ends : endsPlain setting spot.char (peek rest) = false) :
    scanPlainFrom setting reversed (.spacing spaces) inWord (spot :: rest) =
      scanPlainFrom setting (spot.char :: (spaces ++ reversed)) (.spacing []) true rest := by
  have hspacing : isSpacing spot.char = false := by
    rw [isSpacing_of_isPrintable shown, beq_eq_false_iff_ne]
    exact word
  have hstarts : (!inWord && (spot.char == '#')) = false := by
    by_cases hhash : spot.char = '#'
    · rw [hash hhash]
      rfl
    · rw [beq_eq_false_iff_ne.mpr hhash, Bool.and_false]
  have hcolon : misplacesColon setting spot.char (peek rest) = false := by
    rw [misplacesColon, outside, Bool.false_and, Bool.false_and]
  rw [scanPlainFrom, hspacing, line, ne_endMark_of_isPrintable shown, boundary, hcolon, ends]
  simp [outside, Gap.isBroken, Gap.fold, hstarts, Gap.empty]

/-- A plain scalar that is a key ends at its colon. -/
theorem scanPlainFrom_colon {next : Spot} (colon : spot.char = ':')
    (stop : isWordStop next.char = true) (outside : setting.inFlow = false) :
    scanPlainFrom setting reversed (.spacing []) inWord (spot :: next :: rest) =
      some ⟨reversed.reverse, false, spot :: next :: rest⟩ := by
  have hstarts : (!inWord && ((!setting.inFlow && Gap.isBroken (.spacing []) &&
      spot.column < setting.least) || startsBoundary (spot :: next :: rest) ||
        spot.char == '#')) = false := by
    rw [startsBoundary_of_char (by rw [colon]; decide) (by rw [colon]; decide), colon]
    simp [Gap.isBroken]
  have hcolon : misplacesColon setting spot.char (peek (next :: rest)) = false := by
    rw [misplacesColon, outside, Bool.false_and, Bool.false_and]
  have hends : endsPlain setting spot.char (peek (next :: rest)) = true := by
    rw [endsPlain, colon]
    simp [peek, stop]
  rw [scanPlainFrom, hstarts, hcolon, hends, colon]
  rfl

/-- A plain scalar that is a text ends at the end of its line. -/
theorem scanPlainFrom_feed {index line column : Nat} :
    scanPlainFrom setting reversed (.spacing []) inWord (placeFrom index line column ['\n']) =
      some ⟨reversed.reverse, true, [⟨endMark, index + 1, line + 1, 0⟩]⟩ := rfl

end Steps

/-- What is left of a plain text behind a word, or behind spaces that follow one. -/
structure PlainRest (inWord : Bool) (spaces chars : List Char) : Prop where
  /-- All characters can be shown on one line. -/
  shown : ∀ char ∈ chars, isPrintable char = true ∧ isLineEnd char = false
  /-- No colon stands before the end of a word. -/
  colons : hasNeighbours (fun char next => char == ':' && isWordStop next) (chars ++ [endMark]) =
    false
  /-- No hash stands at the start of a word. -/
  hashes : hasNeighbours (fun char next => isWordStop char && next == '#') chars = false
  /-- Neither does the first character, unless it goes on with a word. -/
  opening : chars.head? = some '#' → inWord = true
  /-- Spaces are followed by a word. -/
  blank : ∀ char ∈ spaces, char = ' '
  /-- The text does not end in spaces. -/
  ending : (spaces.reverse ++ chars).getLast? ≠ some ' '

namespace PlainRest

variable {inWord : Bool} {spaces chars : List Char} {char : Char}

theorem spaces_eq_nil (h : PlainRest inWord spaces []) : spaces = [] := by
  cases spaces with
  | nil => rfl
  | cons last rest =>
    have hending := h.ending
    rw [List.append_nil, List.getLast?_reverse, List.head?_cons,
      h.blank last List.mem_cons_self] at hending
    exact absurd rfl hending

/-- Behind one more space. -/
theorem behind_space (h : PlainRest inWord spaces (' ' :: chars)) :
    PlainRest false (' ' :: spaces) chars where
  shown := fun other hm => h.shown other (List.mem_cons_of_mem _ hm)
  colons := hasNeighbours_of_cons h.colons
  hashes := hasNeighbours_of_cons h.hashes
  opening := by
    intro hhash
    have hhashes := h.hashes
    cases chars with
    | nil => cases hhash
    | cons next rest =>
      cases hhash
      rw [hasNeighbours_cons_cons] at hhashes
      cases hhashes
  blank := List.forall_mem_cons.mpr ⟨rfl, h.blank⟩
  ending := by
    rw [List.reverse_cons, List.append_assoc, List.singleton_append]
    exact h.ending

/-- Behind one more character of a word. -/
theorem behind_word (h : PlainRest inWord spaces (char :: chars)) : PlainRest true [] chars where
  shown := fun other hm => h.shown other (List.mem_cons_of_mem _ hm)
  colons := hasNeighbours_of_cons h.colons
  hashes := hasNeighbours_of_cons h.hashes
  opening := fun _ => rfl
  blank := List.forall_mem_nil _
  ending := by
    intro hlast
    cases chars with
    | nil => cases hlast
    | cons next rest =>
      refine h.ending ?_
      change (next :: rest).getLast? = some ' ' at hlast
      rw [List.getLast?_append, List.getLast?_cons_cons, hlast]
      rfl

/-- A colon is followed by a character of the same word. -/
theorem not_endsPlain (h : PlainRest inWord spaces (char :: chars)) {setting : PlainSetting}
    (outside : setting.inFlow = false) (tail : List Char) :
    endsPlain setting char ((chars ++ tail).headD endMark) = false := by
  have hcolons := h.colons
  rw [endsPlain, outside, Bool.false_and, Bool.or_false]
  cases chars with
  | nil =>
    have hend : isWordStop endMark = true := rfl
    rw [List.singleton_append, hasNeighbours_cons_cons, Bool.or_eq_false_iff, hend, Bool.and_true]
      at hcolons
    rw [hcolons.1, Bool.false_and]
  | cons next rest =>
    rw [List.cons_append, List.cons_append, hasNeighbours_cons_cons, Bool.or_eq_false_iff]
      at hcolons
    exact hcolons.1

/-- Scanning goes on to what stands behind the text. -/
theorem exists_scanPlainFrom (h : PlainRest inWord spaces chars) (setting : PlainSetting)
    (outside : setting.inFlow = false) (reversed tail : List Char) (index line column : Nat)
    (opening : 0 < column ∨ ∃ char, chars.head? = some char ∧ char ≠ '-' ∧ char ≠ '.') :
    ∃ inWord', scanPlainFrom setting reversed (.spacing spaces) inWord
        (placeFrom index line column (chars ++ tail)) =
      scanPlainFrom setting (chars.reverse ++ spaces ++ reversed) (.spacing []) inWord'
        (placeFrom (index + chars.length) line (column + chars.length) tail) := by
  induction chars generalizing inWord spaces reversed index column with
  | nil =>
    refine ⟨inWord, ?_⟩
    rw [h.spaces_eq_nil]
    rfl
  | cons char rest ih =>
    obtain ⟨hprintable, hline⟩ := h.shown char List.mem_cons_self
    have hplace : index + 1 + rest.length = index + (rest.length + 1) ∧
        column + 1 + rest.length = column + (rest.length + 1) := by omega
    rw [List.cons_append, placeFrom_of_not_lineEnd hline]
    by_cases hspace : char = ' '
    · obtain ⟨inWord', hscan⟩ := ih (hspace ▸ h).behind_space reversed (index + 1) (column + 1)
        (.inl (Nat.succ_pos column))
      refine ⟨inWord', ?_⟩
      rw [scanPlainFrom_space hspace, hscan, hplace.1, hplace.2, hspace]
      simp
    · have hboundary : startsBoundary (⟨char, index, line, column⟩ ::
          placeFrom (index + 1) line (column + 1) (rest ++ tail)) = false := by
        obtain hinside | ⟨first, hfirst, hhyphen, hpoint⟩ := opening
        · exact startsBoundary_of_column_pos hinside _
        · cases hfirst
          exact startsBoundary_of_char hhyphen hpoint _
      obtain ⟨inWord', hscan⟩ := ih h.behind_word (char :: (spaces ++ reversed)) (index + 1)
        (column + 1) (.inl (Nat.succ_pos column))
      refine ⟨inWord', ?_⟩
      rw [scanPlainFrom_word outside hprintable hline hspace
        (fun hhash => h.opening (congrArg some hhash)) hboundary
        (by rw [peek_placeFrom]; exact h.not_endsPlain outside tail), hscan, hplace.1, hplace.2]
      simp

/-- A plain scalar before a line feed that ends the text is scanned as a whole. -/
theorem exists_scanPlain (h : PlainRest false [] chars) (setting : PlainSetting)
    (outside : setting.inFlow = false) (index line : Nat) {column : Nat} (inside : 0 < column) :
    ∃ index' line', scanPlain setting (placeFrom index line column (chars ++ ['\n'])) =
      some ⟨chars, true, [⟨endMark, index', line', 0⟩]⟩ := by
  obtain ⟨inWord, hscan⟩ :=
    h.exists_scanPlainFrom setting outside [] ['\n'] index line column (.inl inside)
  refine ⟨index + chars.length + 1, line + 1, hscan.trans ?_⟩
  rw [scanPlainFrom_feed, List.append_nil, List.append_nil, List.reverse_reverse]

end PlainRest

/-- A text that can stand plain can be scanned as a plain one from its start on. -/
theorem plainRest_of_canStandPlain {text : String} (h : canStandPlain text = true) :
    PlainRest false [] text.toList := by
  simp only [canStandPlain, needsEscapes, holdsIndicator, Bool.and_eq_true, Bool.not_eq_true',
    Bool.or_eq_false_iff, Bool.not_eq_false', List.all_eq_true, List.any_eq_false, bne_iff_ne,
    Bool.not_eq_true] at h
  obtain ⟨⟨⟨⟨⟨⟨hshown, -⟩, hlines⟩, hstarts⟩, hcolons, hhashes⟩, -⟩, hlast⟩ := h
  refine ⟨fun char hm => ⟨hshown char hm, hlines char hm⟩, hcolons, hhashes, ?_,
    List.forall_mem_nil _, hlast⟩
  intro hhash
  cases hchars : text.toList with
  | nil =>
    rw [hchars] at hhash
    cases hhash
  | cons first rest =>
    rw [hchars] at hhash hstarts
    cases hhash
    cases hstarts

end Scaffold.Yaml
