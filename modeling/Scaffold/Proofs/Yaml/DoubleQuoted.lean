import Mathlib.Algebra.Group.Nat.Defs
import Scaffold.Proofs.Yaml.Places

/-!
# Texts between double quotes read back

Between double quotes every character that could be taken for something else is escaped, by a letter
or by the digits of its code point, and reading an escape gives the character back. So any text at
all can be written between double quotes, on one line.
-/

namespace Scaffold.Yaml

open Writing

/-- The code point that hexadecimal digits go on with from a value. -/
def readCode? (value : Nat) (digits : List Char) : Option Nat :=
  digits.foldlM (fun value digit => (hexValue? digit).map (value * 16 + ·)) value

section Codes

variable {value code : Nat} {digit : Char} {digits : List Char}

theorem readCode?_cons : readCode? value (digit :: digits) =
    (hexValue? digit).bind fun read => readCode? (value * 16 + read) digits := by
  rw [readCode?, List.foldlM_cons]
  cases hexValue? digit <;> rfl

/-- The last digit is read behind the others. -/
theorem readCode?_concat : readCode? value (digits ++ [digit]) =
    (readCode? value digits).bind fun read => (hexValue? digit).map (read * 16 + ·) := by
  rw [readCode?, List.foldlM_append]
  simp only [List.foldlM_cons, List.foldlM_nil, bind_pure]
  rfl

/-- Zeros in front count nothing. -/
theorem readCode?_zeros (count : Nat) :
    readCode? 0 (List.replicate count '0' ++ digits) = readCode? 0 digits := by
  induction count with
  | zero => rfl
  | succ count ih =>
    rw [List.replicate_succ, List.cons_append, readCode?_cons]
    exact ih

/-- Every digit below sixteen has its value. -/
theorem hexValue?_digitChar (h : code < 16) :
    hexValue? (Nat.digitChar code).toUpper = some code := by
  have hall : ∀ code : Fin 16, hexValue? (Nat.digitChar code).toUpper = some code.val := by decide
  exact hall ⟨code, h⟩

/-- The digits of a code point read back. -/
theorem readCode?_toDigits (code : Nat) :
    readCode? 0 ((Nat.toDigits 16 code).map Char.toUpper) = some code := by
  induction code using Nat.strongRecOn with
  | ind code ih =>
    rw [Nat.toDigits_eq_if (by decide)]
    by_cases hsmall : code < 16
    · rw [if_pos hsmall, List.map_singleton, readCode?_cons, hexValue?_digitChar hsmall]
      exact congrArg some (by omega)
    · have hfront := ih (code / 16) (by omega)
      have hlast := hexValue?_digitChar (Nat.mod_lt code (by decide : 0 < 16))
      rw [if_neg hsmall, List.map_append, List.map_singleton, readCode?_concat, hfront, hlast]
      exact congrArg some (Nat.div_add_mod' code 16)

/-- The digits of a code are read as the code. -/
theorem readCode?_codeDigits (width code : Nat) :
    readCode? 0 (codeDigits width code) = some code := by
  rw [codeDigits, readCode?_zeros, readCode?_toDigits]

/-- A code that fits has as many digits as are asked for. -/
theorem length_codeDigits {width : Nat} (hwidth : 0 < width) (h : code < 16 ^ width) :
    (codeDigits width code).length = width := by
  have hlength := (Nat.length_toDigits_le_iff (by decide) hwidth).mpr h
  simp only [codeDigits, List.length_append, List.length_replicate, List.length_map]
  omega

end Codes

/-- A character that is a hexadecimal digit ends no line. -/
theorem isLineEnd_of_hexValue? {digit : Char} {value : Nat} (h : hexValue? digit = some value) :
    isLineEnd digit = false := by
  cases hline : isLineEnd digit with
  | false => rfl
  | true =>
    simp only [isLineEnd, Bool.or_eq_true, beq_iff_eq] at hline
    obtain (rfl | rfl) | rfl := hline <;> cases h

section Scanning

variable {reversed spaces : List Char} {index line column : Nat} {rest : List Char}

/-- The digits of a code point are read to their end. -/
theorem scanDoubleFrom_code {digits : List Char} {value code : Nat} {char : Char} {more : Nat}
    (length : digits.length = more + 1) (read : readCode? value digits = some code)
    (means : charOfCode? code = some char) :
    scanDoubleFrom reversed .empty (.code more value)
        (placeFrom index line column (digits ++ rest)) =
      scanDoubleFrom (char :: reversed) .empty .ordinary
        (placeFrom (index + digits.length) line (column + digits.length) rest) := by
  induction digits generalizing value more index column with
  | nil => cases length
  | cons digit digits ih =>
    rw [readCode?_cons] at read
    cases hdigit : hexValue? digit with
    | none =>
      rw [hdigit] at read
      cases read
    | some worth =>
      rw [hdigit] at read
      change readCode? (value * 16 + worth) digits = some code at read
      rw [List.cons_append, placeFrom_of_not_lineEnd (isLineEnd_of_hexValue? hdigit),
        scanDoubleFrom.eq_def]
      simp only [hdigit]
      cases more with
      | zero =>
        obtain rfl := List.length_eq_zero_iff.mp (Nat.succ.inj length)
        cases read
        simp only [means]
        rfl
      | succ more =>
        simp only
        rw [ih (Nat.succ.inj length) read, List.length_cons, Nat.add_assoc, Nat.add_assoc,
          Nat.add_comm 1]

/-- A letter can be shown on a line and is read as what it was written for. -/
theorem shortEscape?_of_letter? {char letter : Char} (h : letter? char = some letter) :
    isPrintable letter = true ∧ isLineEnd letter = false ∧ shortEscape? letter = some char := by
  obtain ⟨front, back, hpairs, -⟩ := List.lookup_eq_some_iff.mp h
  have hmem : (char, letter) ∈ front ++ (char, letter) :: back :=
    List.mem_append_right _ List.mem_cons_self
  rw [← hpairs] at hmem
  have hall : ∀ pair ∈ [('\x00', '0'), ('\x07', 'a'), ('\x08', 'b'), ('\t', 't'), ('\n', 'n'),
      ('\x0b', 'v'), ('\x0c', 'f'), ('\r', 'r'), ('\x1b', 'e'), (doubleQuote, doubleQuote),
      ('\\', '\\'), ('\u0085', 'N'), ('\u2028', 'L'), ('\u2029', 'P')],
      isPrintable pair.2 = true ∧ isLineEnd pair.2 = false ∧
        shortEscape? pair.2 = some pair.1 := by decide
  exact hall _ hmem

/-- An escaped letter stands for its character. -/
theorem scanDoubleFrom_letter {char letter : Char} (h : letter? char = some letter) :
    scanDoubleFrom reversed .empty .escaped (placeFrom index line column (letter :: rest)) =
      scanDoubleFrom (char :: reversed) .empty .ordinary
        (placeFrom (index + 1) line (column + 1) rest) := by
  obtain ⟨-, hline, hshort⟩ := shortEscape?_of_letter? h
  rw [placeFrom_of_not_lineEnd hline, scanDoubleFrom.eq_def]
  simp only [hline, hshort, Bool.false_eq_true, if_false]

/-- A character without a letter ends no line and is neither a quote nor a backslash. -/
theorem ne_of_letter?_eq_none {char : Char} (h : letter? char = none) :
    isLineEnd char = false ∧ char ≠ doubleQuote ∧ char ≠ '\\' := by
  have hne (other : Char) (hother : letter? other ≠ none) : char ≠ other := by
    rintro rfl
    exact hother h
  refine ⟨?_, hne _ (by decide), hne _ (by decide)⟩
  have hfeed := hne '\n' (by decide)
  have hseparator := hne '\u2028' (by decide)
  have hparagraph := hne '\u2029' (by decide)
  simp [isLineEnd, hfeed, hseparator, hparagraph]

end Scanning

section Ordinary

variable {reversed spaces : List Char} {spot : Spot} {rest : List Spot} (inside : 0 < spot.column)

include inside

/-- Spaces are held back. -/
theorem scanDoubleFrom_space (h : spot.char = ' ') :
    scanDoubleFrom reversed (.spacing spaces) .ordinary (spot :: rest) =
      scanDoubleFrom reversed (.spacing (' ' :: spaces)) .ordinary rest := by
  rw [scanDoubleFrom.eq_def]
  simp only [startsBoundary_of_column_pos inside, h]
  rfl

/-- A character that needs no escape is taken, with the spaces before it. -/
theorem scanDoubleFrom_char (shown : isPrintable spot.char = true) (space : spot.char ≠ ' ')
    (plain : letter? spot.char = none) :
    scanDoubleFrom reversed (.spacing spaces) .ordinary (spot :: rest) =
      scanDoubleFrom (spot.char :: (spaces ++ reversed)) .empty .ordinary rest := by
  obtain ⟨hline, hquote, hbackslash⟩ := ne_of_letter?_eq_none plain
  rw [scanDoubleFrom.eq_def]
  simp only [startsBoundary_of_column_pos inside, ne_endMark_of_isPrintable shown,
    isSpacing_of_isPrintable shown, beq_eq_false_iff_ne.mpr space, hline,
    beq_eq_false_iff_ne.mpr hquote, beq_eq_false_iff_ne.mpr hbackslash, Gap.fold,
    List.reverse_reverse, Bool.or_self, Bool.false_eq_true, if_false]

/-- A backslash escapes what follows. -/
theorem scanDoubleFrom_backslash (h : spot.char = '\\') :
    scanDoubleFrom reversed (.spacing spaces) .ordinary (spot :: rest) =
      scanDoubleFrom (spaces ++ reversed) .empty .escaped rest := by
  rw [scanDoubleFrom.eq_def]
  simp only [startsBoundary_of_column_pos inside, h, Gap.fold, List.reverse_reverse]
  rfl

/-- A quote ends the text. -/
theorem scanDoubleFrom_close (h : spot.char = doubleQuote) :
    scanDoubleFrom reversed (.spacing spaces) .ordinary (spot :: rest) =
      some ⟨(spaces ++ reversed).reverse, false, rest⟩ := by
  rw [scanDoubleFrom.eq_def]
  simp only [startsBoundary_of_column_pos inside, h, Gap.fold, List.reverse_reverse]
  rfl

end Ordinary

section Escapes

variable {reversed spaces rest : List Char} {index line column : Nat}

/-- A backslash and a letter that introduces a code point take the character of the code point. -/
theorem scanDoubleFrom_codePoint {char letter : Char} {width : Nat}
    (introduces : codeLength? letter = some (width + 1)) (notShort : shortEscape? letter = none)
    (hline : isLineEnd letter = false) (size : char.toNat < 16 ^ (width + 1))
    (inside : 0 < column) :
    scanDoubleFrom reversed (.spacing spaces) .ordinary (placeFrom index line column
        ('\\' :: letter :: codeDigits (width + 1) char.toNat ++ rest)) =
      scanDoubleFrom (char :: (spaces ++ reversed)) .empty .ordinary
        (placeFrom (index + 1 + 1 + (width + 1)) line (column + 1 + 1 + (width + 1)) rest) := by
  have hbackslash : isLineEnd '\\' = false := by decide
  have hlength := length_codeDigits (Nat.succ_pos width) size
  have hvalid : char.toNat.isValidChar := char.valid
  have hmeans : charOfCode? char.toNat = some char := by
    rw [charOfCode?, if_pos hvalid, Char.ofNat_toNat]
  rw [List.cons_append, List.cons_append, placeFrom_of_not_lineEnd hbackslash,
    placeFrom_of_not_lineEnd hline, scanDoubleFrom_backslash inside rfl, scanDoubleFrom.eq_def]
  simp only [hline, notShort, introduces, Bool.false_eq_true, if_false, Nat.add_sub_cancel]
  rw [scanDoubleFrom_code hlength (readCode?_codeDigits _ _) hmeans, hlength]

/-- Reading an escaped character takes the character, with the spaces before it. -/
theorem exists_scanDoubleFrom_escape {char : Char} (space : char ≠ ' ')
    (reversed spaces rest : List Char) (index line : Nat) (inside : 0 < column) :
    ∃ index' column', 0 < column' ∧ scanDoubleFrom reversed (.spacing spaces) .ordinary
        (placeFrom index line column (escape char ++ rest)) =
      scanDoubleFrom (char :: (spaces ++ reversed)) (.spacing []) .ordinary
        (placeFrom index' line column' rest) := by
  have hbackslash : isLineEnd '\\' = false := by decide
  unfold escape
  cases hletter : letter? char with
  | some letter =>
    refine ⟨index + 1 + 1, column + 1 + 1, Nat.succ_pos _, ?_⟩
    simp only
    rw [List.cons_append, List.singleton_append, placeFrom_of_not_lineEnd hbackslash,
      scanDoubleFrom_backslash inside rfl, scanDoubleFrom_letter hletter]
    rfl
  | none =>
    have hline := (ne_of_letter?_eq_none hletter).1
    have hsize : char.toNat < 16 ^ 8 := by
      have hvalid : char.toNat.isValidChar := char.valid
      unfold Nat.isValidChar at hvalid
      omega
    simp only
    by_cases hshown : isPrintable char = true
    · refine ⟨index + 1, column + 1, Nat.succ_pos _, ?_⟩
      rw [if_pos hshown, List.singleton_append, placeFrom_of_not_lineEnd hline]
      exact scanDoubleFrom_char inside hshown space hletter
    by_cases hbyte : char.toNat ≤ 0xFF
    · refine ⟨index + 1 + 1 + 2, column + 1 + 1 + 2, Nat.succ_pos _, ?_⟩
      rw [if_neg hshown, if_pos hbyte]
      exact scanDoubleFrom_codePoint (by decide) (by decide) (by decide) (by omega) inside
    by_cases hword : char.toNat ≤ 0xFFFF
    · refine ⟨index + 1 + 1 + 4, column + 1 + 1 + 4, Nat.succ_pos _, ?_⟩
      rw [if_neg hshown, if_neg hbyte, if_pos hword]
      exact scanDoubleFrom_codePoint (by decide) (by decide) (by decide) (by omega) inside
    · refine ⟨index + 1 + 1 + 8, column + 1 + 1 + 8, Nat.succ_pos _, ?_⟩
      rw [if_neg hshown, if_neg hbyte, if_neg hword]
      exact scanDoubleFrom_codePoint (by decide) (by decide) (by decide) hsize inside

end Escapes

/-- Scanning escaped characters goes on to the quote behind them. -/
theorem exists_scanDoubleFrom (chars reversed spaces : List Char) (index line : Nat)
    {column : Nat} (inside : 0 < column) :
    ∃ index' column', scanDoubleFrom reversed (.spacing spaces) .ordinary
        (placeFrom index line column (chars.flatMap escape ++ ([doubleQuote] ++ ['\n']))) =
      some ⟨(spaces ++ reversed).reverse ++ chars, false,
        placeFrom index' line column' ['\n']⟩ := by
  induction chars generalizing reversed spaces index column with
  | nil =>
    refine ⟨index + 1, column + 1, ?_⟩
    rw [List.flatMap_nil, List.nil_append, List.singleton_append, List.append_nil,
      placeFrom_of_not_lineEnd (by decide), scanDoubleFrom_close inside rfl]
  | cons char rest ih =>
    rw [List.flatMap_cons, List.append_assoc]
    by_cases hspace : char = ' '
    · subst hspace
      have hself : escape ' ' = [' '] := by decide
      obtain ⟨index', column', hscan⟩ :=
        ih reversed (' ' :: spaces) (index + 1) (Nat.succ_pos column)
      refine ⟨index', column', ?_⟩
      rw [hself, List.singleton_append, placeFrom_of_not_lineEnd (by decide),
        scanDoubleFrom_space inside rfl, hscan]
      simp
    · obtain ⟨index₁, column₁, hcolumn, hescape⟩ := exists_scanDoubleFrom_escape hspace reversed
        spaces (rest.flatMap escape ++ ([doubleQuote] ++ ['\n'])) index line inside
      obtain ⟨index', column', hscan⟩ := ih (char :: (spaces ++ reversed)) [] index₁ hcolumn
      refine ⟨index', column', ?_⟩
      rw [hescape, hscan]
      simp

end Scaffold.Yaml
