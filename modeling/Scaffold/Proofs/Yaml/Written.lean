import Scaffold.Proofs.Yaml.DoubleQuoted
import Scaffold.Proofs.Yaml.SingleQuoted

/-!
# Written scalars

Whatever text is written, the scalar is made of characters that can be shown, and it ends as the
text does or with a quote. Which of the four styles is taken tells what is known of the text.
-/

namespace Scaffold.Yaml.Writing

/-- A text that starts in neither a space nor a line end, and does not end in a line end. -/
structure IsBound (chars : List Char) : Prop where
  /-- There is a character. -/
  nonempty : chars ≠ []
  /-- The first one is neither a space nor a line end. -/
  first : ∀ char ∈ chars.head?, char ≠ ' ' ∧ isLineEnd char = false
  /-- The last one is no line end. -/
  last : ∀ char ∈ chars.getLast?, isLineEnd char = false

/-- How a text can be written, and what is known of the text then. -/
inductive Written (text : String) : ScalarStyle → List Char → Prop
  /-- A plain text reads as a text and can stand plain. -/
  | plain (reads : readsAsText text = true) (stands : canStandPlain text = true) :
      Written text .plain text.toList
  /-- A literal block needs no escapes. -/
  | literal (shown : needsEscapes text.toList = false) :
      Written text .literal (literal text.toList)
  /-- Between single quotes stands a text without a line feed that needs no escapes. -/
  | single (shown : needsEscapes text.toList = false) (feed : '\n' ∉ text.toList)
      (after : hasSpaceAfterEnd text.toList = false) :
      Written text .singleQuoted (singleQuoted text.toList)
  /-- Any text can stand between double quotes. -/
  | double : Written text .doubleQuoted (doubleQuoted text.toList)

/-- Every text is written in its style. -/
theorem written_scalar (text : String) : Written text (style text) (scalar text) := by
  unfold scalar style
  simp only
  split
  · next hfeed =>
    split
    · exact .double
    · next hneeds =>
      rw [Bool.not_eq_true, Bool.or_eq_false_iff] at hneeds
      exact .literal hneeds.1
  · next hfeed =>
    split
    · next hplain =>
      rw [Bool.and_eq_true] at hplain
      exact .plain hplain.1 hplain.2
    · split
      · exact .double
      · next hneeds =>
        rw [Bool.not_eq_true, Bool.or_eq_false_iff] at hneeds
        exact .single hneeds.1 (by simpa using hfeed) hneeds.2

section Shown

variable {char : Char} {chars : List Char}

/-- A text that needs no escapes can be shown. -/
theorem isPrintable_of_needsEscapes (h : needsEscapes chars = false) :
    (∀ char ∈ chars, isPrintable char = true) ∧ hasSpaceBeforeEnd chars = false := by
  rw [needsEscapes, Bool.or_eq_false_iff, Bool.not_eq_false', List.all_eq_true] at h
  exact h

/-- Digits can be shown. -/
theorem isPrintable_of_hexValue? {value : Nat} (h : hexValue? char = some value) :
    isPrintable char = true := by
  have hbounds {low high : Char} (h : (decide (low ≤ char) && decide (char ≤ high)) = true) :
      low.toNat ≤ char.toNat ∧ char.toNat ≤ high.toNat := by
    rw [Bool.and_eq_true, decide_eq_true_iff, decide_eq_true_iff] at h
    exact h
  have hrange : 0x30 ≤ char.toNat ∧ char.toNat ≤ 0x66 := by
    unfold hexValue? at h
    split at h
    · next hdigit =>
      have hcode : 0x30 ≤ char.toNat ∧ char.toNat ≤ 0x39 := hbounds hdigit
      omega
    · split at h
      · next hsmall =>
        have hcode : 0x61 ≤ char.toNat ∧ char.toNat ≤ 0x66 := hbounds hsmall
        omega
      · split at h
        · next hlarge =>
          have hcode : 0x41 ≤ char.toNat ∧ char.toNat ≤ 0x46 := hbounds hlarge
          omega
        · cases h
  simp [isPrintable]
  omega

/-- The digits of a code point can be shown. -/
theorem isPrintable_of_readCode? {value code : Nat} (h : readCode? value chars = some code) :
    ∀ digit ∈ chars, isPrintable digit = true := by
  induction chars generalizing value with
  | nil => exact List.forall_mem_nil _
  | cons digit rest ih =>
    rw [readCode?_cons] at h
    cases hdigit : hexValue? digit with
    | none =>
      rw [hdigit] at h
      cases h
    | some read =>
      rw [hdigit] at h
      exact List.forall_mem_cons.mpr ⟨isPrintable_of_hexValue? hdigit, ih h⟩

/-- What stands for a character between double quotes can be shown. -/
theorem isPrintable_of_mem_escape {other : Char} (h : other ∈ escape char) :
    isPrintable other = true := by
  have hcode (letter : Char) (width : Nat) (hletter : isPrintable letter = true)
      (hmem : other ∈ '\\' :: letter :: codeDigits width char.toNat) :
      isPrintable other = true := by
    obtain rfl | hmem := List.mem_cons.mp hmem
    · rfl
    obtain rfl | hmem := List.mem_cons.mp hmem
    · exact hletter
    · exact isPrintable_of_readCode? (readCode?_codeDigits width char.toNat) other hmem
  unfold escape at h
  cases hletter : letter? char with
  | some letter =>
    simp only [hletter] at h
    obtain rfl | hmem := List.mem_cons.mp h
    · rfl
    · rw [List.mem_singleton.mp hmem]
      exact (shortEscape?_of_letter? hletter).1
  | none =>
    simp only [hletter] at h
    split at h
    · next hshown =>
      rw [List.mem_singleton.mp h]
      exact hshown
    · split at h
      · exact hcode 'x' 2 rfl h
      · split at h
        · exact hcode 'u' 4 rfl h
        · exact hcode 'U' 8 rfl h

/-- Indenting adds nothing but spaces. -/
theorem mem_of_mem_indentLines {fresh : Bool} (h : char ∈ indentLines fresh chars) :
    char ∈ chars ∨ char = ' ' := by
  induction chars generalizing fresh with
  | nil => cases h
  | cons first rest ih =>
    have hcons {fresh : Bool} (hmem : char ∈ first :: indentLines fresh rest) :
        char ∈ first :: rest ∨ char = ' ' := by
      obtain rfl | hmem := List.mem_cons.mp hmem
      · exact .inl List.mem_cons_self
      · exact (ih hmem).imp_left (List.mem_cons_of_mem _)
    cases hline : isLineEnd first with
    | true =>
      rw [indentLines_lineEnd hline] at h
      exact hcons h
    | false =>
      cases fresh with
      | false =>
        rw [indentLines_within hline] at h
        exact hcons h
      | true =>
        rw [indentLines_fresh hline] at h
        obtain rfl | hmem := List.mem_cons.mp h
        · exact .inr rfl
        obtain rfl | hmem := List.mem_cons.mp hmem
        · exact .inr rfl
        · exact hcons hmem

/-- Indented lines can be shown if the lines can. -/
theorem isPrintable_of_mem_indentLines {fresh : Bool}
    (shown : ∀ char ∈ chars, isPrintable char = true) (h : char ∈ indentLines fresh chars) :
    isPrintable char = true := by
  obtain hmem | rfl := mem_of_mem_indentLines h
  · exact shown char hmem
  · rfl

/-- A literal text holds only what can be shown. -/
theorem isPrintable_of_mem_literal (shown : ∀ char ∈ chars, isPrintable char = true)
    (h : char ∈ literal chars) : isPrintable char = true := by
  have hhint (spaced : Bool) :
      ('|' :: if spaced = true then ['2'] else []).all isPrintable = true := by
    cases spaced <;> rfl
  have hsign : (chompingSign chars).all isPrintable = true := by
    unfold chompingSign
    repeat' split
    all_goals rfl
  obtain hheader | hblock := List.mem_append.mp h
  · obtain hmem | hmem := List.mem_append.mp hheader
    · exact List.all_eq_true.mp (hhint _) char hmem
    · exact List.all_eq_true.mp hsign char hmem
  · obtain rfl | hmem := List.mem_cons.mp hblock
    · rfl
    · exact isPrintable_of_mem_indentLines shown hmem

/-- A text in single quotes holds only what can be shown. -/
theorem isPrintable_of_mem_singleQuoted (shown : ∀ char ∈ chars, isPrintable char = true)
    (h : char ∈ singleQuoted chars) : isPrintable char = true := by
  have hdoubled : ∀ char ∈ doubleQuotes chars ++ [singleQuote], isPrintable char = true := by
    intro char hmem
    obtain hmem | hmem := List.mem_append.mp hmem
    · obtain ⟨own, hown, hmem⟩ := List.mem_flatMap.mp hmem
      split at hmem
      · have hquote : char = singleQuote := by simpa using hmem
        rw [hquote]
        rfl
      · rw [List.mem_singleton.mp hmem]
        exact shown own hown
    · rw [List.mem_singleton.mp hmem]
      rfl
  obtain rfl | hmem := List.mem_cons.mp h
  · rfl
  · exact isPrintable_of_mem_indentLines hdoubled hmem

/-- A text in double quotes holds only what can be shown. -/
theorem isPrintable_of_mem_doubleQuoted (h : char ∈ doubleQuoted chars) :
    isPrintable char = true := by
  obtain hmem | hmem := List.mem_append.mp h
  · obtain rfl | hmem := List.mem_cons.mp hmem
    · rfl
    · obtain ⟨own, -, hmem⟩ := List.mem_flatMap.mp hmem
      exact isPrintable_of_mem_escape hmem
  · rw [List.mem_singleton.mp hmem]
    rfl

end Shown

/-- Indenting leaves the end of a text. -/
theorem getLast?_indentLines (fresh : Bool) (chars : List Char) :
    (indentLines fresh chars).getLast? = chars.getLast? := by
  induction chars generalizing fresh with
  | nil => rfl
  | cons first rest ih =>
    have hcons (fresh : Bool) : (first :: indentLines fresh rest).getLast? =
        (first :: rest).getLast? := by
      rw [List.getLast?_cons, List.getLast?_cons, ih]
    cases hline : isLineEnd first with
    | true => rw [indentLines_lineEnd hline, hcons]
    | false =>
      cases fresh with
      | false => rw [indentLines_within hline, hcons]
      | true =>
        rw [indentLines_fresh hline, List.getLast?_cons_cons, List.getLast?_cons_cons, hcons]

namespace Written

variable {text : String} {style : ScalarStyle} {written : List Char}

/-- A written scalar can be shown. -/
theorem isPrintable (h : Written text style written) :
    ∀ char ∈ written, isPrintable char = true := by
  intro char hmem
  cases h with
  | plain _ stands =>
    rw [canStandPlain] at stands
    simp only [Bool.and_eq_true, Bool.not_eq_true'] at stands
    exact (isPrintable_of_needsEscapes stands.1.1.1.1.1).1 char hmem
  | literal shown => exact isPrintable_of_mem_literal (isPrintable_of_needsEscapes shown).1 hmem
  | single shown _ _ =>
    exact isPrintable_of_mem_singleQuoted (isPrintable_of_needsEscapes shown).1 hmem
  | double => exact isPrintable_of_mem_doubleQuoted hmem

/-- A written scalar does not end in a line end. -/
theorem last (h : Written text style written) (bound : IsBound text.toList) :
    ∀ char ∈ written.getLast?, isLineEnd char = false := by
  intro char hlast
  cases h with
  | plain => exact bound.last char hlast
  | literal =>
    cases hchars : text.toList with
    | nil => exact absurd hchars bound.nonempty
    | cons first rest =>
      rw [Writing.literal, List.getLast?_append, List.getLast?_cons, getLast?_indentLines, hchars,
        List.getLast?_cons] at hlast
      exact bound.last char (by rw [hchars, List.getLast?_cons]; exact hlast)
  | single =>
    have hquote : (singleQuoted text.toList).getLast? = some singleQuote := by
      rw [singleQuoted, List.getLast?_cons, getLast?_indentLines, List.getLast?_concat]
      rfl
    rw [hquote] at hlast
    cases hlast
    rfl
  | double =>
    have hquote : (doubleQuoted text.toList).getLast? = some doubleQuote := List.getLast?_concat ..
    rw [hquote] at hlast
    cases hlast
    rfl

end Written

/-- The entry of a text ends with a line feed behind the text. -/
theorem toList_entry {name text : String} (h : IsBound text.toList) :
    (entry name text).toList = name.toList ++ ':' :: ' ' :: (scalar text ++ ['\n']) := by
  have hopen : (name.toList ++ ':' :: ' ' :: scalar text).getLast?.any isLineEnd = false := by
    rw [List.getLast?_append, List.getLast?_cons, List.getLast?_cons]
    cases hlast : (scalar text).getLast? with
    | none => rfl
    | some char => exact (written_scalar text).last h char hlast
  rw [entry, String.toList_ofList, endLine, hopen, List.append_assoc]
  rfl

end Scaffold.Yaml.Writing
