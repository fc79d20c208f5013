import Scaffold.Proofs.Text.Splitting

/-!
# Characters of names

The words of a name are made of letters and digits and the images of letters under the case
mappings. All of them, and the underscore between words, come at or behind the digit zero in the
order of characters. So a name spelled by its words has no separator of paths, no dot, no blank and
no line feed, all of which come before.
-/

namespace Scaffold.Text

/-- The character is the digit zero or comes behind it. -/
def IsInWord (char : Char) : Prop := 0x30 ≤ char.toNat

instance : DecidablePred IsInWord := fun char => inferInstanceAs (Decidable (0x30 ≤ char.toNat))

section Runs

variable {least : Nat}

/-- What runs meet does not come before the first of them. -/
theorem CodeRun.le_of_anyMeets {runs : List CodeRun} {char : Char}
    (hruns : ∀ run ∈ runs, least ≤ run.first) (h : CodeRun.anyMeets runs char = true) :
    least ≤ char.toNat := by
  obtain ⟨run, hrun, hmeets⟩ := List.any_eq_true.mp h
  have hfirst := hruns run hrun
  simp only [meets, Bool.and_eq_true, decide_eq_true_iff] at hmeets
  omega

/-- Letters and digits are characters of words. -/
theorem isInWord_of_isAlphanumeric {char : Char} (h : isAlphanumeric char = true) :
    IsInWord char := by
  rw [isAlphanumeric, Bool.or_eq_true] at h
  obtain halphabetic | hnumeric := h
  · exact CodeRun.le_of_anyMeets (by decide +kernel) halphabetic
  · exact CodeRun.le_of_anyMeets (by decide +kernel) hnumeric

/-- The code points from `first` to `last` are characters, and none comes before `least`. -/
def AreCharsFrom (least first last : Int) : Prop :=
  least ≤ first ∧ (last < 0xD800 ∨ 0xDFFF < first ∧ last < 0x110000)

instance (least first last : Int) : Decidable (AreCharsFrom least first last) :=
  inferInstanceAs (Decidable (_ ∧ _))

/-- The codes of a range of characters are those of the characters. -/
theorem toNat_of_areCharsFrom {first last : Int} {code : Nat}
    (h : AreCharsFrom least first last) (hfirst : first ≤ code) (hlast : code ≤ last) :
    (Char.ofNat code).toNat = code := by
  have hvalid : code.isValidChar := by
    obtain ⟨-, hlow | ⟨habove, hhigh⟩⟩ := h
    · exact .inl (by omega)
    · exact .inr ⟨by omega, by omega⟩
  rw [Char.ofNat, dif_pos hvalid]
  rfl

/-- All images of a case mapping are characters, and none comes before `least`. -/
structure CaseMap.StaysFrom (mapping : CaseMap) (least : Nat) : Prop where
  /-- Runs are moved to runs of characters. -/
  shifts : ∀ shift ∈ mapping.shifts,
    AreCharsFrom least (shift.run.first + shift.distance) (shift.run.last + shift.distance)
  /-- A character becomes characters. -/
  expansions : ∀ pair ∈ mapping.expansions, ∀ code ∈ pair.2, AreCharsFrom least code code

/-- A character becomes characters of an expansion or one of a run that was moved, or it stays. -/
theorem CaseMap.mem_expand_cases {mapping : CaseMap} {char image : Char}
    (h : image ∈ mapping.expand char) :
    (∃ pair ∈ mapping.expansions, ∃ code ∈ pair.2, image = Char.ofNat code) ∨
      (∃ shift ∈ mapping.shifts, ∃ code : Nat, shift.run.first ≤ code ∧ code ≤ shift.run.last ∧
        image = Char.ofNat (Int.toNat (code + shift.distance))) ∨ image = char := by
  unfold CaseMap.expand at h
  split at h
  case h_1 codes hcodes =>
    obtain ⟨code, hcode, rfl⟩ := List.mem_map.mp h
    obtain ⟨front, back, hparts, -⟩ := List.lookup_eq_some_iff.mp hcodes
    have hpair : (char.toNat, codes) ∈ mapping.expansions :=
      hparts ▸ List.mem_append_right front List.mem_cons_self
    exact .inl ⟨_, hpair, code, hcode, rfl⟩
  case h_2 =>
    split at h
    case h_1 code hcode =>
      obtain ⟨shift, hshift, hcovers⟩ := List.exists_of_findSome?_eq_some hcode
      unfold CaseShift.image? at hcovers
      split at hcovers
      case isTrue hmeets =>
        simp only [CodeRun.meets, Bool.and_eq_true, decide_eq_true_iff] at hmeets
        cases hcovers
        exact .inr (.inl ⟨shift, hshift, _, hmeets.1.1, hmeets.1.2, List.mem_singleton.mp h⟩)
      case isFalse => cases hcovers
    case h_2 => exact .inr (.inr (List.mem_singleton.mp h))

/-- A character that does not come before `least` becomes none that does. -/
theorem CaseMap.StaysFrom.le_of_mem_expand {mapping : CaseMap} (h : mapping.StaysFrom least)
    {char image : Char} (hchar : least ≤ char.toNat) (himage : image ∈ mapping.expand char) :
    least ≤ image.toNat := by
  obtain ⟨pair, hpair, code, hcode, rfl⟩ | ⟨shift, hshift, code, hfirst, hlast, rfl⟩ | rfl :=
    mem_expand_cases himage
  · have hexpansion := h.expansions pair hpair code hcode
    rw [toNat_of_areCharsFrom hexpansion (Int.le_refl _) (Int.le_refl _)]
    exact Int.ofNat_le.mp hexpansion.1
  · have hshifts := h.shifts shift hshift
    have hleast := hshifts.1
    rw [toNat_of_areCharsFrom hshifts (by omega) (by omega)]
    omega
  · exact hchar

/-- A case mapping gives a character no preimage but itself. -/
structure CaseMap.Avoids (mapping : CaseMap) (target : Char) : Prop where
  /-- No run is moved onto it. -/
  shifts : ∀ shift ∈ mapping.shifts, shift.run.last + shift.distance < target.toNat ∨
    (target.toNat : Int) < shift.run.first + shift.distance
  /-- No character becomes characters with it. -/
  expansions : ∀ pair ∈ mapping.expansions, target.toNat ∉ pair.2

/-- A character becomes an avoided one only if it is that. -/
theorem CaseMap.Avoids.ne_of_mem_expand {mapping : CaseMap} {target char image : Char}
    (h : mapping.Avoids target) (hstays : mapping.StaysFrom least) (hchar : char ≠ target)
    (himage : image ∈ mapping.expand char) : image ≠ target := by
  obtain ⟨pair, hpair, code, hcode, rfl⟩ | ⟨shift, hshift, code, hfirst, hlast, rfl⟩ | rfl :=
    mem_expand_cases himage
  · intro hsame
    have hexpansion := hstays.expansions pair hpair code hcode
    have htarget := toNat_of_areCharsFrom hexpansion (Int.le_refl _) (Int.le_refl _)
    rw [hsame] at htarget
    exact h.expansions pair hpair (htarget ▸ hcode)
  · intro hsame
    have hshifts := hstays.shifts shift hshift
    have hleast := hshifts.1
    have hapart := h.shifts shift hshift
    have htarget : (Char.ofNat (Int.toNat (code + shift.distance))).toNat =
        Int.toNat (code + shift.distance) :=
      toNat_of_areCharsFrom hshifts (by omega) (by omega)
    rw [hsame] at htarget
    omega
  · exact hchar

/-- Lowercase of what does not come before the digits does not either, and is no new underscore. -/
theorem lowercaseMap_keeps : lowercaseMap.StaysFrom 0x30 ∧ lowercaseMap.Avoids '_' :=
  ⟨⟨by decide +kernel, by decide +kernel⟩, ⟨by decide +kernel, by decide +kernel⟩⟩

/-- So it is with uppercase. -/
theorem uppercaseMap_keeps : uppercaseMap.StaysFrom 0x30 ∧ uppercaseMap.Avoids '_' :=
  ⟨⟨by decide +kernel, by decide +kernel⟩, ⟨by decide +kernel, by decide +kernel⟩⟩

end Runs

section Words

/-- The words of a text hold only characters of words. -/
theorem isInWord_of_mem_words {text : String} {part : List Char} (hpart : part ∈ words text)
    {char : Char} (hchar : char ∈ part) : IsInWord char := by
  obtain ⟨source, -, hletter, himage⟩ := exists_of_mem_words hpart hchar
  exact lowercaseMap_keeps.1.le_of_mem_expand (isInWord_of_isAlphanumeric hletter) himage

/-- A word is not empty and has no underscore. -/
theorem underscore_not_mem_of_mem_words {text : String} {part : List Char}
    (hpart : part ∈ words text) : part ≠ [] ∧ '_' ∉ part := by
  refine ⟨ne_nil_of_mem_words hpart, fun hmem => ?_⟩
  obtain ⟨source, -, hletter, himage⟩ := exists_of_mem_words hpart hmem
  have hsource : source ≠ '_' := by
    rintro rfl
    rw [isAlphanumeric_underscore] at hletter
    cases hletter
  exact lowercaseMap_keeps.2.ne_of_mem_expand lowercaseMap_keeps.1 hsource himage rfl

/-- Between parts stands nothing but the separator. -/
theorem mem_of_mem_intercalate {separator : List Char} {parts : List (List Char)} {char : Char}
    (h : char ∈ separator.intercalate parts) :
    char ∈ separator ∨ ∃ part ∈ parts, char ∈ part := by
  induction parts with
  | nil => cases h
  | cons first rest ih =>
    cases rest with
    | nil =>
      rw [List.intercalate_singleton] at h
      exact .inr ⟨first, List.mem_cons_self, h⟩
    | cons second rest =>
      rw [List.intercalate_cons_cons, List.mem_append, List.mem_append] at h
      obtain (hfirst | hseparator) | hrest := h
      · exact .inr ⟨first, List.mem_cons_self, hfirst⟩
      · exact .inl hseparator
      · exact (ih hrest).imp id fun ⟨part, hpart, hchar⟩ =>
          ⟨part, List.mem_cons_of_mem first hpart, hchar⟩

/-- A name with underscores between its words is made of characters of words. -/
theorem isInWord_of_mem_snakeCase {text : String} {char : Char}
    (h : char ∈ (snakeCase text).toList) : IsInWord char := by
  rw [snakeCase, String.toList_ofList] at h
  obtain hunderscore | ⟨part, hpart, hchar⟩ := mem_of_mem_intercalate h
  · cases List.mem_singleton.mp hunderscore
    decide
  · exact isInWord_of_mem_words hpart hchar

/-- A name of capitalized words is made of characters of words. -/
theorem isInWord_of_mem_pascalCase {text : String} {char : Char}
    (h : char ∈ (pascalCase text).toList) : IsInWord char := by
  rw [pascalCase, String.toList_ofList] at h
  obtain ⟨part, hpart, hchar⟩ := List.mem_flatMap.mp h
  cases part with
  | nil => cases hchar
  | cons first rest =>
    obtain hupper | hrest := List.mem_append.mp hchar
    · exact uppercaseMap_keeps.1.le_of_mem_expand
        (isInWord_of_mem_words hpart List.mem_cons_self) hupper
    · exact isInWord_of_mem_words hpart (List.mem_cons_of_mem first hrest)

/-- A name of capitalized words has no underscore. -/
theorem underscore_not_mem_pascalCase (text : String) : '_' ∉ (pascalCase text).toList := by
  rw [pascalCase, String.toList_ofList]
  intro h
  obtain ⟨part, hpart, hunderscore⟩ := List.mem_flatMap.mp h
  have hnot := (underscore_not_mem_of_mem_words hpart).2
  cases part with
  | nil => cases hunderscore
  | cons first rest =>
    obtain ⟨hfirst, hrest⟩ := List.ne_and_not_mem_of_not_mem_cons hnot
    obtain hupper | hlater := List.mem_append.mp hunderscore
    · exact uppercaseMap_keeps.2.ne_of_mem_expand uppercaseMap_keeps.1 hfirst.symm
        hupper rfl
    · exact hrest hlater

end Words

end Scaffold.Text
