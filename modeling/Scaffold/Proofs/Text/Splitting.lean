import Mathlib.Data.List.SplitBy
import Scaffold.Text.Words

/-!
# Splitting into words

The words of a text are its groups of letters and digits in lowercase: the text is cut at all other
characters, and besides before an uppercase letter behind a lowercase letter or a digit. So no
letter is lost and no word is empty.

A separator makes two texts of one. Words that are joined by separators are therefore split again
each for itself, and a word whose characters are their own lowercase forms stays whole, although
joining has left no trace of the case changes between words.
-/

namespace Scaffold.Text

section Separators

variable {separator : Char}

/-- A separator ends the word begun, and what comes behind it is split for itself. -/
theorem wordsFrom_append_cons (hseparator : isAlphanumeric separator = false) (word : List Char)
    (afterLower : Bool) (front back : List Char) :
    wordsFrom word afterLower (front ++ separator :: back) =
      wordsFrom word afterLower front ++ wordsFrom [] false back := by
  fun_induction wordsFrom word afterLower front with
  | case1 word afterLower =>
    rw [List.nil_append, wordsFrom, hseparator]
    rfl
  | case2 word afterLower char rest hchar ih =>
    rw [List.cons_append, wordsFrom, if_pos hchar, ih, List.append_assoc]
  | case3 word afterLower char rest hchar isLow hstarts ih =>
    rw [List.cons_append, wordsFrom, if_neg hchar]
    dsimp only
    rw [if_pos hstarts, ih, List.append_assoc]
  | case4 word afterLower char rest hchar isLow hgoes ih =>
    rw [List.cons_append, wordsFrom, if_neg hchar]
    dsimp only
    rw [if_neg hgoes, ih]

/-- Parts between separators are split each for itself. -/
theorem wordsFrom_intercalate (hseparator : isAlphanumeric separator = false)
    (parts : List (List Char)) :
    wordsFrom [] false ([separator].intercalate parts) = parts.flatMap (wordsFrom [] false) := by
  induction parts with
  | nil => rfl
  | cons first rest ih =>
    cases rest with
    | nil => rw [List.intercalate_singleton, List.flatMap_singleton]
    | cons second rest =>
      rw [List.intercalate_cons_cons, List.append_assoc, List.singleton_append,
        wordsFrom_append_cons hseparator, ih]
      rfl

end Separators

section Groups

/-- A character does not become nothing. -/
theorem CaseMap.expand_ne_nil {mapping : CaseMap} (h : ∀ pair ∈ mapping.expansions, pair.2 ≠ [])
    (char : Char) : mapping.expand char ≠ [] := by
  unfold CaseMap.expand
  split
  case h_1 codes hcodes =>
    obtain ⟨front, back, hparts, -⟩ := List.lookup_eq_some_iff.mp hcodes
    have hpair : (char.toNat, codes) ∈ mapping.expansions :=
      hparts ▸ List.mem_append_right front List.mem_cons_self
    exact mt List.map_eq_nil_iff.mp (h _ hpair)
  case h_2 => split <;> exact List.cons_ne_nil _ _

theorem lowercase_ne_nil (char : Char) : lowercase char ≠ [] :=
  CaseMap.expand_ne_nil (by decide +kernel) char

theorem flatMap_lowercase_ne_nil {group : List Char} (h : group ≠ []) :
    group.flatMap lowercase ≠ [] := by
  obtain ⟨first, rest, rfl⟩ := List.exists_cons_of_ne_nil h
  rw [List.flatMap_cons]
  exact List.append_ne_nil_of_left_ne_nil (lowercase_ne_nil first) _

/-- Whether a letter or digit belongs to the word of the one before it. -/
def isContinued (before char : Char) : Bool :=
  !(isUppercase char && (isLowercase before || isNumeric before))

/-- The groups of letters and digits that become words. -/
def wordGroups (text : String) : List (List Char) :=
  (text.toList.splitOnP fun char => !isAlphanumeric char).flatMap (List.splitBy isContinued)

variable {group chars : List Char}

/-- A group that is not cut is one word. -/
theorem closedWord_group
    (hgroup : group.IsChain fun before char => isContinued before char = true) :
    closedWord (group.flatMap lowercase) =
      (group.splitBy isContinued).map (·.flatMap lowercase) := by
  cases group with
  | nil => rfl
  | cons first rest =>
    have hgroup_ne := List.cons_ne_nil first rest
    rw [closedWord, List.isEmpty_eq_false_iff.mpr (flatMap_lowercase_ne_nil hgroup_ne),
      List.splitBy_of_isChain hgroup_ne hgroup]
    rfl

/-- Letters and digits behind the group of the word begun are grouped with it. -/
theorem wordsFrom_group (hgroup : group.IsChain fun before char => isContinued before char = true)
    (hchars : ∀ char ∈ chars, isAlphanumeric char = true) :
    wordsFrom (group.flatMap lowercase)
        (group.getLast?.any fun last => isLowercase last || isNumeric last) chars =
      ((group ++ chars).splitBy isContinued).map (·.flatMap lowercase) := by
  induction chars generalizing group with
  | nil => rw [List.append_nil, wordsFrom, closedWord_group hgroup]
  | cons char chars ih =>
    obtain ⟨hchar, hrest⟩ := List.forall_mem_cons.mp hchars
    have hletter : ¬(!isAlphanumeric char) = true := by
      rw [hchar]
      decide
    -- The flag remembers all of the group that the next character is compared with.
    have hflag : ∀ last ∈ group.getLast?, isContinued last char =
        !(isUppercase char &&
          group.getLast?.any fun last => isLowercase last || isNumeric last) := by
      intro last hlast
      rw [hlast]
      rfl
    rw [wordsFrom, if_neg hletter]
    dsimp only
    split
    case isTrue hstarts =>
      have hbreak : ∀ last ∈ group.getLast?, ∀ next ∈ (char :: chars).head?,
          isContinued last next = false := by
        intro last hlast next hnext
        cases hnext
        rw [hflag last hlast, hstarts]
        rfl
      rw [closedWord_group hgroup, List.splitBy_append hbreak, List.map_append,
        ← List.singleton_append, ← ih (List.isChain_singleton char) hrest, List.flatMap_singleton,
        List.getLast?_singleton, Option.any_some]
    case isFalse hgoes =>
      have hlonger : (group ++ [char]).IsChain
          fun before char => isContinued before char = true := by
        refine List.isChain_append.mpr ⟨hgroup, List.isChain_singleton char, ?_⟩
        intro last hlast next hnext
        cases hnext
        rw [hflag last hlast, Bool.eq_false_iff.mpr hgoes]
        rfl
      rw [List.append_cons, ← ih hlonger hrest, List.flatMap_append, List.flatMap_singleton,
        List.getLast?_concat, Option.any_some]

/-- Letters and digits without a separator are cut at case changes only. -/
theorem wordsFrom_eq_splitBy (hchars : ∀ char ∈ chars, isAlphanumeric char = true) :
    wordsFrom [] false chars = (chars.splitBy isContinued).map (·.flatMap lowercase) :=
  wordsFrom_group List.isChain_nil hchars

/-- Characters are cut at separators first. -/
theorem wordsFrom_eq_map (chars : List Char) :
    wordsFrom [] false chars =
      ((chars.splitOnP fun char => !isAlphanumeric char).flatMap (List.splitBy isContinued)).map
        (·.flatMap lowercase) := by
  by_cases hall : ∀ char ∈ chars, isAlphanumeric char = true
  · have hnone : ∀ char ∈ chars, (!isAlphanumeric char) = false := by simpa using hall
    rw [wordsFrom_eq_splitBy hall, List.splitOnP_eq_singleton hnone, List.flatMap_singleton]
  · obtain ⟨separator, hmem, hseparator⟩ : ∃ char ∈ chars, isAlphanumeric char = false := by
      simpa using hall
    obtain ⟨front, back, hparts⟩ := List.append_of_mem hmem
    have hlength : chars.length = front.length + (back.length + 1) := by
      rw [hparts, List.length_append, List.length_cons]
    have hcut : (!isAlphanumeric separator) = true := by
      rw [hseparator]
      rfl
    -- Both sides divide at any separator.
    rw [hparts, wordsFrom_append_cons hseparator, List.splitOnP_append_cons front back hcut,
      List.flatMap_append, List.map_append, wordsFrom_eq_map front, wordsFrom_eq_map back]
termination_by chars.length
decreasing_by all_goals omega

/-- The words of a text are its groups in lowercase. -/
theorem words_eq_map_wordGroups (text : String) :
    words text = (wordGroups text).map (·.flatMap lowercase) :=
  wordsFrom_eq_map text.toList

/-- No word is empty. -/
theorem ne_nil_of_mem_words {text : String} {part : List Char} (h : part ∈ words text) :
    part ≠ [] := by
  rw [words_eq_map_wordGroups] at h
  obtain ⟨group, hgroup, rfl⟩ := List.mem_map.mp h
  obtain ⟨piece, -, hpiece⟩ := List.mem_flatMap.mp hgroup
  exact flatMap_lowercase_ne_nil (List.ne_nil_of_mem_splitBy hpiece)

end Groups

section Contents

theorem flatten_closedWord (word : List Char) : (closedWord word).flatten = word := by
  rw [closedWord]
  split
  case isTrue hempty => rw [List.isEmpty_iff.mp hempty, List.flatten_nil]
  case isFalse => exact List.flatten_singleton

/-- No letter or digit is lost, and no other character is kept. -/
theorem flatten_wordsFrom (word : List Char) (afterLower : Bool) (chars : List Char) :
    (wordsFrom word afterLower chars).flatten =
      word ++ (chars.filter isAlphanumeric).flatMap lowercase := by
  fun_induction wordsFrom word afterLower chars with
  | case1 word => rw [flatten_closedWord, List.filter_nil, List.flatMap_nil, List.append_nil]
  | case2 word afterLower char rest hchar ih =>
    have hcut : ¬isAlphanumeric char = true := by simpa using hchar
    rw [List.flatten_append, flatten_closedWord, ih, List.nil_append, List.filter_cons_of_neg hcut]
  | case3 word afterLower char rest hchar isLow hstarts ih =>
    have hkept : isAlphanumeric char = true := by simpa using hchar
    rw [List.flatten_append, flatten_closedWord, ih, List.filter_cons_of_pos hkept,
      List.flatMap_cons]
  | case4 word afterLower char rest hchar isLow hgoes ih =>
    have hkept : isAlphanumeric char = true := by simpa using hchar
    rw [ih, List.filter_cons_of_pos hkept, List.flatMap_cons, List.append_assoc]

/-- The words of a text together are its letters and digits in lowercase. -/
theorem flatten_words (text : String) :
    (words text).flatten = (text.toList.filter isAlphanumeric).flatMap lowercase :=
  flatten_wordsFrom [] false text.toList

/-- A character of a word comes from a letter or digit of the text. -/
theorem exists_of_mem_words {text : String} {part : List Char} (hpart : part ∈ words text)
    {image : Char} (himage : image ∈ part) :
    ∃ char ∈ text.toList, isAlphanumeric char = true ∧ image ∈ lowercase char := by
  have hflat : image ∈ (words text).flatten := List.mem_flatten.mpr ⟨part, hpart, himage⟩
  rw [flatten_words] at hflat
  obtain ⟨char, hchar, hfrom⟩ := List.mem_flatMap.mp hflat
  obtain ⟨hmem, hletter⟩ := List.mem_filter.mp hchar
  exact ⟨char, hmem, hletter, hfrom⟩

end Contents

section Settled

/-- A letter or digit that is its own lowercase form. -/
structure IsLowered (char : Char) : Prop where
  /-- It is a letter or digit. -/
  alphanumeric : isAlphanumeric char = true
  /-- It is not uppercase. -/
  not_uppercase : isUppercase char = false
  /-- It is its own lowercase form. -/
  own : lowercase char = [char]

instance (char : Char) : Decidable (IsLowered char) :=
  decidable_of_iff
    (isAlphanumeric char = true ∧ isUppercase char = false ∧ lowercase char = [char])
    ⟨fun ⟨alphanumeric, not_uppercase, own⟩ => ⟨alphanumeric, not_uppercase, own⟩,
      fun ⟨alphanumeric, not_uppercase, own⟩ => ⟨alphanumeric, not_uppercase, own⟩⟩

/-- The lowercase form of a character consists of letters and digits that are their own ones. -/
def LowersForGood (char : Char) : Prop := ∀ image ∈ lowercase char, IsLowered image

-- The instance goes through the characters that occur; there is another one that goes through all.
instance : DecidablePred LowersForGood := fun char => List.decidableBAll _ (lowercase char)

/-- The lowercase forms of the letters and digits of a text are final. -/
def LowersFully (text : String) : Prop :=
  ∀ char ∈ text.toList, isAlphanumeric char = true → LowersForGood char

instance (text : String) : Decidable (LowersFully text) := List.decidableBAll _ text.toList

/-- A word of characters that are their own lowercase forms stays whole. -/
theorem wordsFrom_of_isLowered {part : List Char} (hne : part ≠ [])
    (hpart : ∀ char ∈ part, IsLowered char) : wordsFrom [] false part = [part] := by
  have hchain : part.IsChain fun before char => isContinued before char = true := by
    refine (List.pairwise_of_forall_mem_list fun before _ char hchar => ?_).isChain
    rw [isContinued, (hpart char hchar).not_uppercase]
    rfl
  have hown : part.flatMap lowercase = part := by
    rw [List.flatMap_congr fun char hchar => (hpart char hchar).own, List.flatMap_singleton']
  rw [wordsFrom_eq_splitBy fun char hchar => (hpart char hchar).alphanumeric,
    List.splitBy_of_isChain hne hchain, List.map_singleton, hown]

theorem isAlphanumeric_underscore : isAlphanumeric '_' = false := by decide +kernel

/-- The words of a name in snake case are those of its words. -/
theorem words_snakeCase_eq_flatMap (text : String) :
    words (snakeCase text) = (words text).flatMap (wordsFrom [] false) := by
  rw [words, snakeCase, String.toList_ofList, wordsFrom_intercalate isAlphanumeric_underscore]

variable {text : String}

/-- Where lowercase forms are final, a name in snake case keeps its words. -/
theorem words_snakeCase (h : LowersFully text) : words (snakeCase text) = words text := by
  have hwhole : ∀ part ∈ words text, wordsFrom [] false part = [part] := by
    intro part hpart
    refine wordsFrom_of_isLowered (ne_nil_of_mem_words hpart) fun image himage => ?_
    obtain ⟨char, hchar, hletter, hfrom⟩ := exists_of_mem_words hpart himage
    exact h char hchar hletter image hfrom
  rw [words_snakeCase_eq_flatMap, List.flatMap_congr hwhole, List.flatMap_singleton']

/-- A name in snake case is its own. -/
theorem snakeCase_snakeCase (h : LowersFully text) :
    snakeCase (snakeCase text) = snakeCase text := by
  rw [snakeCase, words_snakeCase h, ← snakeCase]

/-- A capital that becomes a letter and a mark loses the mark only at the second time. -/
example : ¬LowersFully "İ" ∧ snakeCase (snakeCase "İ") ≠ snakeCase "İ" := by decide +kernel

/-- The name of the type is the same, told from the text or from the name of the directory. -/
theorem pascalCase_snakeCase (h : LowersFully text) :
    pascalCase (snakeCase text) = pascalCase text := by
  rw [pascalCase, words_snakeCase h, ← pascalCase]

end Settled

section Ascii

variable {char : Char}

/-- The capital letters of ASCII. -/
def asciiCapitals : List CodeRun := [⟨0x41, 0x5A, 1⟩]

/-- The letters and digits of ASCII. -/
def asciiAlphanumerics : List CodeRun := [⟨0x41, 0x5A, 1⟩, ⟨0x61, 0x7A, 1⟩, ⟨0x30, 0x39, 1⟩]

/-- A run meets no code below its first one. -/
theorem CodeRun.not_meets_of_lt {run : CodeRun} {code : Nat} (h : code < run.first) :
    run.meets code = false := by
  rw [meets, decide_eq_false (Nat.not_le_of_lt h), Bool.false_and, Bool.false_and]

/-- Runs that begin at or behind a bound do not meet what comes before it. -/
theorem CodeRun.anyMeets_filter {bound : Nat} (h : char.toNat < bound) (runs : List CodeRun) :
    anyMeets (runs.filter fun run => run.first < bound) char = anyMeets runs char := by
  rw [anyMeets, anyMeets, List.any_filter]
  congr 1
  funext run
  by_cases hfirst : run.first < bound
  · rw [decide_eq_true hfirst, Bool.true_and]
  · rw [decide_eq_false hfirst, Bool.false_and, not_meets_of_lt (by omega)]

/-- Of ASCII, the letters and digits are alphanumeric. -/
theorem isAlphanumeric_of_lt (h : char.toNat < 128) :
    isAlphanumeric char = CodeRun.anyMeets asciiAlphanumerics char := by
  have halphabetic : (alphabeticRuns.filter fun run => run.first < 128) =
      [⟨0x41, 0x5A, 1⟩, ⟨0x61, 0x7A, 1⟩] := by decide +kernel
  have hnumeric : (numericRuns.filter fun run => run.first < 128) = [⟨0x30, 0x39, 1⟩] := by
    decide +kernel
  rw [isAlphanumeric, isAlphabetic, isNumeric, ← CodeRun.anyMeets_filter h,
    ← CodeRun.anyMeets_filter h numericRuns, halphabetic, hnumeric]
  exact List.any_append.symm

/-- Of ASCII, the capitals are in upper case. -/
theorem isUppercase_of_lt (h : char.toNat < 128) :
    isUppercase char = CodeRun.anyMeets asciiCapitals char := by
  have hcapitals : (uppercaseRuns.filter fun run => run.first < 128) = asciiCapitals := by
    decide +kernel
  rw [isUppercase, ← CodeRun.anyMeets_filter h, hcapitals]

/-- The lowercase form of a character of ASCII. -/
def asciiLowercase (char : Char) : Char :=
  if CodeRun.anyMeets asciiCapitals char then Char.ofNat (char.toNat + 32) else char

/-- Of ASCII, a character has a small form of one character. -/
theorem lowercase_of_lt (h : char.toNat < 128) : lowercase char = [asciiLowercase char] := by
  have hsingle : ∀ pair ∈ lowercaseMap.expansions, 128 ≤ pair.1 := by decide
  have hothers : ∀ shift ∈ lowercaseMap.shifts.tail, 128 ≤ shift.run.first := by decide +kernel
  have hlookup : lowercaseMap.expansions.lookup char.toNat = none := by
    rw [List.lookup_eq_none_iff]
    intro pair hpair
    have hfar := hsingle pair hpair
    exact bne_iff_ne.mpr (by omega)
  have hrest : lowercaseMap.shifts.tail.findSome? (·.image? char.toNat) = none := by
    rw [List.findSome?_eq_none_iff]
    intro shift hshift
    have hfar := hothers shift hshift
    rw [CaseShift.image?, CodeRun.not_meets_of_lt (by omega)]
    rfl
  have hparts : lowercaseMap.shifts = ⟨⟨0x41, 0x5A, 1⟩, 32⟩ :: lowercaseMap.shifts.tail := rfl
  have hcapital : CodeRun.anyMeets asciiCapitals char = CodeRun.meets ⟨0x41, 0x5A, 1⟩ char.toNat :=
    Bool.or_false _
  rw [lowercase, CaseMap.expand, hlookup, hparts, List.findSome?_cons, hrest, CaseShift.image?,
    asciiLowercase, hcapital]
  cases CodeRun.meets ⟨0x41, 0x5A, 1⟩ char.toNat <;> rfl

/-- Lowercase forms are final in ASCII. -/
theorem lowersFully_of_isAscii {text : String} (h : ∀ char ∈ text.toList, char.isAscii = true) :
    LowersFully text := by
  have hcodes : ∀ code < 128,
      let image := asciiLowercase (Char.ofNat code)
      CodeRun.anyMeets asciiAlphanumerics (Char.ofNat code) = true →
        image.toNat < 128 ∧ CodeRun.anyMeets asciiAlphanumerics image = true ∧
          CodeRun.anyMeets asciiCapitals image = false := by decide +kernel
  intro char hchar hletter image himage
  have hascii := of_decide_eq_true (h char hchar)
  rw [lowercase_of_lt hascii, List.mem_singleton] at himage
  subst himage
  have hcode := hcodes char.toNat hascii
  rw [Char.ofNat_toNat, ← isAlphanumeric_of_lt hascii] at hcode
  obtain ⟨hsmall, halphanumeric, hnot⟩ := hcode hletter
  refine ⟨(isAlphanumeric_of_lt hsmall).trans halphanumeric,
    (isUppercase_of_lt hsmall).trans hnot, ?_⟩
  rw [lowercase_of_lt hsmall, asciiLowercase, hnot]
  rfl

end Ascii

end Scaffold.Text
