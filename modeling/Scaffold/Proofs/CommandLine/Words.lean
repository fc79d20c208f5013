import Scaffold.CommandLine.Invocation

/-!
# Words of a command line

How a flag is written, alone or with a text joined to it, and how such a word is read again. A flag
holds no equals sign, so that everything behind the first one is the text, whatever it is. No name
that can be used starts with a hyphen, so a flag is never taken for a command.
-/

namespace Scaffold

namespace Name

variable {name : String}

/-- A name holds no equals sign. -/
theorem equals_notMem_of_isValid (valid : isValid name = true) : '=' ∉ name.toList := by
  rw [isValid, Bool.and_eq_true, List.all_eq_true] at valid
  intro hequals
  have hsign : isNameChar '=' = false := by decide +kernel
  rw [valid.2 '=' hequals] at hsign
  cases hsign

/-- A name does not start with a hyphen. -/
theorem head?_ne_hyphen_of_isValid (valid : isValid name = true) :
    name.toList.head? ≠ some '-' := by
  rw [isValid, Bool.and_eq_true] at valid
  intro hhead
  rw [hhead] at valid
  exact absurd valid.1 (by decide)

/-- A name is not empty. -/
theorem ne_empty_of_isValid (valid : isValid name = true) : name ≠ "" := by
  rintro rfl
  exact absurd valid (by decide)

end Name

/-- A flag in one word, alone or with a text joined to it. -/
def flagWord (flag : String) : Option String → String
  | none => "--" ++ flag
  | some text => "--" ++ flag ++ "=" ++ text

/-- The word gives the flag of a name, alone or with a value behind an equals sign. -/
def GivesFlag (name word : String) : Prop :=
  word = "--" ++ name ∨ ("--" ++ name ++ "=").toList <+: word.toList

instance (name word : String) : Decidable (GivesFlag name word) :=
  inferInstanceAs (Decidable (_ ∨ _))

/-- The word of a flag starts with a hyphen. -/
theorem head?_flagWord (flag : String) (text? : Option String) :
    (flagWord flag text?).toList.head? = some '-' := by
  cases text? <;> simp [flagWord, String.toList_append]

namespace CommandWord

/-- A word with two hyphens is a flag with the text behind the first equals sign, if it has one. -/
theorem of_flagWord {flag : String} (hne : flag ≠ "") (hequals : '=' ∉ flag.toList)
    (text? : Option String) : CommandWord.of (flagWord flag text?) = .flag flag text? := by
  have hplain : ∀ char ∈ flag.toList, (char != '=') = true := by
    intro char hchar
    rw [bne_iff_ne]
    rintro rfl
    exact hequals hchar
  obtain ⟨behind, hbehind⟩ : ∃ behind, behind =
      (match text? with | none => [] | some text => '=' :: text.toList : List Char) := ⟨_, rfl⟩
  have hword : (flagWord flag text?).toList = '-' :: '-' :: (flag.toList ++ behind) := by
    cases text? <;> simp [flagWord, hbehind, String.toList_append]
  have hname : (flag.toList ++ behind).takeWhile (· != '=') = flag.toList := by
    rw [List.takeWhile_append_of_pos hplain, hbehind]
    cases text? <;> simp
  have hvalue : (flag.toList ++ behind).dropWhile (· != '=') = behind := by
    rw [List.dropWhile_append_of_pos hplain, hbehind]
    cases text? <;> simp
  rw [CommandWord.of, hword]
  split
  case h_1 hseparator =>
    have hempty := (List.cons.inj (List.cons.inj hseparator).2).2
    exact absurd (List.append_eq_nil_iff.mp hempty).1 (by simpa using hne)
  case h_2 rest _ hflag =>
    obtain rfl := (List.cons.inj (List.cons.inj hflag).2).2
    simp only [hname, hvalue, String.ofList_toList]
    cases text? <;> simp [hbehind]
  case h_3 letter rest _ hletter hletters =>
    exact (hletter (List.cons.inj (List.cons.inj hletters).2).1.symm).elim
  case h_4 _ _ hletters => exact (hletters '-' _ rfl).elim

/-- A word that is read as a flag gives this flag. -/
theorem givesFlag_of {word name : String} {value? : Option String}
    (h : CommandWord.of word = .flag name value?) : GivesFlag name word := by
  unfold CommandWord.of at h
  split at h
  case h_1 => cases h
  case h_2 rest _ hword =>
    have hrest := List.takeWhile_append_dropWhile (p := (· != '=')) (l := rest)
    split at h
    case h_1 hnone =>
      cases h
      rw [hnone, List.append_nil] at hrest
      refine .inl (String.toList_inj.mp ?_)
      simp only [hword, hrest, String.toList_append, String.toList_ofList]
      rfl
    case h_2 sign value hsome =>
      cases h
      have hsign : sign = '=' := by
        have hhead := List.head?_dropWhile_not (· != '=') rest
        rw [hsome] at hhead
        simpa using hhead
      rw [hsome, hsign] at hrest
      refine .inr ⟨value, ?_⟩
      simp only [hword, String.toList_append, String.toList_ofList, List.append_assoc]
      exact congrArg (['-', '-'] ++ ·) hrest
  case h_3 => cases h
  case h_4 => cases h

/-- Letters stand in their word. -/
theorem mem_of_letters {word : String} {letters : List Char}
    (h : CommandWord.of word = .letters letters) {letter : Char} (hletter : letter ∈ letters) :
    letter ∈ word.toList := by
  unfold CommandWord.of at h
  split at h
  case h_1 => cases h
  case h_2 => split at h <;> cases h
  case h_3 hword =>
    cases h
    rw [hword]
    exact List.mem_cons_of_mem '-' hletter
  case h_4 => cases h

end CommandWord

/-- The value of a parameter in one word. -/
def optionWord (entry : String × OptionValue) : String := "--" ++ entry.1 ++ "=" ++ entry.2.render

namespace Switch

/-- A switch in one word. -/
def word (switch : Switch) : String := "--" ++ switch.flag

theorem mem_all (switch : Switch) : switch ∈ all := by cases switch <;> decide

/-- Switches are told apart by their flags. -/
theorem flag_injective : Function.Injective flag := by
  intro first second h
  cases first <;> cases second <;> first | rfl | exact absurd h (by decide)

/-- No parameter may take the flag of a switch. -/
theorem flag_mem_reservedFlags (switch : Switch) : switch.flag ∈ Name.reservedFlags := by
  cases switch <;> decide

end Switch

end Scaffold
