import Scaffold.Proofs.Text.Substitution
import Scaffold.Text.Styled

/-!
# Texts without their colours

A coloured text is read without its colours by taking away every sequence that opens or resets a
colour. Of a painter it is taken for granted that it puts one of these sequences before a text
without escape character and one behind it, and leaves the text as it is.

A text shows another one if that is what is left of it, whatever stands behind it: texts without
escape character show themselves, colour sequences show nothing, and what texts put together show is
put together from what they show.
-/

namespace Scaffold.Text

/-- The character that every colour sequence starts with. -/
def escapeMark : Char := '\x1b'

/-- The sequences by which texts are coloured. -/
def colourSequences : List String :=
  [resetSequence, Colour.red.openSequence, Colour.green.openSequence, Colour.blue.openSequence,
    Colour.magenta.openSequence, Colour.cyan.openSequence, Colour.brightBlack.openSequence]

/-- The colour sequences with nothing in the places of them. -/
def colourless : List (List Char × List Char) :=
  colourSequences.map fun sequence => (sequence.toList, [])

/-- The text without colour sequences. -/
def withoutColours (text : String) : String :=
  replaceTogether (colourSequences.map fun sequence => (sequence, "")) text

/-- Whether a text holds no escape character. -/
def IsUnescaped (text : String) : Prop := escapeMark ∉ text.toList

instance (text : String) : Decidable (IsUnescaped text) :=
  inferInstanceAs (Decidable (escapeMark ∉ text.toList))

/-- Colours are taken away by putting nothing in their place. -/
theorem withoutColours_eq (text : String) :
    withoutColours text = String.ofList (substituteTogether colourless 0 text.toList) := by
  rw [withoutColours, replaceTogether, List.map_map]
  rfl

/-- The sequence that opens a colour is a colour sequence. -/
theorem Colour.openSequence_mem (colour : Colour) : colour.openSequence ∈ colourSequences := by
  cases colour <;> simp [colourSequences]

theorem resetSequence_mem : resetSequence ∈ colourSequences := List.mem_cons_self

/-- Every colour sequence starts with the escape character. -/
theorem head?_of_mem_colourSequences :
    ∀ sequence ∈ colourSequences, sequence.toList.head? = some escapeMark := by
  decide

/-- No colour sequence is the start of another one. -/
theorem eq_of_prefix_of_mem_colourSequences :
    ∀ sequence ∈ colourSequences, ∀ other ∈ colourSequences,
      sequence.toList <+: other.toList → sequence = other := by
  decide

/-- A text that starts with one colour sequence starts with no other one. -/
theorem find?_colourless {sequence : String} (h : sequence ∈ colourSequences) (rest : List Char) :
    (colourless.find? fun pair => pair.1.isPrefixOf (sequence.toList ++ rest)) =
      some (sequence.toList, []) := by
  have hown : (sequence.toList, []) ∈ colourless := List.mem_map.mpr ⟨sequence, h, rfl⟩
  cases hfound : colourless.find? fun pair => pair.1.isPrefixOf (sequence.toList ++ rest) with
  | none =>
    have hmissed := List.find?_eq_none.mp hfound _ hown
    exact absurd (List.isPrefixOf_iff_prefix.mpr (List.prefix_append _ rest)) hmissed
  | some pair =>
    obtain ⟨other, hother, rfl⟩ := List.mem_map.mp (List.mem_of_find?_eq_some hfound)
    have htest := List.find?_some hfound
    have hstarts : other.toList <+: sequence.toList ++ rest := List.isPrefixOf_iff_prefix.mp htest
    have heq : other = sequence := by
      obtain hprefix | hprefix :=
        List.prefix_or_prefix_of_prefix hstarts (List.prefix_append sequence.toList rest)
      · exact eq_of_prefix_of_mem_colourSequences other hother sequence h hprefix
      · exact (eq_of_prefix_of_mem_colourSequences sequence h other hother hprefix).symm
    rw [heq]

/-- No token that starts with an escape character starts in a text without any. -/
theorem IsUnescaped.bare {text : String} (unescaped : IsUnescaped text) {token : List Char}
    (htoken : token.head? = some escapeMark) (rest : List Char) : Bare token text.toList rest := by
  rintro back hback hne ⟨after, hstarts⟩
  obtain ⟨char, others, rfl⟩ := List.exists_cons_of_ne_nil hne
  obtain ⟨tail, rfl⟩ := List.head?_eq_some_iff.mp htoken
  rw [List.cons_append, List.cons_append, List.cons_eq_cons] at hstarts
  exact unescaped (hstarts.1 ▸ hback.mem List.mem_cons_self)

/-- Texts put together hold no escape character if neither of them does. -/
theorem isUnescaped_append {front back : String} :
    IsUnescaped (front ++ back) ↔ IsUnescaped front ∧ IsUnescaped back := by
  rw [IsUnescaped, String.toList_append, List.mem_append, not_or]
  rfl

/-- Digits are no escape characters. -/
theorem isUnescaped_toString (number : Nat) : IsUnescaped (toString number) := by
  intro hescape
  rw [Nat.toString_eq_ofList_toDigits, String.toList_ofList] at hescape
  exact absurd (Nat.isDigit_of_mem_toDigits (by decide) (by decide) hescape) (by decide)

/-- A text without escape character has its colour painted around it. -/
theorem IsUnescaped.paint_eq {plain : String} (unescaped : IsUnescaped plain) (colour : Colour) :
    colour.paint plain = colour.openSequence ++ plain ++ resetSequence := by
  have hkept : replaceAll resetSequence (resetSequence ++ colour.openSequence) plain = plain := by
    have hbare : ∀ pair ∈ [(resetSequence.toList, (resetSequence ++ colour.openSequence).toList)],
        Bare pair.1 plain.toList [] := fun pair hpair => by
      rw [List.mem_singleton.mp hpair]
      exact unescaped.bare (head?_of_mem_colourSequences _ resetSequence_mem) []
    have hpassed := substituteTogether_append hbare
    rw [List.append_nil, substituteTogether, List.append_nil] at hpassed
    rw [replaceAll_eq (by decide), replaceTogether]
    exact (congrArg String.ofList hpassed).trans String.ofList_toList
  rw [Colour.paint, hkept]

/-- What is taken for granted of a painter: a text without escape character stands as it is between
two colour sequences. -/
class LawfulPainter [Painter] : Prop where
  /-- The text is between two colour sequences. -/
  paint_eq : ∀ (colour : Colour) {plain : String}, IsUnescaped plain →
    ∃ front ∈ colourSequences, ∃ back ∈ colourSequences,
      Painter.paint colour plain = front ++ plain ++ back

instance : LawfulPainter where
  paint_eq colour _ unescaped := ⟨_, colour.openSequence_mem, _, resetSequence_mem,
    unescaped.paint_eq colour⟩

/-- What is left of the first text without its colours is the second one, whatever follows. -/
def Shows (styled plain : String) : Prop :=
  ∀ rest, substituteTogether colourless 0 (styled.toList ++ rest) =
    plain.toList ++ substituteTogether colourless 0 rest

namespace Shows

variable {styled plain styled' plain' : String}

/-- What a text shows is what is left of it without its colours. -/
theorem withoutColours_eq (h : Shows styled plain) : withoutColours styled = plain := by
  have hall := h []
  rw [List.append_nil, substituteTogether, List.append_nil] at hall
  rw [Text.withoutColours_eq, hall, String.ofList_toList]

/-- What two texts show, they show one behind the other. -/
theorem append (h : Shows styled plain) (h' : Shows styled' plain') :
    Shows (styled ++ styled') (plain ++ plain') := by
  intro rest
  rw [String.toList_append, String.toList_append, List.append_assoc, List.append_assoc, h, h']

/-- A text without escape character is shown as it is. -/
theorem of_unescaped (unescaped : IsUnescaped plain) : Shows plain plain := by
  intro rest
  refine substituteTogether_append fun pair hpair => ?_
  obtain ⟨sequence, hsequence, rfl⟩ := List.mem_map.mp hpair
  exact unescaped.bare (head?_of_mem_colourSequences sequence hsequence) rest

/-- A colour sequence shows nothing. -/
theorem of_mem_colourSequences {sequence : String} (h : sequence ∈ colourSequences) :
    Shows sequence "" := by
  intro rest
  refine substituteTogether_token (fun hnil => ?_) (find?_colourless h rest)
  have hhead := head?_of_mem_colourSequences sequence h
  rw [hnil] at hhead
  cases hhead

/-- A text without escape character is shown in every colour. -/
theorem paintIf [Painter] [LawfulPainter] (colours : Bool) (colour : Colour)
    (unescaped : IsUnescaped plain) : Shows (paintIf colours colour plain) plain := by
  cases colours with
  | false => exact of_unescaped unescaped
  | true =>
    obtain ⟨front, hfront, back, hback, hpaint⟩ := LawfulPainter.paint_eq colour unescaped
    have hshown := ((of_mem_colourSequences hfront).append (of_unescaped unescaped)).append
      (of_mem_colourSequences hback)
    rw [String.empty_append, String.append_empty] at hshown
    rw [Text.paintIf, if_pos rfl, hpaint]
    exact hshown

/-- Texts with a separator between them show what each of them shows. -/
theorem intercalate {separator : String} (unescaped : IsUnescaped separator) {α : Type}
    {styled plain : α → String} {items : List α}
    (h : ∀ item ∈ items, Shows (styled item) (plain item)) :
    Shows (separator.intercalate (items.map styled)) (separator.intercalate (items.map plain)) := by
  induction items with
  | nil =>
    rw [List.map_nil, List.map_nil, String.intercalate_nil]
    exact of_unescaped (by decide)
  | cons first rest ih =>
    obtain ⟨hfirst, hrest⟩ := List.forall_mem_cons.mp h
    cases rest with
    | nil => simpa using hfirst
    | cons second rest =>
      rw [List.map_cons, List.map_cons, List.map_cons, List.map_cons,
        String.intercalate_cons_cons, String.intercalate_cons_cons]
      exact (hfirst.append (of_unescaped unescaped)).append (ih hrest)

end Shows

end Scaffold.Text
