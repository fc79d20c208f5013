import Scaffold.Name
import Scaffold.Proofs.Text.Substitution
import Scaffold.Template

/-!
# Placeholders

A template is a text of literals with placeholders between them, each a name with two underscores on
either side. Where two placeholders are kept apart by a character that no name has, and underscores
stand single everywhere else, a token occurs nowhere but in its own placeholder, before and after
other tokens were replaced. So every placeholder gets the value of its own name, whatever the order
of the replacements is.
-/

namespace Scaffold

open Text

/-- Underscores stand neither at the ends of the characters nor next to each other. -/
structure Text.IsLoose (chars : List Char) : Prop where
  /-- No two underscores stand together. -/
  single : ¬['_', '_'] <:+: chars
  /-- No underscore comes first. -/
  head : chars.head? ≠ some '_'
  /-- No underscore comes last. -/
  last : chars.getLast? ≠ some '_'

instance (chars : List Char) : Decidable (IsLoose chars) :=
  decidable_of_iff (¬['_', '_'] <:+: chars ∧ chars.head? ≠ some '_' ∧ chars.getLast? ≠ some '_')
    ⟨fun ⟨single, head, last⟩ => ⟨single, head, last⟩,
      fun ⟨single, head, last⟩ => ⟨single, head, last⟩⟩

/-- A name that a placeholder can have. -/
structure IsPlaceholderName (name : String) : Prop where
  /-- It can be a flag. -/
  valid : Name.isValid name = true
  /-- It is distinct from the underscores around it. -/
  loose : IsLoose name.toList

instance (name : String) : Decidable (IsPlaceholderName name) :=
  decidable_of_iff (Name.isValid name = true ∧ IsLoose name.toList)
    ⟨fun ⟨valid, loose⟩ => ⟨valid, loose⟩, fun ⟨valid, loose⟩ => ⟨valid, loose⟩⟩

/-- The token of a name. -/
def placeholderToken (name : String) : String := "__" ++ name ++ "__"

/-- A placeholder with the literal behind it. -/
structure Slot where
  /-- The name of the placeholder. -/
  name : String
  /-- The characters up to the next placeholder or the end. -/
  literal : List Char
  deriving Repr, DecidableEq

/-- What stands in the place of the placeholder: its value, or its token where it has none. -/
def Slot.shown (values : String → Option String) (slot : Slot) : String :=
  (values slot.name).getD (placeholderToken slot.name)

/-- A character that no name has stands behind the placeholder. -/
def Slot.IsApart (slot : Slot) : Prop := ∃ char ∈ slot.literal, Name.isNameChar char = false

-- Only the literal is searched, not all characters that there are.
instance (slot : Slot) : Decidable slot.IsApart := List.decidableBEx _ slot.literal

/-- A template text, cut at its placeholders. -/
structure Layout where
  /-- The characters in front of the first placeholder. -/
  opening : List Char
  /-- The placeholders, each with the literal behind it. -/
  slots : List Slot
  deriving Repr, DecidableEq

/-- The characters of placeholders with their values, and of the literals behind them. -/
def spelled (values : String → Option String) (slots : List Slot) : List Char :=
  slots.flatMap fun slot => (slot.shown values).toList ++ slot.literal

/-- The text in which the placeholders have their values, as far as there are any. -/
def Layout.filled (values : String → Option String) (layout : Layout) : String :=
  String.ofList (layout.opening ++ spelled values layout.slots)

/-- The template text itself. -/
def Layout.text (layout : Layout) : String := layout.filled fun _ => none

/-- Placeholders that are kept apart, and literals in which underscores stand single. -/
structure AreSeparated (slots : List Slot) : Prop where
  /-- The placeholders have names. -/
  names : ∀ slot ∈ slots, IsPlaceholderName slot.name
  /-- No literal has two underscores together. -/
  literals : ∀ slot ∈ slots, ¬['_', '_'] <:+: slot.literal
  /-- Between two placeholders stands a character that no name has. -/
  apart : slots.IsChain fun slot _ => slot.IsApart

instance (slots : List Slot) : Decidable (AreSeparated slots) :=
  decidable_of_iff ((∀ slot ∈ slots, IsPlaceholderName slot.name) ∧
      (∀ slot ∈ slots, ¬['_', '_'] <:+: slot.literal) ∧
      slots.IsChain fun slot _ => slot.IsApart)
    ⟨fun ⟨names, literals, apart⟩ => ⟨names, literals, apart⟩,
      fun ⟨names, literals, apart⟩ => ⟨names, literals, apart⟩⟩

/-- A layout whose placeholders are kept apart. -/
structure Layout.IsSeparated (layout : Layout) : Prop where
  /-- The literal in front has no two underscores together. -/
  opening : ¬['_', '_'] <:+: layout.opening
  /-- The placeholders are kept apart. -/
  slots : AreSeparated layout.slots

instance (layout : Layout) : Decidable layout.IsSeparated :=
  decidable_of_iff (¬['_', '_'] <:+: layout.opening ∧ AreSeparated layout.slots)
    ⟨fun ⟨opening, slots⟩ => ⟨opening, slots⟩, fun ⟨opening, slots⟩ => ⟨opening, slots⟩⟩

section Loose

variable {chars front rest tail : List Char}

/-- A text without underscores is loose. -/
theorem Text.isLoose_of_not_mem (h : '_' ∉ chars) : IsLoose chars where
  single hpair := h (hpair.subset List.mem_cons_self)
  head hhead := h (List.mem_of_mem_head? hhead)
  last hlast := h (List.mem_of_getLast? hlast)

/-- What starts with two underscores starts nowhere in characters where underscores stand single,
unless it starts in an underscore at the end. -/
theorem Text.bare_of_single (hsingle : ¬['_', '_'] <:+: chars)
    (hlast : chars.getLast? = some '_' → ¬ '_' :: '_' :: tail <+: '_' :: rest) :
    Bare ('_' :: '_' :: tail) chars rest := by
  intro back hback hne hstarts
  match back with
  | [] => exact hne rfl
  | [char] =>
    obtain ⟨rfl, -⟩ := List.cons_prefix_cons.mp hstarts
    obtain ⟨others, rfl⟩ := hback
    exact hlast List.getLast?_concat hstarts
  | first :: second :: others =>
    simp only [List.cons_append, List.cons_prefix_cons] at hstarts
    obtain ⟨rfl, rfl, -⟩ := hstarts
    exact hsingle ((List.prefix_append ['_', '_'] others).isInfix.trans hback.isInfix)

/-- No token starts in a loose text. -/
theorem Text.IsLoose.bare (h : IsLoose chars) : Bare ('_' :: '_' :: tail) chars rest :=
  bare_of_single h.single fun hlast => absurd hlast h.last

/-- Two underscores do not start in the last one of them that stands in front of loose
characters. -/
theorem Text.IsLoose.not_starts_before (h : IsLoose chars) (hne : chars ≠ []) :
    ¬ '_' :: '_' :: tail <+: '_' :: (chars ++ rest) := by
  cases chars with
  | nil => exact absurd rfl hne
  | cons char others =>
    simp only [List.cons_append, List.cons_prefix_cons, true_and]
    rintro ⟨rfl, -⟩
    exact h.head List.head?_cons

/-- The end of loose characters is where two underscores stand together first. -/
theorem Text.IsLoose.eq_of_ended (h : IsLoose chars)
    (hstarts : front ++ ['_', '_'] <+: chars ++ ['_', '_']) : front = chars := by
  obtain ⟨others, hothers⟩ := hstarts
  rw [List.append_assoc] at hothers
  obtain ⟨back, rfl, hback⟩ | ⟨back, rfl, hback⟩ := List.append_eq_append_iff.mp hothers
  · have hnil : back = [] := by
      by_contra hne
      exact h.bare back (List.suffix_append front back) hne ⟨others, hback⟩
    rw [hnil, List.append_nil]
  · have hlength := congrArg List.length hback
    rw [List.length_append, List.length_append] at hlength
    have hnil : back = [] := List.length_eq_zero_iff.mp (by omega)
    rw [hnil, List.append_nil]

end Loose

section Token

variable {name other : String} {rest : List Char}

/-- A token is its name between two underscores on either side. -/
theorem toList_placeholderToken (name : String) :
    (placeholderToken name).toList = '_' :: '_' :: (name.toList ++ ['_', '_']) := by
  rw [placeholderToken, String.toList_append, String.toList_append, List.append_assoc]
  rfl

/-- Tokens are told apart by their names. -/
theorem placeholderToken_injective : Function.Injective placeholderToken := by
  intro name other h
  have hchars := congrArg String.toList h
  rw [toList_placeholderToken, toList_placeholderToken] at hchars
  exact String.toList_inj.mp (List.append_cancel_right (List.cons.inj (List.cons.inj hchars).2).2)

theorem IsPlaceholderName.toList_ne_nil (h : IsPlaceholderName name) : name.toList ≠ [] := by
  obtain ⟨first, hfirst, -⟩ := (Option.any_eq_true ..).mp (Bool.and_eq_true_iff.mp h.valid).1
  exact List.ne_nil_of_mem (List.mem_of_mem_head? hfirst)

/-- An underscore in front of a token is not the first one of a token. -/
theorem IsPlaceholderName.not_starts_early (h : IsPlaceholderName name) (other : String)
    (rest : List Char) :
    ¬(placeholderToken name).toList <+: '_' :: ((placeholderToken other).toList ++ rest) := by
  simp only [toList_placeholderToken, List.cons_append, List.cons_prefix_cons, true_and]
  cases hname : name.toList with
  | nil => exact absurd hname h.toList_ne_nil
  | cons first others =>
    rw [List.cons_append, List.cons_prefix_cons]
    rintro ⟨rfl, -⟩
    exact h.loose.head (by rw [hname, List.head?_cons])

/-- One token stands where another one starts only if they are the same. -/
theorem IsPlaceholderName.eq_of_starts (h : IsPlaceholderName name)
    (hother : IsPlaceholderName other)
    (hstarts : (placeholderToken name).toList <+: (placeholderToken other).toList ++ rest) :
    name = other := by
  simp only [toList_placeholderToken, List.cons_append, List.cons_prefix_cons, true_and] at hstarts
  obtain hwithin | hbeyond :=
    List.prefix_or_prefix_of_prefix hstarts (List.prefix_append (other.toList ++ ['_', '_']) rest)
  · exact String.toList_inj.mp (hother.loose.eq_of_ended hwithin)
  · exact (String.toList_inj.mp (h.loose.eq_of_ended hbeyond)).symm

end Token

/-- No run of name characters at the front has two underscores together. -/
def IsGuarded (chars : List Char) : Prop :=
  ∀ run, run <+: chars → (∀ char ∈ run, Name.isNameChar char = true) → ¬['_', '_'] <:+: run

section Guarded

variable {name other : String} {literal rest : List Char}

/-- A literal guards what follows it, if it has a character that no name has or nothing follows. -/
theorem isGuarded_append (hliteral : ¬['_', '_'] <:+: literal)
    (hends : rest = [] ∨ ∃ char ∈ literal, Name.isNameChar char = false) :
    IsGuarded (literal ++ rest) := by
  intro run hrun hchars hpair
  obtain rfl | ⟨char, hchar, hforeign⟩ := hends
  · rw [List.append_nil] at hrun
    exact hliteral (hpair.trans hrun.isInfix)
  · obtain hinside | hbeyond :=
      List.prefix_or_prefix_of_prefix hrun (List.prefix_append literal rest)
    · exact hliteral (hpair.trans hinside.isInfix)
    · rw [hchars char (hbeyond.subset hchar)] at hforeign
      cases hforeign

/-- In front of a guarded text stand not just the first underscores of a token. -/
theorem IsGuarded.not_starts (hrest : IsGuarded rest) (h : IsPlaceholderName name)
    {underscores : List Char} (hfront : underscores <+: ['_', '_']) :
    ¬(placeholderToken name).toList <+: underscores ++ rest := by
  obtain ⟨others, hothers⟩ := hfront
  have hchars : ∀ char ∈ others ++ (name.toList ++ ['_', '_']), Name.isNameChar char = true := by
    have hunderscores : ∀ char ∈ ['_', '_'], Name.isNameChar char = true :=
      List.all_eq_true.mp (by decide +kernel)
    have hname := List.all_eq_true.mp (Bool.and_eq_true_iff.mp h.valid).2
    have hsuffix : others ⊆ ['_', '_'] := hothers ▸ List.subset_append_right underscores others
    exact List.forall_mem_append.mpr ⟨fun char hchar => hunderscores char (hsuffix hchar),
      List.forall_mem_append.mpr ⟨hname, hunderscores⟩⟩
  rw [toList_placeholderToken]
  intro hstarts
  -- What is left of the token would be a run of name characters with two underscores together.
  have hrun : others ++ (name.toList ++ ['_', '_']) <+: rest := by
    rw [← List.prefix_append_right_inj underscores, ← List.append_assoc, hothers]
    exact hstarts
  exact hrest _ hrun hchars
    ((List.suffix_append name.toList ['_', '_']).trans (List.suffix_append others _)).isInfix

/-- No other token starts in a token with a guarded text behind it. -/
theorem IsPlaceholderName.bare_token (h : IsPlaceholderName name)
    (hother : IsPlaceholderName other) (hne : name ≠ other) (hrest : IsGuarded rest) :
    Bare (placeholderToken name).toList (placeholderToken other).toList rest := by
  have hopening : ¬(placeholderToken name).toList <+: (placeholderToken other).toList ++ rest :=
    fun hstarts => hne (h.eq_of_starts hother hstarts)
  have hclosing : Bare (placeholderToken name).toList ['_', '_'] rest :=
    bare_cons.mpr ⟨hrest.not_starts h (List.prefix_refl _),
      bare_cons.mpr ⟨hrest.not_starts h (List.prefix_append ['_'] ['_']), bare_nil _ _⟩⟩
  rw [toList_placeholderToken] at hopening hclosing ⊢
  rw [toList_placeholderToken other] at hopening ⊢
  have hsecond : ¬ '_' :: '_' :: (name.toList ++ ['_', '_']) <+:
      '_' :: (other.toList ++ (['_', '_'] ++ rest)) :=
    hother.loose.not_starts_before hother.toList_ne_nil
  rw [← List.append_assoc] at hsecond
  exact bare_cons.mpr ⟨hopening, bare_cons.mpr ⟨hsecond, hother.loose.bare.append hclosing⟩⟩

end Guarded

end Scaffold
