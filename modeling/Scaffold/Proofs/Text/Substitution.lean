import Mathlib.Data.List.Infix
import Scaffold.Text.Substitution

/-!
# Substitution of several tokens

Several tokens can be replaced in one pass, so that no value is searched for a token. Replacing a
single token is the case of one pair. A part of a text in which no token starts is passed as it is,
and a token that stands at the front is taken away as a whole.
-/

namespace Scaffold.Text

/-- Replace several tokens in one pass: of those that stand at a place, the first one counts, and
the search goes on behind it. `skip` counts the characters that belong to the occurrence found
last. -/
def substituteTogether (pairs : List (List Char × List Char)) : Nat → List Char → List Char
  | _, [] => []
  | skip + 1, _ :: rest => substituteTogether pairs skip rest
  | 0, char :: rest =>
    match pairs.find? fun pair => pair.1.isPrefixOf (char :: rest) with
    | some (token, value) => value ++ substituteTogether pairs (token.length - 1) rest
    | none => char :: substituteTogether pairs 0 rest

/-- The text with the values in the places of their tokens, all replaced in one pass. -/
def replaceTogether (pairs : List (String × String)) (text : String) : String :=
  String.ofList
    (substituteTogether (pairs.map fun pair => (pair.1.toList, pair.2.toList)) 0 text.toList)

/-- No occurrence of the token starts in the first part of a text. -/
def Bare (token front rest : List Char) : Prop :=
  ∀ back, back <:+ front → back ≠ [] → ¬token <+: back ++ rest

section Bare

variable {token front middle rest : List Char} {char : Char}

theorem bare_nil (token rest : List Char) : Bare token [] rest :=
  fun _ hback hne => absurd (List.suffix_nil.mp hback) hne

/-- No token starts in a text if none starts at its first character and in the rest. -/
theorem bare_cons :
    Bare token (char :: front) rest ↔ ¬token <+: char :: (front ++ rest) ∧ Bare token front rest := by
  constructor
  · intro h
    exact ⟨h _ List.suffix_rfl (List.cons_ne_nil char front),
      fun back hback => h back (hback.trans (List.suffix_cons char front))⟩
  · rintro ⟨hhead, htail⟩ back hback hne
    obtain rfl | hlater := List.suffix_cons_iff.mp hback
    · exact hhead
    · exact htail back hlater hne

/-- No token starts in two texts if none starts in either, whatever follows. -/
theorem Bare.append (hfront : Bare token front (middle ++ rest)) (hmiddle : Bare token middle rest) :
    Bare token (front ++ middle) rest := by
  induction front with
  | nil => exact hmiddle
  | cons char front ih =>
    obtain ⟨hhead, htail⟩ := bare_cons.mp hfront
    rw [List.cons_append]
    exact bare_cons.mpr ⟨by rwa [List.append_assoc], ih htail⟩

/-- What occurs in a text occurs behind every part in which it does not start. -/
theorem Bare.not_infix_append (h : Bare token front rest) (hrest : ¬token <:+: rest) :
    ¬token <:+: front ++ rest := by
  induction front with
  | nil => exact hrest
  | cons char front ih =>
    obtain ⟨hhead, htail⟩ := bare_cons.mp h
    rw [List.cons_append, List.infix_cons_iff, not_or]
    exact ⟨hhead, ih htail⟩

end Bare

section Passing

variable {pairs : List (List Char × List Char)} {token value front rest : List Char}

/-- Replacing one token is replacing it together with no other. -/
theorem substituteFrom_eq (token value : List Char) (skip : Nat) (chars : List Char) :
    substituteFrom token value skip chars = substituteTogether [(token, value)] skip chars := by
  fun_induction substituteFrom token value skip chars with
  | case1 skip => cases skip <;> rfl
  | case2 skip char rest ih => exact ih
  | case3 char rest hfound ih => simp only [substituteTogether, List.find?, hfound, ih]
  | case4 char rest hnot ih =>
    rw [Bool.not_eq_true] at hnot
    simp only [substituteTogether, List.find?, hnot, ih]

/-- One token is replaced as if it were all of them. -/
theorem replaceAll_eq {token : String} (hne : token ≠ "") (value text : String) :
    replaceAll token value text = replaceTogether [(token, value)] text := by
  cases hchars : token.toList with
  | nil => exact absurd (String.toList_eq_nil_iff.mp hchars) hne
  | cons char rest =>
    simp only [replaceAll, replaceTogether, substitute, List.map_cons, List.map_nil, hchars,
      substituteFrom_eq]

/-- A part of a text in which no token starts stays as it is. -/
theorem substituteTogether_append (h : ∀ pair ∈ pairs, Bare pair.1 front rest) :
    substituteTogether pairs 0 (front ++ rest) = front ++ substituteTogether pairs 0 rest := by
  induction front with
  | nil => rfl
  | cons char front ih =>
    have hnone : (pairs.find? fun pair => pair.1.isPrefixOf (char :: (front ++ rest))) = none := by
      rw [List.find?_eq_none]
      intro pair hpair hstarts
      exact (bare_cons.mp (h pair hpair)).1 (List.isPrefixOf_iff_prefix.mp hstarts)
    rw [List.cons_append, substituteTogether, hnone]
    exact congrArg (char :: ·) (ih fun pair hpair => (bare_cons.mp (h pair hpair)).2)

/-- The characters of an occurrence are passed over. -/
theorem substituteTogether_skip (pairs : List (List Char × List Char)) (front rest : List Char) :
    substituteTogether pairs front.length (front ++ rest) = substituteTogether pairs 0 rest := by
  induction front with
  | nil => rfl
  | cons char front ih => exact ih

/-- A token at the front gives way to its value. -/
theorem substituteTogether_token (hne : token ≠ [])
    (hfound : (pairs.find? fun pair => pair.1.isPrefixOf (token ++ rest)) = some (token, value)) :
    substituteTogether pairs 0 (token ++ rest) = value ++ substituteTogether pairs 0 rest := by
  cases token with
  | nil => exact absurd rfl hne
  | cons char front =>
    rw [List.cons_append] at hfound ⊢
    rw [substituteTogether, hfound]
    exact congrArg (value ++ ·) (substituteTogether_skip pairs front rest)

end Passing

end Scaffold.Text
