import Scaffold.Proofs.Change.Reach
import Scaffold.Proofs.Text.Bytes

/-!
# What an edit makes of a text

An edit whose range lies between two cuts replaces the part between them, and edits one after the
other compose. Applying changes that are edits or placeholders to a file makes of its text what
the edits make of it.
-/

namespace Scaffold

open Text

/-- An offset between two characters passes the check. -/
theorem checkOffset_of_isBoundary {content : String} {offset : Nat}
    (h : IsBoundary content.toList offset) (path : Path) :
    checkOffset path content offset = .ok () := by
  obtain ⟨before, after, hchars, hlength⟩ := isBoundary_iff.mp h
  have hle : ¬byteLength content.toList < offset := by
    rw [hchars, byteLength_append]
    omega
  obtain ⟨parts, hparts⟩ := Option.isSome_iff_exists.mp h
  rw [checkOffset, if_neg hle, hparts]

/-- A range between characters passes the check. -/
theorem checkRange_of_isBoundary {content : String} {start stop : Nat} (hle : start ≤ stop)
    (hstart : IsBoundary content.toList start) (hstop : IsBoundary content.toList stop)
    (path : Path) : checkRange path content start stop = .ok () := by
  rw [checkRange, if_neg (Nat.not_lt.mpr hle), checkOffset_of_isBoundary hstart]
  exact checkOffset_of_isBoundary hstop path

namespace Edit

/-- The edit has its range in the text and puts its own text in the place of the range. -/
def Turns (edit : Edit) (old new : List Char) : Prop :=
  ∃ before middle after, old = before ++ middle ++ after ∧
    byteLength before = edit.start.toNat ∧
    byteLength before + byteLength middle = edit.stop.toNat ∧
    new = before ++ edit.text.toList ++ after

/-- The edits lead from the first text to the second one, one after the other. -/
def TurnAll : List Edit → List Char → List Char → Prop
  | [], old, new => new = old
  | edit :: rest, old, new => ∃ between, edit.Turns old between ∧ TurnAll rest between new

/-- What some edits turn a text into is turned by the others. -/
theorem turnAll_append {first second : List Edit} {old between new : List Char}
    (hfirst : TurnAll first old between) (hsecond : TurnAll second between new) :
    TurnAll (first ++ second) old new := by
  induction first generalizing old with
  | nil =>
    cases hfirst
    exact hsecond
  | cons edit rest ih =>
    obtain ⟨next, hedit, hrest⟩ := hfirst
    exact ⟨next, hedit, ih hrest⟩

/-- An edit that has its range in the content revises it. -/
theorem revise_of_turns {edit : Edit} {content : String} {revised : List Char}
    (h : edit.Turns content.toList revised) (path : Path) :
    edit.revise path content = .ok (String.ofList revised) := by
  obtain ⟨before, middle, after, hold, hstart, hstop, hnew⟩ := h
  have hcutStart : IsBoundary content.toList edit.start.toNat := by
    refine isBoundary_iff.mpr ⟨before, middle ++ after, ?_, hstart⟩
    rw [hold, List.append_assoc]
  have hcutStop : IsBoundary content.toList edit.stop.toNat := by
    refine isBoundary_iff.mpr ⟨before ++ middle, after, hold, ?_⟩
    rw [byteLength_append, hstop]
  have hchecked := checkRange_of_isBoundary (by omega) hcutStart hcutStop path
  have hsplice := @splice?_parts content edit.text before middle after hold
  rw [hstop, hstart] at hsplice
  rw [revise, hchecked, hsplice, hnew]
  rfl

/-- An edit writes what it turns the content into. -/
theorem apply_sole {edit : Edit} {content : String} {revised : List Char}
    (h : edit.Turns content.toList revised) (path : Path) :
    edit.apply path (⟨content⟩ : SoleFile) = .ok () ⟨String.ofList revised⟩ := by
  have hread : (FileHost.read path : Task ChangeError SoleFile String) ⟨content⟩ =
      .ok content ⟨content⟩ := rfl
  rw [apply_eq, Task.bind_of_ok hread, revise_of_turns h path]
  rfl

end Edit

namespace Change

/-- The edit of a change that is one edit. -/
def edit? : Change → Option Edit
  | edit _ _ action => some action
  | _ => none

/-- The change is an edit with the order of its start, or a placeholder of any order. -/
def IsPlain : Change → Prop
  | edit _ order action => order = action.start.toInt64
  | bundle _ _ _ => False
  | noop _ _ => True

instance : DecidablePred IsPlain
  | edit _ _ _ => inferInstanceAs (Decidable (_ = _))
  | bundle _ _ _ => inferInstanceAs (Decidable False)
  | noop _ _ => inferInstanceAs (Decidable True)

/-- A change that is one edit writes what the edit turns the content into. -/
theorem apply_edit_sole {path : Path} {action : Edit} {content : String} {revised : List Char}
    (h : action.Turns content.toList revised) (order : Int64) :
    (edit path order action).apply (⟨content⟩ : SoleFile) = .ok () ⟨String.ofList revised⟩ := by
  have happly : (edit path order action).apply (⟨content⟩ : SoleFile) =
      (action.apply path >>= fun _ => Leaf.applyAll [] : Task ChangeError SoleFile Unit)
        ⟨content⟩ := rfl
  rw [happly, Task.bind_of_ok (Edit.apply_sole h path)]
  rfl

/-- Changes that are edits or placeholders make of a file what the edits make of its text. -/
theorem applyAll_sole_of_turnAll {changes : List Change} {content : String} {new : List Char}
    (plain : ∀ change ∈ changes, change.IsPlain)
    (h : Edit.TurnAll (changes.filterMap edit?) content.toList new) :
    applyAll changes (⟨content⟩ : SoleFile) = .ok () ⟨String.ofList new⟩ := by
  induction changes generalizing content with
  | nil =>
    cases h
    rw [String.ofList_toList]
    rfl
  | cons change rest ih =>
    obtain ⟨hfirst, hrest⟩ := List.forall_mem_cons.mp plain
    cases change with
    | bundle path order parts => exact hfirst.elim
    | noop path order => exact ih hrest h
    | edit path order action =>
      obtain ⟨between, hedit, hothers⟩ := h
      have hbetween : (String.ofList between).toList = between := String.toList_ofList
      rw [applyAll, Task.bind_of_ok (apply_edit_sole hedit order)]
      apply ih hrest
      rw [hbetween]
      exact hothers

end Change

end Scaffold
