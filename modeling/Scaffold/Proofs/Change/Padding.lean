import Mathlib.Data.List.Forall2
import Scaffold.Change.Apply
import Scaffold.Proofs.Change.Reach

/-!
# Placeholders among changes

Placeholders can be put into a plan, and those without a file into its bundles at any depth. They
have no leaf that edits, and none that could make a bundle be refused, so a bundle with
placeholders does what it does without them. What it may get by them is another order.
-/

namespace Scaffold

variable {ω : Type} [FileHost ω]

namespace Leaf

/-- Whether the leaf neither names a file nor edits one. -/
def isIdle (leaf : Leaf) : Bool := leaf.path?.isNone && leaf.edit?.isNone

/-- The leaves that name a file or edit one. -/
def busy (leaves : List Leaf) : List Leaf := leaves.filter (!·.isIdle)

/-- An idle leaf does nothing. -/
theorem apply_of_isIdle {leaf : Leaf} (h : leaf.isIdle = true) :
    (leaf.apply : Task ChangeError ω Unit) = pure () := by
  obtain ⟨_, hedit⟩ := (Bool.and_eq_true _ _).mp h
  rw [apply, Option.isNone_iff_eq_none.mp hedit]

/-- Idle leaves can be left out. -/
theorem applyAll_busy (leaves : List Leaf) :
    (applyAll (busy leaves) : Task ChangeError ω Unit) = applyAll leaves := by
  induction leaves with
  | nil => rfl
  | cons leaf rest ih =>
    cases hidle : leaf.isIdle with
    | true =>
      rw [busy, List.filter_cons_of_neg (by simp [hidle]), applyAll, apply_of_isIdle hidle]
      exact ih
    | false =>
      rw [busy, List.filter_cons_of_pos (by simp [hidle]), applyAll, applyAll]
      exact congrArg (fun next => leaf.apply >>= fun _ => next) ih

/-- No idle leaf is foreign. -/
theorem firstForeign?_busy (path : Path) (leaves : List Leaf) :
    firstForeign? path (busy leaves) = firstForeign? path leaves := by
  induction leaves with
  | nil => rfl
  | cons leaf rest ih =>
    unfold firstForeign? at ih ⊢
    cases hidle : leaf.isIdle with
    | true =>
      have hpath := Option.isNone_iff_eq_none.mp ((Bool.and_eq_true _ _).mp hidle).1
      rw [busy, List.filter_cons_of_neg (by simp [hidle]), List.findSome?_cons, hpath]
      exact ih
    | false =>
      rw [busy, List.filter_cons_of_pos (by simp [hidle]), List.findSome?_cons,
        List.findSome?_cons]
      split
      · rfl
      · exact ih

end Leaf

/-- The second list of parts is the first one with placeholders without a file put in, also into
the bundles among the parts, which may get other orders. -/
inductive PaddedParts : List Change → List Change → Prop
  | nil : PaddedParts [] []
  | keep {parts padded : List Change} (part : Change) (rest : PaddedParts parts padded) :
    PaddedParts (part :: parts) (part :: padded)
  | bundle {inner paddedInner parts padded : List Change} (path : Path) (order newOrder : Int64)
    (into : PaddedParts inner paddedInner) (rest : PaddedParts parts padded) :
    PaddedParts (.bundle path order inner :: parts) (.bundle path newOrder paddedInner :: padded)
  | add {parts padded : List Change} (order : Int64) (rest : PaddedParts parts padded) :
    PaddedParts parts (.noop none order :: padded)

/-- The second change is the first one, or a bundle with placeholders put into the first one,
which may have got another order. -/
inductive Padded : Change → Change → Prop
  | same (change : Change) : Padded change change
  | bundle {parts padded : List Change} (path : Path) (order newOrder : Int64)
    (into : PaddedParts parts padded) :
    Padded (.bundle path order parts) (.bundle path newOrder padded)

/-- The second plan is the first one with placeholders put in, with or without a file between its
changes and without one into its bundles. -/
inductive PaddedPlan : List Change → List Change → Prop
  | nil : PaddedPlan [] []
  | cons {change paddedChange : Change} {plan padded : List Change}
    (first : Padded change paddedChange) (rest : PaddedPlan plan padded) :
    PaddedPlan (change :: plan) (paddedChange :: padded)
  | add {plan padded : List Change} (path : Option Path) (order : Int64)
    (rest : PaddedPlan plan padded) : PaddedPlan plan (.noop path order :: padded)

/-- Placeholders in bundles add only idle leaves. -/
theorem PaddedParts.busy_leaves {parts padded : List Change} (h : PaddedParts parts padded) :
    Leaf.busy (Change.leavesOfAll padded) = Leaf.busy (Change.leavesOfAll parts) := by
  unfold Leaf.busy
  induction h with
  | nil => rfl
  | keep part _ ih =>
    rw [Change.leavesOfAll, Change.leavesOfAll, List.filter_append, List.filter_append, ih]
  | bundle path order newOrder _ _ hinto ih =>
    rw [Change.leavesOfAll, Change.leavesOfAll, List.filter_append, List.filter_append, ih,
      Change.leaves, Change.leaves, hinto]
  | add order _ ih =>
    rw [Change.leavesOfAll, Change.leaves, List.singleton_append, List.filter_cons_of_neg
      (by simp [Leaf.isIdle])]
    exact ih

namespace Padded

variable {change padded : Change}

theorem path?_eq (h : Padded change padded) : padded.path? = change.path? := by
  cases h <;> rfl

theorem isOn_eq (h : Padded change padded) (path : Path) :
    padded.isOn path = change.isOn path := by
  unfold Change.isOn
  rw [h.path?_eq]

/-- A change does what it does without the placeholders in it. -/
theorem apply_eq (h : Padded change padded) :
    (padded.apply : Task ChangeError ω Unit) = change.apply := by
  cases h with
  | same => rfl
  | @bundle parts padded path order newOrder into =>
    have hforeign : (Change.bundle path newOrder padded).foreign? =
        (Change.bundle path order parts).foreign? := by
      simp only [Change.foreign?, Change.leaves]
      rw [← Leaf.firstForeign?_busy, into.busy_leaves, Leaf.firstForeign?_busy]
    simp only [Change.apply, hforeign, Change.leaves]
    rw [← Leaf.applyAll_busy, into.busy_leaves, Leaf.applyAll_busy]

end Padded

namespace Change

/-- Whether the change is a placeholder. -/
def isPlaceholder : Change → Bool
  | noop _ _ => true
  | _ => false

/-- The changes that are no placeholders. -/
def effective (changes : List Change) : List Change := changes.filter (!·.isPlaceholder)

/-- A placeholder does nothing. -/
theorem apply_of_isPlaceholder {change : Change} (h : change.isPlaceholder = true) :
    (change.apply : Task ChangeError ω Unit) = pure () := by
  cases change with
  | noop path order => rfl
  | edit path order action => cases h
  | bundle path order parts => cases h

/-- Placeholders do nothing between other changes. -/
theorem applyAll_effective (changes : List Change) :
    (applyAll (effective changes) : Task ChangeError ω Unit) = applyAll changes := by
  induction changes with
  | nil => rfl
  | cons change rest ih =>
    cases hplaceholder : change.isPlaceholder with
    | true =>
      rw [effective, List.filter_cons_of_neg (by simp [hplaceholder]), applyAll,
        apply_of_isPlaceholder hplaceholder]
      exact ih
    | false =>
      rw [effective, List.filter_cons_of_pos (by simp [hplaceholder]), applyAll, applyAll]
      exact congrArg (fun next => change.apply >>= fun _ => next) ih

end Change

/-- A padded change is a placeholder if the change is one. -/
theorem Padded.isPlaceholder_eq {change padded : Change} (h : Padded change padded) :
    padded.isPlaceholder = change.isPlaceholder := by
  cases h <;> rfl

/-- The other changes of a plan are those of the plan without placeholders, one by one. -/
theorem PaddedPlan.effective {plan padded : List Change} (h : PaddedPlan plan padded) :
    List.Forall₂ Padded (Change.effective plan) (Change.effective padded) := by
  unfold Change.effective
  induction h with
  | nil => exact .nil
  | @cons change paddedChange _ _ first _ ih =>
    cases hplaceholder : change.isPlaceholder with
    | true =>
      rw [List.filter_cons_of_neg (by simp [hplaceholder]),
        List.filter_cons_of_neg (by simp [first.isPlaceholder_eq, hplaceholder])]
      exact ih
    | false =>
      rw [List.filter_cons_of_pos (by simp [hplaceholder]),
        List.filter_cons_of_pos (by simp [first.isPlaceholder_eq, hplaceholder])]
      exact .cons first ih
  | add path order _ ih =>
    rw [List.filter_cons_of_neg (by simp [Change.isPlaceholder])]
    exact ih

end Scaffold
