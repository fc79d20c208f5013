import Mathlib.Data.List.SplitBy
import Scaffold.Proofs.Diff.Reading

/-!
# Stretches of distant lines

The lines of a full diff, each marked as distant from all edits or not, are cut into the longest
stretches of lines that are marked alike. A stretch of at least three distant lines is left out of
the display, and all other lines are shown; so two skips never follow each other.
-/

namespace Scaffold

/-- Whether a displayed line stands for lines that are left out. -/
def DiffLine.isSkip : DiffLine → Bool
  | .skipped _ => true
  | .context _ | .added _ | .removed _ | .noNewline => false

namespace Diff

/-- A line of the full diff and whether it is distant. -/
structure MarkedLine where
  /-- The line. -/
  line : ScriptLine
  /-- Whether it is distant. -/
  distant : Bool
  deriving Repr, DecidableEq

/-- A line shown in full. -/
def MarkedLine.shown (mark : MarkedLine) : List DiffLine :=
  showLine mark.line.tag.wrap mark.line.text

/-- A stretch of lines that are all distant or all not. At least three distant lines are left
out. -/
def showStretch (stretch : List MarkedLine) : List DiffLine :=
  if stretch.all (·.distant) && decide (3 ≤ stretch.length) then [.skipped stretch.length]
  else stretch.flatMap MarkedLine.shown

/-- Marked lines cut into the longest stretches of lines that are all distant or all not. -/
def stretches (marks : List MarkedLine) : List (List MarkedLine) :=
  marks.splitBy fun left right => left.distant == right.distant

/-- Marked lines with every longest stretch of at least three distant lines left out. -/
def collapse (marks : List MarkedLine) : List DiffLine := (stretches marks).flatMap showStretch

section Collapsing

variable {mark : MarkedLine}

/-- A line like the one behind it stands in the same stretch. -/
theorem stretches_cons_of_eq {next : MarkedLine} (h : mark.distant = next.distant)
    (behind : List MarkedLine) : ∃ stretch others,
      stretches (next :: behind) = (next :: stretch) :: others ∧
        stretches (mark :: next :: behind) = (mark :: next :: stretch) :: others := by
  obtain ⟨first, others, hsplit⟩ :
      ∃ first others, stretches (next :: behind) = first :: others :=
    List.exists_cons_of_ne_nil (List.splitBy_ne_nil.mpr (List.cons_ne_nil next behind))
  obtain ⟨hflatten, hnil, hchains, hapart⟩ := List.splitBy_eq_iff.mp hsplit
  have hfirst : first ≠ [] := fun hn => hnil (hn ▸ List.mem_cons_self)
  obtain ⟨head, stretch, rfl⟩ := List.exists_cons_of_ne_nil hfirst
  rw [List.flatten_cons, List.cons_append, List.cons.injEq] at hflatten
  obtain ⟨rfl, hbehind⟩ := hflatten
  refine ⟨stretch, others, hsplit, List.splitBy_eq_iff.mpr ⟨?_, ?_, ?_, ?_⟩⟩
  · rw [hbehind]
    rfl
  · simpa using hnil
  · rw [List.forall_mem_cons] at hchains ⊢
    refine ⟨?_, hchains.2⟩
    exact List.isChain_cons_cons.mpr ⟨beq_iff_eq.mpr h, hchains.1⟩
  · rw [List.isChain_cons] at hapart ⊢
    refine ⟨fun other hother => ?_, hapart.2⟩
    obtain ⟨_, hne, hdiffer⟩ := hapart.1 other hother
    refine ⟨List.cons_ne_nil _ _, hne, ?_⟩
    rwa [List.getLast_cons (List.cons_ne_nil next stretch)]

/-- A stretch with a line near a change is shown. -/
theorem showStretch_of_not_distant {stretch : List MarkedLine} (hmem : mark ∈ stretch)
    (hmark : mark.distant = false) : showStretch stretch = stretch.flatMap MarkedLine.shown := by
  have hall : stretch.all (·.distant) = false :=
    List.all_eq_false.mpr ⟨mark, hmem, by rw [hmark]; exact Bool.false_ne_true⟩
  rw [showStretch, hall, Bool.false_and, if_neg Bool.false_ne_true]

/-- A line that is not distant is shown. -/
theorem collapse_cons (hmark : mark.distant = false) (behind : List MarkedLine) :
    collapse (mark :: behind) = mark.shown ++ collapse behind := by
  have halone : showStretch [mark] = mark.shown := by
    rw [showStretch_of_not_distant List.mem_cons_self hmark, List.flatMap_singleton]
  cases behind with
  | nil =>
    have hsplit : stretches [mark] = [[mark]] := rfl
    rw [collapse, hsplit, List.flatMap_singleton, halone]
    exact (List.append_nil _).symm
  | cons next behind =>
    by_cases hnext : next.distant = false
    · obtain ⟨stretch, others, hsplit, hjoined⟩ :=
        stretches_cons_of_eq (hmark.trans hnext.symm) behind
      rw [collapse, collapse, hsplit, hjoined, List.flatMap_cons, List.flatMap_cons,
        showStretch_of_not_distant List.mem_cons_self hmark,
        showStretch_of_not_distant List.mem_cons_self hnext, List.flatMap_cons, List.append_assoc]
    · have hsplit : stretches ([mark] ++ next :: behind) =
          stretches [mark] ++ stretches (next :: behind) := by
        refine List.splitBy_append_cons behind fun last hlast => ?_
        cases hlast
        change (mark.distant == next.distant) = false
        rw [hmark, eq_true_of_ne_false hnext]
        rfl
      rw [collapse, ← List.singleton_append, hsplit, List.flatMap_append]
      exact congrArg (· ++ _) ((List.flatMap_singleton _ _).trans halone)

/-- Lines that are not distant are shown. -/
theorem collapse_append_of_near {marks : List MarkedLine} (h : ∀ mark ∈ marks, mark.distant = false)
    (behind : List MarkedLine) :
    collapse (marks ++ behind) = marks.flatMap MarkedLine.shown ++ collapse behind := by
  induction marks with
  | nil => rfl
  | cons mark rest ih =>
    obtain ⟨hmark, hrest⟩ := List.forall_mem_cons.mp h
    rw [List.cons_append, collapse_cons hmark, ih hrest, List.flatMap_cons, List.append_assoc]

/-- Distant lines before one that is not make up a stretch. -/
theorem collapse_append_of_distant {marks behind : List MarkedLine}
    (h : ∀ mark ∈ marks, mark.distant = true)
    (hbehind : ∀ mark ∈ behind.head?, mark.distant = false) :
    collapse (marks ++ behind) = showStretch marks ++ collapse behind := by
  obtain rfl | hne := eq_or_ne marks []
  · rfl
  have hsplit : stretches (marks ++ behind) = stretches marks ++ stretches behind := by
    refine List.splitBy_append fun last hlast next hnext => ?_
    rw [h last (List.mem_of_mem_getLast? hlast), hbehind next hnext]
    rfl
  have halike : stretches marks = [marks] := by
    refine List.splitBy_of_isChain hne ?_
    refine (List.pairwise_of_forall_mem_list fun left hleft right hright => ?_).isChain
    rw [h left hleft, h right hright]
    rfl
  rw [collapse, hsplit, halike, List.flatMap_append, List.flatMap_singleton]
  rfl

end Collapsing

/-- A line shown in full is no skip. -/
theorem not_isSkip_of_mem_shown {mark : MarkedLine} {line : DiffLine} (h : line ∈ mark.shown) :
    line.isSkip = false := by
  have hwrap (text : String) : (mark.line.tag.wrap text).isSkip = false := by
    cases mark.line.tag <;> rfl
  rw [MarkedLine.shown, showLine] at h
  split at h
  · rw [List.mem_singleton.mp h, hwrap]
  · obtain rfl | rfl := List.mem_pair.mp h
    · exact hwrap _
    · rfl

/-- What is left out of a stretch is the whole stretch, which is distant and long. -/
theorem eq_of_isSkip_of_mem_showStretch {stretch : List MarkedLine} {line : DiffLine}
    (h : line ∈ showStretch stretch) (hskip : line.isSkip = true) :
    (∀ mark ∈ stretch, mark.distant = true) ∧ 3 ≤ stretch.length ∧
      showStretch stretch = [.skipped stretch.length] := by
  rw [showStretch] at h ⊢
  split at h
  case isTrue hlong =>
    obtain ⟨hdistant, hlength⟩ := (Bool.and_eq_true _ _).mp hlong
    rw [if_pos hlong]
    exact ⟨List.all_eq_true.mp hdistant, of_decide_eq_true hlength, rfl⟩
  case isFalse =>
    obtain ⟨mark, -, hmem⟩ := List.mem_flatMap.mp h
    rw [not_isSkip_of_mem_shown hmem] at hskip
    cases hskip

/-- Something is shown of every stretch. -/
theorem showStretch_ne_nil {stretch : List MarkedLine} (h : stretch ≠ []) :
    showStretch stretch ≠ [] := by
  obtain ⟨mark, rest, rfl⟩ := List.exists_cons_of_ne_nil h
  have hshown : mark.shown ≠ [] := by
    rw [MarkedLine.shown, showLine]
    split <;> exact List.cons_ne_nil _ _
  rw [showStretch]
  split
  · exact List.cons_ne_nil _ _
  · rw [List.flatMap_cons]
    exact List.append_ne_nil_of_left_ne_nil hshown _

/-- A skip stands for at least three lines. -/
theorem three_le_of_mem_collapse {marks : List MarkedLine} {count : Nat}
    (h : .skipped count ∈ collapse marks) : 3 ≤ count := by
  obtain ⟨stretch, -, hmem⟩ := List.mem_flatMap.mp h
  obtain ⟨-, hlength, hshown⟩ := eq_of_isSkip_of_mem_showStretch hmem rfl
  rw [hshown, List.mem_singleton, DiffLine.skipped.injEq] at hmem
  exact hmem ▸ hlength

/-- Two skips never follow each other. -/
theorem isChain_collapse (marks : List MarkedLine) :
    (collapse marks).IsChain fun left right => left.isSkip = true → right.isSkip = false := by
  have hnil : [] ∉ (stretches marks).map showStretch := by
    intro hmem
    obtain ⟨stretch, hstretch, hshown⟩ := List.mem_map.mp hmem
    exact showStretch_ne_nil (List.ne_nil_of_mem_splitBy hstretch) hshown
  rw [collapse, List.flatMap_def, List.isChain_flatten hnil]
  constructor
  · intro shown hshown
    obtain ⟨stretch, -, rfl⟩ := List.mem_map.mp hshown
    by_cases hskip : ∃ line ∈ showStretch stretch, line.isSkip = true
    · obtain ⟨line, hline, hline'⟩ := hskip
      rw [(eq_of_isSkip_of_mem_showStretch hline hline').2.2]
      exact List.isChain_singleton _
    · refine (List.pairwise_of_forall_mem_list fun left hleft _ _ hskipped => ?_).isChain
      exact absurd ⟨left, hleft, hskipped⟩ hskip
  · -- Of two neighbouring stretches one is not distant, and nothing of it is left out.
    refine List.isChain_map_of_isChain showStretch ?_ (List.isChain_getLast_head_splitBy _ marks)
    rintro left right ⟨hleft, hright, hdiffer⟩ last hlast first hfirst hskip
    by_contra hagain
    rw [Bool.not_eq_false] at hagain
    have hlast' := (eq_of_isSkip_of_mem_showStretch (List.mem_of_mem_getLast? hlast) hskip).1
    have hfirst' := (eq_of_isSkip_of_mem_showStretch (List.mem_of_mem_head? hfirst) hagain).1
    rw [hlast' _ (List.getLast_mem hleft), hfirst' _ (List.head_mem hright)] at hdiffer
    cases hdiffer

end Diff

end Scaffold
