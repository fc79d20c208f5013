import Scaffold.Proofs.Diff.Stretches

/-!
# Distant lines

A line of the full diff is distant if every edit stands more than the lines of context away from
it. The displayed diff leaves out exactly the distant lines, as long as at least three of them
follow each other, whatever the full diff is. That the runs gathered from it decide this by their
lengths, and by whether they stand at an end, rests on two facts: no run is empty, and no two
neighbouring runs are kept.
-/

namespace Scaffold

namespace Diff

/-- Every edit of the full diff is more than the lines of context away from the position. -/
def IsDistant (full : List ScriptLine) (position : Nat) : Prop :=
  ∀ (other : Nat) (h : other < full.length), full[other].tag ≠ .kept →
    other + contextLines < position ∨ position + contextLines < other

instance (full : List ScriptLine) (position : Nat) : Decidable (IsDistant full position) :=
  inferInstanceAs (Decidable (∀ (other : Nat) (h : other < full.length), full[other].tag ≠ .kept →
    other + contextLines < position ∨ position + contextLines < other))

/-- Lines that start at a position of the full diff, each marked as distant or not. -/
def markFrom (full : List ScriptLine) (position : Nat) (lines : List ScriptLine) :
    List MarkedLine :=
  (lines.zipIdx position).map fun entry => ⟨entry.1, decide (IsDistant full entry.2)⟩

/-- The lines of the full diff, each marked as distant or not. -/
def marked (full : List ScriptLine) : List MarkedLine := markFrom full 0 full

section Marking

variable (full : List ScriptLine) (position : Nat)

@[simp] theorem markFrom_nil : markFrom full position [] = [] := rfl

/-- Lines are marked one behind the other, from the position reached. -/
theorem markFrom_append (lines others : List ScriptLine) :
    markFrom full position (lines ++ others) =
      markFrom full position lines ++ markFrom full (position + lines.length) others := by
  rw [markFrom, List.zipIdx_append, List.map_append]
  rfl

@[simp] theorem length_markFrom (lines : List ScriptLine) :
    (markFrom full position lines).length = lines.length := by simp [markFrom]

/-- Marks change no line. -/
theorem map_line_markFrom (lines : List ScriptLine) :
    (markFrom full position lines).map MarkedLine.line = lines := by
  rw [markFrom, List.map_map]
  exact List.zipIdx_map_fst position lines

/-- Lines are marked alike if their places are. -/
theorem distant_of_mem_markFrom {lines : List ScriptLine} {distant : Bool}
    (h : ∀ index < lines.length, decide (IsDistant full (position + index)) = distant) :
    ∀ mark ∈ markFrom full position lines, mark.distant = distant := by
  intro mark hmark
  obtain ⟨⟨line, place⟩, hentry, rfl⟩ := List.mem_map.mp hmark
  obtain ⟨hfrom, hto, -⟩ := List.mem_zipIdx hentry
  have hindex := h (place - position) (by omega)
  rwa [Nat.add_sub_cancel' hfrom] at hindex

end Marking

/-- An edit is not distant. -/
theorem not_isDistant_of_edit {full : List ScriptLine} {position : Nat}
    (h : position < full.length) (hedit : full[position].tag ≠ .kept) :
    ¬IsDistant full position := by
  intro hdistant
  have haway := hdistant position h hedit
  omega

/-- Only unchanged lines are distant. -/
theorem tag_of_distant {full : List ScriptLine} {mark : MarkedLine} (hmark : mark ∈ marked full)
    (hdistant : mark.distant = true) : mark.line.tag = .kept := by
  obtain ⟨⟨line, place⟩, hentry, rfl⟩ := List.mem_map.mp hmark
  obtain ⟨-, hplace, hline⟩ := List.mem_zipIdx hentry
  rw [Nat.zero_add] at hplace
  by_contra hedit
  refine not_isDistant_of_edit hplace ?_ (of_decide_eq_true hdistant)
  exact fun hkept => hedit ((congrArg ScriptLine.tag hline).trans hkept)

/-- Between edits, or an edit and an end of the diff, a line is distant if it is not among the
lines of context at either edit. -/
theorem isDistant_iff {before kept behind : List ScriptLine}
    (hbefore : ∀ line ∈ before.getLast?, line.tag ≠ .kept)
    (hkept : ∀ line ∈ kept, line.tag = .kept)
    (hbehind : ∀ line ∈ behind.head?, line.tag ≠ .kept) {index : Nat}
    (hindex : index < kept.length) :
    IsDistant (before ++ kept ++ behind) (before.length + index) ↔
      (before ≠ [] → contextLines ≤ index) ∧
        (behind ≠ [] → index + contextLines < kept.length) := by
  constructor
  · intro hdistant
    constructor
    · intro hne
      have hpos := List.length_pos_iff.mpr hne
      have hlast := hbefore _ (List.getLast?_eq_some_getLast hne)
      rw [List.getLast_eq_getElem] at hlast
      have haway := hdistant (before.length - 1) (by simp; omega)
      rw [List.getElem_append_left (by simp; omega), List.getElem_append_left (by omega)] at haway
      have := haway hlast
      omega
    · intro hne
      have hpos := List.length_pos_iff.mpr hne
      have hfirst := hbehind _ (List.head?_eq_some_head hne)
      rw [List.head_eq_getElem] at hfirst
      have haway := hdistant (before.length + kept.length) (by simp; omega)
      rw [List.getElem_append_right (by simp)] at haway
      simp only [List.length_append, Nat.sub_self] at haway
      have := haway hfirst
      omega
  · rintro ⟨hstart, hend⟩ other hother hedit
    simp only [List.length_append] at hother
    by_cases hleft : other < before.length
    · have := hstart (List.ne_nil_of_length_pos (by omega))
      omega
    by_cases hright : before.length + kept.length ≤ other
    · have := hend (List.ne_nil_of_length_pos (by omega))
      omega
    rw [List.getElem_append_left (by simp; omega), List.getElem_append_right (by omega)] at hedit
    exact absurd (hkept _ (List.getElem_mem _)) hedit

section Showing

variable {full : List ScriptLine} {position : Nat}

/-- Marks do not matter to lines that are shown. -/
theorem flatMap_shown_markFrom (tag : RunTag) (lines : List String) :
    (markFrom full position (lines.map (ScriptLine.mk tag))).flatMap MarkedLine.shown =
      showLines tag.wrap lines := by
  have hshown (marks : List MarkedLine) : marks.flatMap MarkedLine.shown =
      (marks.map MarkedLine.line).flatMap fun line => showLine line.tag.wrap line.text := by
    rw [List.flatMap_map]
    rfl
  rw [hshown, map_line_markFrom, List.flatMap_map]
  rfl

/-- A distant stretch of kept lines is left out if it has at least three lines. -/
theorem showStretch_markFrom {lines : List String}
    (hdistant : ∀ mark ∈ markFrom full position (lines.map (ScriptLine.mk .kept)),
      mark.distant = true) :
    showStretch (markFrom full position (lines.map (ScriptLine.mk .kept))) =
      if lines.length < 3 then showLines .context lines else [.skipped lines.length] := by
  rw [showStretch, List.all_eq_true.mpr hdistant, Bool.true_and, length_markFrom, List.length_map]
  by_cases hfew : lines.length < 3
  · rw [decide_eq_false (by omega), if_neg Bool.false_ne_true, if_pos hfew, flatMap_shown_markFrom]
    rfl
  · rw [decide_eq_true (by omega), if_pos rfl, if_neg hfew]

/-- Of an unchanged run the lines between those of context are left out if there are at least three
of them. -/
theorem showKept_append (front middle back : List String) :
    showKept (front ++ (middle ++ back)) front.length back.length =
      showLines .context front ++
        ((if middle.length < 3 then showLines .context middle else [.skipped middle.length]) ++
          showLines .context back) := by
  have hhidden : (front ++ (middle ++ back)).length - front.length - back.length =
      middle.length := by
    simp only [List.length_append]
    omega
  have hdrop : (front ++ (middle ++ back)).drop (front.length + middle.length) = back := by
    rw [← List.append_assoc, ← List.length_append, List.drop_left]
  rw [showKept, hhidden, hdrop, List.take_left]
  simp only [List.length_append]
  by_cases hfew : middle.length < 3
  · rw [if_pos hfew, if_pos (by omega)]
    simp [showLines]
  · rw [if_neg hfew, if_neg (by omega)]
    rfl

/-- Enough lines have so many at their start and so many at their end. -/
theorem exists_front_middle_back {lines : List String} {atStart atEnd : Nat}
    (h : atStart + atEnd ≤ lines.length) : ∃ front middle back,
      lines = front ++ (middle ++ back) ∧ front.length = atStart ∧ back.length = atEnd := by
  refine ⟨lines.take atStart, (lines.drop atStart).take (lines.length - atStart - atEnd),
    lines.drop (lines.length - atEnd), ?_, ?_, ?_⟩
  · have hback : lines.drop (lines.length - atEnd) =
        (lines.drop atStart).drop (lines.length - atStart - atEnd) := by
      rw [List.drop_drop]
      congr 1
      omega
    rw [hback, List.take_append_drop, List.take_append_drop]
  · rw [List.length_take]
    omega
  · rw [List.length_drop]
    omega

/-- Kept lines of which the first and the last ones are near to an edit are shown as an unchanged
run with so many lines of context. -/
theorem collapse_kept {lines : List String} {atStart atEnd : Nat}
    (hdistant : ∀ index < lines.length, IsDistant full (position + index) ↔
      atStart ≤ index ∧ index + atEnd < lines.length)
    {behind : List MarkedLine} (hbehind : ∀ mark ∈ behind.head?, mark.distant = false) :
    collapse (markFrom full position (lines.map (ScriptLine.mk .kept)) ++ behind) =
      showKept lines atStart atEnd ++ collapse behind := by
  by_cases hshort : lines.length ≤ atStart + atEnd
  · have hnear : ∀ mark ∈ markFrom full position (lines.map (ScriptLine.mk .kept)),
        mark.distant = false := by
      refine distant_of_mem_markFrom full position fun index hindex => decide_eq_false ?_
      rw [List.length_map] at hindex
      rw [hdistant index hindex]
      omega
    rw [collapse_append_of_near hnear, flatMap_shown_markFrom, showKept, if_pos (by omega)]
    rfl
  obtain ⟨front, middle, back, rfl, rfl, rfl⟩ := exists_front_middle_back (Nat.le_of_not_le hshort)
  simp only [List.length_append] at hdistant
  have hfront : ∀ mark ∈ markFrom full position (front.map (ScriptLine.mk .kept)),
      mark.distant = false := by
    refine distant_of_mem_markFrom full position fun index hindex => decide_eq_false ?_
    rw [List.length_map] at hindex
    rw [hdistant index (by omega)]
    omega
  have hmiddle : ∀ mark ∈ markFrom full (position + front.length)
      (middle.map (ScriptLine.mk .kept)), mark.distant = true := by
    refine distant_of_mem_markFrom full _ fun index hindex => decide_eq_true ?_
    rw [List.length_map] at hindex
    rw [Nat.add_assoc, hdistant _ (by omega)]
    omega
  have hback : ∀ mark ∈ markFrom full (position + front.length + middle.length)
      (back.map (ScriptLine.mk .kept)), mark.distant = false := by
    refine distant_of_mem_markFrom full _ fun index hindex => decide_eq_false ?_
    rw [List.length_map] at hindex
    rw [Nat.add_assoc, Nat.add_assoc, hdistant _ (by omega)]
    omega
  have hnext : ∀ mark ∈ (markFrom full (position + front.length + middle.length)
      (back.map (ScriptLine.mk .kept)) ++ behind).head?, mark.distant = false := by
    intro mark hmark
    rw [List.head?_append, Option.mem_def, Option.or_eq_some_iff] at hmark
    obtain hmark | ⟨-, hmark⟩ := hmark
    · exact hback mark (List.mem_of_mem_head? hmark)
    · exact hbehind mark hmark
  rw [List.map_append, List.map_append, markFrom_append, markFrom_append, List.append_assoc,
    List.append_assoc, List.length_map, List.length_map, collapse_append_of_near hfront,
    collapse_append_of_distant hmiddle hnext, collapse_append_of_near hback,
    showStretch_markFrom hmiddle, flatMap_shown_markFrom, flatMap_shown_markFrom, showKept_append,
    List.append_assoc, List.append_assoc]
  rfl

end Showing

/-- The lines of a script are those of its first run and then the others. -/
theorem scriptLines_cons (run : LineRun) (rest : List LineRun) :
    scriptLines (run :: rest) = run.scriptLines ++ scriptLines rest := List.flatMap_cons

/-- The lines of a run have its tag. -/
theorem tag_of_mem_scriptLines {run : LineRun} {line : ScriptLine} (h : line ∈ run.scriptLines) :
    line.tag = run.tag := by
  obtain ⟨text, -, rfl⟩ := List.mem_map.mp h
  rfl

/-- The first line of a parted script is one of its first run. -/
theorem IsParted.head_eq {script : List LineRun} (h : IsParted script) {line : ScriptLine}
    (hline : line ∈ (scriptLines script).head?) : ∃ run ∈ script.head?, line.tag = run.tag := by
  cases script with
  | nil => cases hline
  | cons run rest =>
    obtain ⟨first, others, hlines⟩ :=
      List.exists_cons_of_ne_nil (h.lines_ne_nil run List.mem_cons_self)
    rw [scriptLines_cons, LineRun.scriptLines, hlines] at hline
    cases hline
    exact ⟨run, rfl, rfl⟩

/-- A parted script without lines is empty. -/
theorem isEmpty_scriptLines {script : List LineRun} (h : IsParted script) :
    (scriptLines script).isEmpty = script.isEmpty := by
  cases script with
  | nil => rfl
  | cons run rest =>
    have hne := h.lines_ne_nil run List.mem_cons_self
    simp [scriptLines_cons, LineRun.scriptLines, hne]

section Runs

variable {run : LineRun} {before behind : List ScriptLine}

/-- All lines of an edit are shown. -/
theorem collapse_edit (hedit : run.tag ≠ .kept) (marks : List MarkedLine) :
    collapse (markFrom (before ++ run.scriptLines ++ behind) before.length run.scriptLines ++
        marks) = showLines run.tag.wrap run.lines ++ collapse marks := by
  have hnear : ∀ mark ∈ markFrom (before ++ run.scriptLines ++ behind) before.length
      run.scriptLines, mark.distant = false := by
    refine distant_of_mem_markFrom _ _ fun index hindex => decide_eq_false ?_
    refine not_isDistant_of_edit (by simp; omega) ?_
    rw [List.getElem_append_left (by simp; omega), List.getElem_append_right (by omega),
      tag_of_mem_scriptLines (List.getElem_mem _)]
    exact hedit
  rw [collapse_append_of_near hnear, LineRun.scriptLines, flatMap_shown_markFrom]

/-- An unchanged run between edits is shown with the lines of context at each of them. -/
theorem collapse_kept_between (hkept : run.tag = .kept)
    (hbefore : ∀ line ∈ before.getLast?, line.tag ≠ .kept)
    (hbehind : ∀ line ∈ behind.head?, line.tag ≠ .kept) :
    collapse (markFrom (before ++ run.scriptLines ++ behind) before.length run.scriptLines ++
        markFrom (before ++ run.scriptLines ++ behind) (before.length + run.scriptLines.length)
          behind) =
      showKept run.lines (if before.isEmpty then 0 else contextLines)
          (if behind.isEmpty then 0 else contextLines) ++
        collapse (markFrom (before ++ run.scriptLines ++ behind)
          (before.length + run.scriptLines.length) behind) := by
  have hlength : run.scriptLines.length = run.lines.length := List.length_map _
  have hown : run.scriptLines = run.lines.map (ScriptLine.mk .kept) := by
    rw [LineRun.scriptLines, hkept]
  have hnear : ∀ mark ∈ (markFrom (before ++ run.scriptLines ++ behind)
      (before.length + run.scriptLines.length) behind).head?, mark.distant = false := by
    cases behind with
    | nil =>
      intro mark hnone
      cases hnone
    | cons next others =>
      intro mark hmark
      obtain rfl := Option.some.inj hmark
      refine decide_eq_false (not_isDistant_of_edit (by simp) ?_)
      rw [List.getElem_append_right (by simp)]
      simpa using hbehind next rfl
  have hdistant (index : Nat) (hindex : index < run.lines.length) :
      IsDistant (before ++ run.scriptLines ++ behind) (before.length + index) ↔
        (if before.isEmpty then 0 else contextLines) ≤ index ∧
          index + (if behind.isEmpty then 0 else contextLines) < run.lines.length := by
    rw [isDistant_iff hbefore (fun line hline => (tag_of_mem_scriptLines hline).trans hkept)
      hbehind (by rwa [hlength]), hlength]
    cases before <;> cases behind <;> simp_all
  have hshown := collapse_kept hdistant hnear
  rwa [← hown] at hshown

end Runs

/-- The runs of a parted script are displayed as their lines are, with the distant ones left
out. -/
theorem collapse_markFrom {script : List LineRun} (parted : IsParted script)
    {before : List ScriptLine} (hbefore : ∀ run ∈ script.head?, run.tag = .kept →
      ∀ line ∈ before.getLast?, line.tag ≠ .kept) :
    collapse (markFrom (before ++ scriptLines script) before.length (scriptLines script)) =
      showRuns before.isEmpty script := by
  induction script generalizing before with
  | nil => rfl
  | cons run rest ih =>
    have hlines := parted.lines_ne_nil run List.mem_cons_self
    have happart := List.isChain_cons.mp parted.apart
    have hparted : IsParted rest :=
      ⟨fun other hother => parted.lines_ne_nil other (List.mem_cons_of_mem run hother), happart.2⟩
    have hrest : collapse (markFrom (before ++ run.scriptLines ++ scriptLines rest)
        (before.length + run.scriptLines.length) (scriptLines rest)) = showRuns false rest := by
      have hlast : ∀ next ∈ rest.head?, next.tag = .kept →
          ∀ line ∈ (before ++ run.scriptLines).getLast?, line.tag ≠ .kept := by
        intro next hnext hkept line hline hsame
        have hne : run.scriptLines ≠ [] := by simpa [LineRun.scriptLines] using hlines
        rw [List.getLast?_append_of_ne_nil _ hne] at hline
        have htag := tag_of_mem_scriptLines (List.mem_of_mem_getLast? hline)
        exact happart.1 next hnext ((htag.symm.trans hsame).trans hkept.symm)
      have hempty : (before ++ run.scriptLines).isEmpty = false := by
        simp [LineRun.scriptLines, hlines]
      have h := ih hparted hlast
      rwa [List.length_append, hempty] at h
    rw [scriptLines_cons, ← List.append_assoc, markFrom_append, showRuns, ← hrest]
    by_cases hkept : run.tag = .kept
    · have hfirst : ∀ line ∈ (scriptLines rest).head?, line.tag ≠ .kept := by
        intro line hline
        obtain ⟨next, hnext, htag⟩ := hparted.head_eq hline
        rw [htag]
        exact fun hnext' => happart.1 next hnext (hkept.trans hnext'.symm)
      rw [collapse_kept_between hkept (hbefore run rfl hkept) hfirst, isEmpty_scriptLines hparted,
        hkept]
    · rw [collapse_edit hkept]
      cases htag : run.tag with
      | kept => exact absurd htag hkept
      | removed => rfl
      | added => rfl

/-- Equal texts are displayed as one unchanged run. -/
theorem showRuns_runOf_kept (lines : List String) :
    showRuns true (runOf .kept lines) =
      if 3 ≤ lines.length then [.skipped lines.length] else showLines .context lines := by
  cases lines with
  | nil => rfl
  | cons line rest =>
    have hruns : runOf .kept (line :: rest) = [⟨.kept, line :: rest⟩] := rfl
    rw [hruns, showRuns, showRuns, List.append_nil]
    simp only [showKept, if_true, List.isEmpty_nil]
    by_cases hlong : 3 ≤ (line :: rest).length
    · rw [if_pos hlong, if_neg (by omega)]
      simp [showLines]
    · rw [if_neg hlong, if_pos (by omega)]

end Diff

/-- Exactly the distant lines are hidden, whatever full diff the differ gives. The displayed diff is
the full diff with every longest stretch of at least three distant lines replaced by a skip that
counts them; all other lines are shown, and no edit is distant. So no two skips follow each other,
and none stands for fewer than three lines. Of a text that did not change, if the differ is faithful
and its answer shortest, all lines are skipped if there are at least three. -/
theorem FileDiff.lines_hide_distant (differ : LineDiffer) (diff : FileDiff) :
    diff.lines differ = Diff.collapse (Diff.marked (differ diff.before diff.after)) ∧
      (∀ mark ∈ Diff.marked (differ diff.before diff.after),
        mark.distant = true → mark.line.tag = .kept) ∧
      ((diff.lines differ).IsChain fun left right => left.isSkip = true → right.isSkip = false) ∧
      (∀ count, DiffLine.skipped count ∈ diff.lines differ → 3 ≤ count) ∧
      (differ.IsFaithful → Diff.IsShortest (differ diff.before diff.after) →
        diff.before = diff.after →
          diff.lines differ =
            if 3 ≤ (Text.terminatedLines diff.before).length then
              [.skipped (Text.terminatedLines diff.before).length]
            else Diff.showLines .context (Text.terminatedLines diff.before)) := by
  have hlines : diff.lines differ =
      Diff.collapse (Diff.marked (differ diff.before diff.after)) := by
    have h := @Diff.collapse_markFrom _ (Diff.isParted_gather (differ diff.before diff.after)) []
      fun _ _ _ _ hnone => by cases hnone
    rw [List.nil_append, List.length_nil, List.isEmpty_nil, Diff.scriptLines_gather] at h
    exact h.symm
  refine ⟨hlines, fun mark => Diff.tag_of_distant, ?_, ?_, ?_⟩
  · rw [hlines]
    exact Diff.isChain_collapse _
  · intro count hcount
    rw [hlines] at hcount
    exact Diff.three_le_of_mem_collapse hcount
  · intro faithful shortest hsame
    rw [FileDiff.lines_of_eq faithful diff shortest hsame, Diff.showRuns_runOf_kept]

/-- A text of seven lines. -/
def sevenLines : String := "1\n2\n3\n4\n5\n6\n7\n"

/-- A text of seven lines, to which one more is added, or none. -/
theorem FileDiff.lines_hide_distant_appended :
    lines ⟨⟨"notes"⟩, sevenLines, sevenLines ++ "8"⟩ =
        [.skipped 4, .context "5", .context "6", .context "7", .added "8", .noNewline] ∧
      lines ⟨⟨"notes"⟩, sevenLines, sevenLines⟩ = [.skipped 7] := by
  constructor
  · rw [(lines_hide_distant Diff.lineChanges _).1]
    decide +kernel
  · have hlength : (Text.terminatedLines sevenLines).length = 7 := by decide +kernel
    have hshortest := Diff.isShortest_map_kept (Text.terminatedLines sevenLines)
    rw [← Diff.lineChanges_self] at hshortest
    have h := (lines_hide_distant Diff.lineChanges ⟨⟨"notes"⟩, sevenLines, sevenLines⟩).2.2.2.2
      Diff.lineChanges_isFaithful hshortest rfl
    rwa [hlength, if_pos (by decide)] at h

end Scaffold
