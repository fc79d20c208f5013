import Scaffold.Proofs.Diff.Gathering
import Scaffold.Proofs.Text.Lines

/-!
# Reading a displayed diff

A reader goes through a displayed diff with the lines of both texts at hand. Each displayed line
takes away the lines it stands for, and a mark is read exactly after a shown line without
terminator. What is displayed of the answer of a faithful differ can be read to its end and leaves
nothing of either text.
-/

namespace Scaffold

open Text (terminatedLines isTerminated withoutFeed withoutLastFeed CutIntoLines)

/-- What a reader has still to read. -/
@[ext]
structure DiffReader where
  /-- The lines left of the text before. -/
  before : List String
  /-- The lines left of the text after. -/
  after : List String
  /-- Whether a mark must come next. -/
  owesMark : Bool
  deriving Repr, DecidableEq

namespace DiffReader

/-- Read a displayed line. An unchanged line stands for one line of each text, a removed one for a
line of the text before, an added one for a line of the text after, and a skip for as many lines
of each as it counts. A mark stands for no line. -/
def read : DiffReader → DiffLine → Option DiffReader
  | ⟨old :: olds, new :: news, false⟩, .context text =>
    if old = new ∧ text = withoutLastFeed old then some ⟨olds, news, !isTerminated old⟩ else none
  | ⟨old :: olds, news, false⟩, .removed text =>
    if text = withoutLastFeed old then some ⟨olds, news, !isTerminated old⟩ else none
  | ⟨olds, new :: news, false⟩, .added text =>
    if text = withoutLastFeed new then some ⟨olds, news, !isTerminated new⟩ else none
  | ⟨olds, news, false⟩, .skipped count =>
    if count ≤ olds.length ∧ olds.take count = news.take count then
      some ⟨olds.drop count, news.drop count, false⟩
    else none
  | ⟨olds, news, true⟩, .noNewline => some ⟨olds, news, false⟩
  | _, _ => none

/-- Read displayed lines from left to right. -/
def readAll (reader : DiffReader) (lines : List DiffLine) : Option DiffReader :=
  lines.foldlM read reader

@[simp] theorem readAll_nil (reader : DiffReader) : reader.readAll [] = some reader := rfl

@[simp] theorem readAll_cons (reader : DiffReader) (line : DiffLine) (rest : List DiffLine) :
    reader.readAll (line :: rest) = (reader.read line).bind (·.readAll rest) :=
  List.foldlM_cons

/-- Lines are read one behind the other. -/
theorem readAll_append (reader : DiffReader) (lines rest : List DiffLine) :
    reader.readAll (lines ++ rest) = (reader.readAll lines).bind (·.readAll rest) :=
  List.foldlM_append

end DiffReader

namespace Diff

/-- How a line of a run is displayed. -/
def RunTag.wrap : RunTag → String → DiffLine
  | .kept => .context
  | .removed => .removed
  | .added => .added

/-- Displayed lines that take away the lines of a script from both texts, whatever follows. -/
def Shows (script : List LineRun) (shown : List DiffLine) : Prop :=
  ∀ olds news : List String,
    (⟨oldLines script ++ olds, newLines script ++ news, false⟩ : DiffReader).readAll shown =
      some ⟨olds, news, false⟩

theorem Shows.nil : Shows [] [] := fun _ _ => rfl

/-- What two scripts show, they show one behind the other. -/
theorem Shows.append {script other : List LineRun} {shown rest : List DiffLine}
    (hscript : Shows script shown) (hother : Shows other rest) :
    Shows (script ++ other) (shown ++ rest) := by
  intro olds news
  have hold : oldLines (script ++ other) ++ olds = oldLines script ++ (oldLines other ++ olds) := by
    rw [oldLines_eq, linesWithout_append, List.append_assoc, ← oldLines_eq, ← oldLines_eq]
  have hnew : newLines (script ++ other) ++ news = newLines script ++ (newLines other ++ news) := by
    rw [newLines_eq, linesWithout_append, List.append_assoc, ← newLines_eq, ← newLines_eq]
  rw [DiffReader.readAll_append, hold, hnew, hscript, Option.bind_some, hother]

/-- A run can be shown in two parts. -/
theorem Shows.join {tag : RunTag} {front back : List String} {shown : List DiffLine}
    (hparts : Shows ([⟨tag, front⟩] ++ [⟨tag, back⟩]) shown) :
    Shows [⟨tag, front ++ back⟩] shown := by
  intro olds news
  have h := hparts olds news
  cases tag <;> simpa [oldLines, newLines] using h

/-- A displayed line, with its mark if it needs one, takes away the line it stands for. -/
theorem shows_showLine (tag : RunTag) {line : String} (honly : '\n' ∉ line.toList.dropLast) :
    Shows [⟨tag, [line]⟩] (showLine tag.wrap line) := by
  intro olds news
  have hfeed := Text.withoutFeed_eq_withoutLastFeed honly
  cases tag <;> by_cases hmark : isTerminated line = true <;>
    simp [oldLines, newLines, showLine, RunTag.wrap, DiffReader.read, hfeed, hmark]

/-- A skip takes away as many unchanged lines as it counts. -/
theorem shows_skipped (lines : List String) :
    Shows [⟨.kept, lines⟩] [.skipped lines.length] := by
  intro olds news
  simp [oldLines, newLines, DiffReader.read]

/-- The displayed lines of a run take away its lines. -/
theorem shows_showLines (tag : RunTag) {lines : List String}
    (honly : ∀ line ∈ lines, '\n' ∉ line.toList.dropLast) :
    Shows [⟨tag, lines⟩] (showLines tag.wrap lines) := by
  induction lines with
  | nil =>
    intro olds news
    cases tag <;> rfl
  | cons line rest ih =>
    have hline := shows_showLine tag (honly line List.mem_cons_self)
    have hrest := ih fun other hother => honly other (List.mem_cons_of_mem line hother)
    exact (hline.append hrest).join

/-- An unchanged run, with or without a skip, takes away its lines. -/
theorem shows_showKept {lines : List String} (atStart atEnd : Nat)
    (honly : ∀ line ∈ lines, '\n' ∉ line.toList.dropLast) :
    Shows [⟨.kept, lines⟩] (showKept lines atStart atEnd) := by
  by_cases hshort : lines.length < atStart + atEnd + 3
  · rw [showKept, if_pos hshort]
    exact shows_showLines .kept honly
  rw [showKept, if_neg hshort]
  -- What is skipped lies between the lines shown at the two ends.
  obtain ⟨skipped, hskipped⟩ : ∃ skipped, skipped =
    (lines.drop atStart).take (lines.length - atStart - atEnd) := ⟨_, rfl⟩
  have hlength : skipped.length = lines.length - atStart - atEnd := by
    rw [hskipped, List.length_take, List.length_drop]
    omega
  rw [← hlength] at hskipped ⊢
  have hparts : lines.take atStart ++ (skipped ++ lines.drop (atStart + skipped.length)) =
      lines := by
    rw [← List.drop_drop]
    nth_rewrite 1 [hskipped]
    rw [List.take_append_drop, List.take_append_drop]
  have hfront := shows_showLines .kept fun line hline =>
    honly line (List.mem_of_mem_take (i := atStart) hline)
  have hback := shows_showLines .kept fun line hline =>
    honly line (List.mem_of_mem_drop (i := atStart + skipped.length) hline)
  have hmiddle := ((shows_skipped skipped).append hback).join
  have h := (hfront.append hmiddle).join
  rwa [hparts] at h

/-- A displayed script takes away the lines of both of its texts. -/
theorem shows_showRuns (isFirst : Bool) {script : List LineRun}
    (honly : ∀ run ∈ script, ∀ line ∈ run.lines, '\n' ∉ line.toList.dropLast) :
    Shows script (showRuns isFirst script) := by
  induction script generalizing isFirst with
  | nil => exact .nil
  | cons run rest ih =>
    obtain ⟨tag, lines⟩ := run
    have hlines := honly ⟨tag, lines⟩ List.mem_cons_self
    have hrest := ih false fun run hrun => honly run (List.mem_cons_of_mem _ hrun)
    refine @Shows.append [⟨tag, lines⟩] rest _ _ ?_ hrest
    cases tag with
    | kept => exact shows_showKept _ _ hlines
    | removed => exact shows_showLines .removed hlines
    | added => exact shows_showLines .added hlines

end Diff

/-- Whether a displayed line is an edit. -/
def DiffLine.isEdit : DiffLine → Bool
  | .added _ | .removed _ => true
  | .context _ | .skipped _ | .noNewline => false

/-- A display without edits has neither an added nor a removed line. -/
theorem DiffLine.forall_not_isEdit_iff {lines : List DiffLine} :
    (∀ line ∈ lines, line.isEdit = false) ↔ ∀ text, added text ∉ lines ∧ removed text ∉ lines := by
  constructor
  · intro hnone text
    constructor
    · intro hadded
      cases hnone _ hadded
    · intro hremoved
      cases hnone _ hremoved
  · intro hnone line hline
    cases line with
    | added text => exact absurd hline (hnone text).1
    | removed text => exact absurd hline (hnone text).2
    | context | skipped | noNewline => rfl

/-- A line that is no edit takes away the same lines from both texts. -/
theorem DiffReader.read_of_not_isEdit {reader next : DiffReader} {line : DiffLine}
    (hread : reader.read line = some next) (hline : line.isEdit = false)
    (hnext : next.before = next.after) : reader.before = reader.after := by
  unfold read at hread
  split at hread
  case h_1 old olds new news text =>
    split at hread
    case isTrue hcontext =>
      cases hread
      exact congrArg₂ List.cons hcontext.1 hnext
    case isFalse => cases hread
  case h_2 | h_3 => cases hline
  case h_4 olds news count =>
    split at hread
    case isTrue hskip =>
      cases hread
      calc olds = olds.take count ++ olds.drop count := (List.take_append_drop _ _).symm
        _ = news.take count ++ news.drop count := congrArg₂ (· ++ ·) hskip.2 hnext
        _ = news := List.take_append_drop _ _
    case isFalse => cases hread
  case h_5 =>
    cases hread
    exact hnext
  case h_6 => cases hread

/-- Only equal texts can be read from a display without edits. -/
theorem DiffReader.readAll_of_not_isEdit {reader last : DiffReader} {lines : List DiffLine}
    (hread : reader.readAll lines = some last) (hlines : ∀ line ∈ lines, line.isEdit = false)
    (hlast : last.before = last.after) : reader.before = reader.after := by
  induction lines generalizing reader with
  | nil =>
    cases hread
    exact hlast
  | cons line rest ih =>
    rw [readAll_cons, Option.bind_eq_some_iff] at hread
    obtain ⟨next, hnext, hrest⟩ := hread
    have hsame := ih hrest fun other hother => hlines other (List.mem_cons_of_mem line hother)
    exact read_of_not_isEdit hnext (hlines line List.mem_cons_self) hsame

/-- An unchanged run is displayed without edits. -/
theorem Diff.not_isEdit_of_mem_showKept {lines : List String} {atStart atEnd : Nat}
    {line : DiffLine} (hline : line ∈ showKept lines atStart atEnd) : line.isEdit = false := by
  have hcontext {lines : List String} (hline : line ∈ showLines .context lines) :
      line.isEdit = false := by
    obtain ⟨text, -, hshown⟩ := List.mem_flatMap.mp hline
    rw [showLine] at hshown
    split at hshown
    · rw [List.mem_singleton.mp hshown]
      rfl
    · rcases List.mem_pair.mp hshown with rfl | rfl <;> rfl
  rw [showKept] at hline
  split at hline
  · exact hcontext hline
  · rcases List.mem_append.mp hline with hfront | hrest
    · exact hcontext hfront
    rcases List.mem_cons.mp hrest with rfl | hback
    · rfl
    · exact hcontext hback

namespace FileDiff

section Faithful

variable {differ : LineDiffer} (faithful : differ.IsFaithful) (diff : FileDiff)
include faithful

/-- The displayed lines stand for the runs of the full diff. -/
theorem shows_lines :
    Diff.Shows (Diff.gather (differ diff.before diff.after)) (diff.lines differ) := by
  refine Diff.shows_showRuns true fun run hrun text htext => ?_
  have hline : Diff.ScriptLine.mk run.tag text ∈ differ diff.before diff.after := by
    rw [← Diff.scriptLines_gather (differ diff.before diff.after)]
    exact List.mem_flatMap.mpr ⟨run, hrun, List.mem_map_of_mem htext⟩
  -- Every line of the full diff is a line of one of the texts.
  obtain hold | hnew := Diff.text_mem_textsWithout hline
  · rw [faithful.old] at hold
    exact (Text.cutIntoLines_terminatedLines diff.before).feed_notMem_dropLast hold
  · rw [faithful.new] at hnew
    exact (Text.cutIntoLines_terminatedLines diff.after).feed_notMem_dropLast hnew

/-- The reader of a displayed diff comes to its end with nothing left. -/
theorem readAll_lines :
    DiffReader.readAll ⟨terminatedLines diff.before, terminatedLines diff.after, false⟩
      (diff.lines differ) = some ⟨[], [], false⟩ := by
  have h := shows_lines faithful diff [] []
  rwa [Diff.oldLines_eq, Diff.newLines_eq, ← Diff.textsWithout_scriptLines,
    ← Diff.textsWithout_scriptLines, Diff.scriptLines_gather, faithful.old, faithful.new,
    List.append_nil, List.append_nil] at h

/-- A shortest full diff between equal texts is displayed as one unchanged run. -/
theorem lines_of_eq (shortest : Diff.IsShortest (differ diff.before diff.after))
    (hsame : diff.before = diff.after) :
    diff.lines differ = Diff.showRuns true (Diff.runOf .kept (terminatedLines diff.before)) := by
  have hnew := (faithful.new diff.before diff.after).trans (congrArg terminatedLines hsame.symm)
  rw [lines, shortest.eq_map_kept (faithful.old diff.before diff.after) hnew, Diff.gather_map_mk]

/-- Nothing is displayed as an edit if nothing changed. -/
theorem not_isEdit_of_isEmpty (shortest : Diff.IsShortest (differ diff.before diff.after))
    (hempty : diff.isEmpty = true) {line : DiffLine} (hline : line ∈ diff.lines differ) :
    line.isEdit = false := by
  rw [lines_of_eq faithful diff shortest (beq_iff_eq.mp hempty), Diff.runOf] at hline
  split at hline
  · exact absurd hline List.not_mem_nil
  · rw [Diff.showRuns, Diff.showRuns, List.append_nil] at hline
    exact Diff.not_isEdit_of_mem_showKept hline

/-- Something is displayed as an edit if something changed. -/
theorem isEmpty_of_not_isEdit (hnone : ∀ line ∈ diff.lines differ, line.isEdit = false) :
    diff.isEmpty = true := by
  have hsame := DiffReader.readAll_of_not_isEdit (readAll_lines faithful diff) hnone rfl
  exact beq_iff_eq.mpr (Text.terminatedLines_injective hsame)

end Faithful

/-- The displayed diff is faithful, if the differ is. A reader with the lines of both texts reads
it to its end, which leaves nothing of them. Where nothing is displayed as added or removed the
texts are equal, and between equal texts a shortest full diff displays nothing so. -/
theorem lines_faithful {differ : LineDiffer} (faithful : differ.IsFaithful) (diff : FileDiff) :
    CutIntoLines diff.before.toList (terminatedLines diff.before) ∧
      CutIntoLines diff.after.toList (terminatedLines diff.after) ∧
      DiffReader.readAll ⟨terminatedLines diff.before, terminatedLines diff.after, false⟩
        (diff.lines differ) = some ⟨[], [], false⟩ ∧
      ((∀ text, .added text ∉ diff.lines differ ∧ .removed text ∉ diff.lines differ) →
        diff.isEmpty = true) ∧
      (Diff.IsShortest (differ diff.before diff.after) → diff.isEmpty = true →
        ∀ text, .added text ∉ diff.lines differ ∧ .removed text ∉ diff.lines differ) := by
  refine ⟨Text.cutIntoLines_terminatedLines _, Text.cutIntoLines_terminatedLines _,
    readAll_lines faithful diff, fun hnone => ?_, fun shortest hempty => ?_⟩
  · exact isEmpty_of_not_isEdit faithful diff (DiffLine.forall_not_isEdit_iff.mpr hnone)
  · exact DiffLine.forall_not_isEdit_iff.mp fun line hline =>
      not_isEdit_of_isEmpty faithful diff shortest hempty hline

/-- A line without terminator was dropped, and one with it was added. -/
def reshapedDiff : FileDiff := ⟨⟨"notes"⟩, "x\ny", "x\nz\n"⟩

/-- A text that gets a line feed at its end and another last line, beside one that stays as it is.
-/
theorem lines_faithful_reshaped :
    reshapedDiff.lines = [.context "x", .removed "y", .noNewline, .added "z"] ∧
      DiffReader.readAll ⟨["x\n", "y"], ["x\n", "z\n"], false⟩ reshapedDiff.lines =
        some ⟨[], [], false⟩ ∧
      ∀ text, .added text ∉ lines ⟨⟨"notes"⟩, "x\ny", "x\ny"⟩ ∧
        .removed text ∉ lines ⟨⟨"notes"⟩, "x\ny", "x\ny"⟩ := by
  refine ⟨by decide +kernel, ?_, ?_⟩
  · have hold : terminatedLines reshapedDiff.before = ["x\n", "y"] := by decide +kernel
    have hnew : terminatedLines reshapedDiff.after = ["x\n", "z\n"] := by decide +kernel
    have h := (lines_faithful Diff.lineChanges_isFaithful reshapedDiff).2.2.1
    rwa [hold, hnew] at h
  · refine (lines_faithful Diff.lineChanges_isFaithful ⟨⟨"notes"⟩, "x\ny", "x\ny"⟩).2.2.2.2 ?_ ?_
    · rw [Diff.lineChanges_self]
      exact Diff.isShortest_map_kept _
    · decide

end FileDiff

end Scaffold
