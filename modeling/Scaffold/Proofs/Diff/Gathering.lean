import Mathlib.Data.List.Chain
import Mathlib.Data.List.Induction
import Scaffold.Diff.Display
import Scaffold.Proofs.Diff.Views

/-!
# Gathering lines into runs

A differ is faithful if its lines show the two texts that it compares, and its answer is shortest
if no other lines show the same texts with fewer edits. The runs gathered from a full diff, whoever
found it, hold its lines in order; none of them is empty, and two neighbours never have one fate.
The differ of this library is faithful, and between equal texts it has no edits.
-/

namespace Scaffold

namespace Diff

/-- The texts of the lines of a full diff without those of one fate. -/
def textsWithout (side : RunTag) (lines : List ScriptLine) : List String :=
  (lines.filter (·.tag != side)).map ScriptLine.text

/-- The number of lines removed and added. -/
def editCount (lines : List ScriptLine) : Nat := lines.countP (·.tag != .kept)

/-- No other lines lead from the same text to the same text with fewer edits. -/
def IsShortest (lines : List ScriptLine) : Prop :=
  ∀ others, textsWithout .added others = textsWithout .added lines →
    textsWithout .removed others = textsWithout .removed lines → editCount lines ≤ editCount others

end Diff

/-- A differ that shows the texts it compares: the lines kept and removed are those of the text
before in order, and the lines kept and added are those of the text after in order. -/
structure LineDiffer.IsFaithful (differ : LineDiffer) : Prop where
  /-- The lines of the text before. -/
  old (before after : String) :
    Diff.textsWithout .added (differ before after) = Text.terminatedLines before
  /-- The lines of the text after. -/
  new (before after : String) :
    Diff.textsWithout .removed (differ before after) = Text.terminatedLines after

namespace Diff

section Texts

variable {side : RunTag}

@[simp] theorem textsWithout_nil : textsWithout side [] = [] := rfl

/-- The texts of one side are those of both parts. -/
@[simp] theorem textsWithout_append (lines others : List ScriptLine) :
    textsWithout side (lines ++ others) = textsWithout side lines ++ textsWithout side others := by
  rw [textsWithout, List.filter_append, List.map_append]
  rfl

/-- Lines of one fate are all there, or none is. -/
theorem textsWithout_map_mk (tag : RunTag) (texts : List String) :
    textsWithout side (texts.map (ScriptLine.mk tag)) = if tag = side then [] else texts := by
  by_cases htag : tag = side <;> simp [textsWithout, List.filter_map, Function.comp_def, htag]

/-- The texts of a script are those of its lines. -/
theorem textsWithout_scriptLines (script : List LineRun) :
    textsWithout side (scriptLines script) = linesWithout side script := by
  induction script with
  | nil => rfl
  | cons run rest ih =>
    rw [scriptLines, List.flatMap_cons, ← scriptLines, textsWithout_append, ih,
      LineRun.scriptLines, textsWithout_map_mk, linesWithout_cons]

/-- A line of a full diff is one of the text before, or one of the text after. -/
theorem text_mem_textsWithout {lines : List ScriptLine} {line : ScriptLine} (h : line ∈ lines) :
    line.text ∈ textsWithout .added lines ∨ line.text ∈ textsWithout .removed lines := by
  have hmem {side : RunTag} (hside : line.tag ≠ side) : line.text ∈ textsWithout side lines :=
    List.mem_map_of_mem (List.mem_filter.mpr ⟨h, bne_iff_ne.mpr hside⟩)
  by_cases hadded : line.tag = .added
  · exact .inr (hmem (by rw [hadded]; exact nofun))
  · exact .inl (hmem hadded)

end Texts

section Gathering

/-- No run of the script is empty, and no two neighbours have one fate. -/
structure IsParted (script : List LineRun) : Prop where
  /-- No run is empty. -/
  lines_ne_nil : ∀ run ∈ script, run.lines ≠ []
  /-- Neighbours differ in their fate. -/
  apart : script.IsChain fun left right => left.tag ≠ right.tag

variable {runs : List LineRun} {line : ScriptLine}

/-- A line joins the last run, or starts one. -/
theorem addLine_cases (runs : List LineRun) (line : ScriptLine) :
    (∃ before texts, runs = before ++ [⟨line.tag, texts⟩] ∧
      addLine runs line = before ++ [⟨line.tag, texts ++ [line.text]⟩]) ∨
    ((∀ run ∈ runs.getLast?, run.tag ≠ line.tag) ∧
      addLine runs line = runs ++ [⟨line.tag, [line.text]⟩]) := by
  obtain rfl | ⟨before, ⟨tag, texts⟩, rfl⟩ := List.eq_nil_or_concat' runs
  · exact .inr ⟨nofun, rfl⟩
  · by_cases htag : tag = line.tag
    · exact .inl ⟨before, texts, by rw [htag], by simp [addLine, htag]⟩
    · exact .inr ⟨by simpa using htag, by simp [addLine, htag]⟩

/-- A line comes behind the lines of the runs it is added to. -/
theorem scriptLines_addLine : scriptLines (addLine runs line) = scriptLines runs ++ [line] := by
  obtain ⟨before, texts, rfl, hadd⟩ | ⟨-, hadd⟩ := addLine_cases runs line
  · simp [hadd, scriptLines, LineRun.scriptLines]
  · simp [hadd, scriptLines, LineRun.scriptLines]

/-- One line more keeps runs parted. -/
theorem IsParted.addLine (parted : IsParted runs) : IsParted (addLine runs line) := by
  obtain ⟨before, texts, rfl, hadd⟩ | ⟨hlast, hadd⟩ := addLine_cases runs line
  · rw [hadd]
    constructor
    · intro run hrun
      obtain hold | hnew := List.mem_append.mp hrun
      · exact parted.lines_ne_nil run (List.mem_append_left _ hold)
      · rw [List.mem_singleton.mp hnew]
        exact List.append_ne_nil_of_right_ne_nil _ (List.cons_ne_nil _ _)
    · -- The last run keeps its fate, so it differs from the one before as it did.
      have happart := List.isChain_append.mp parted.apart
      refine List.isChain_append.mpr ⟨happart.1, List.isChain_singleton _, ?_⟩
      intro left hleft right hright
      obtain rfl := Option.some.inj hright
      exact happart.2.2 left hleft ⟨line.tag, texts⟩ rfl
  · rw [hadd]
    constructor
    · intro run hrun
      obtain hold | hnew := List.mem_append.mp hrun
      · exact parted.lines_ne_nil run hold
      · rw [List.mem_singleton.mp hnew]
        exact List.cons_ne_nil _ _
    · refine parted.apart.append (List.isChain_singleton _) fun left hleft right hright => ?_
      obtain rfl := Option.some.inj hright
      exact hlast left hleft

/-- The last line of a full diff is added to the runs of the lines before. -/
theorem gather_append_singleton (lines : List ScriptLine) (line : ScriptLine) :
    gather (lines ++ [line]) = Diff.addLine (gather lines) line := by
  rw [gather, List.foldl_append, List.foldl_cons, List.foldl_nil, ← gather]

/-- The runs of a full diff hold its lines in order. -/
theorem scriptLines_gather (lines : List ScriptLine) : scriptLines (gather lines) = lines := by
  induction lines using List.reverseRecOn with
  | nil => rfl
  | append_singleton lines line ih => rw [gather_append_singleton, scriptLines_addLine, ih]

/-- The runs of a full diff are parted. -/
theorem isParted_gather (lines : List ScriptLine) : IsParted (gather lines) := by
  induction lines using List.reverseRecOn with
  | nil => exact ⟨nofun, .nil⟩
  | append_singleton lines line ih =>
    rw [gather_append_singleton]
    exact ih.addLine

/-- Lines of one fate make up one run. -/
theorem gather_map_mk (tag : RunTag) (texts : List String) :
    gather (texts.map (ScriptLine.mk tag)) = runOf tag texts := by
  induction texts using List.reverseRecOn with
  | nil => rfl
  | append_singleton texts text ih =>
    rw [List.map_append, List.map_singleton, gather_append_singleton, ih]
    cases texts <;> simp [runOf, Diff.addLine]

end Gathering

section Equal

variable {lines : List ScriptLine} {texts : List String}

/-- Where nothing is edited every line is kept. -/
theorem eq_map_mk_of_editCount_eq_zero (h : editCount lines = 0) :
    lines = (textsWithout .added lines).map (ScriptLine.mk .kept) := by
  have hkept : ∀ line ∈ lines, line.tag = .kept := by
    intro line hline
    have hedit := List.countP_eq_zero.mp h line hline
    rwa [bne_iff_ne, not_not] at hedit
  have hall : lines.filter (·.tag != .added) = lines := by
    refine List.filter_eq_self.mpr fun line hline => ?_
    rw [hkept line hline]
    rfl
  have hsame : ∀ line ∈ lines, ScriptLine.mk .kept line.text = line := by
    intro line hline
    rw [← hkept line hline]
  rw [textsWithout, hall, List.map_map]
  exact ((List.map_congr_left hsame).trans (List.map_id' lines)).symm

/-- Kept lines are no edits. -/
theorem editCount_map_kept (texts : List String) :
    editCount (texts.map (ScriptLine.mk .kept)) = 0 := by
  simp [editCount, List.countP_map, Function.comp_def]

/-- No lines show a text twice with fewer edits than kept ones. -/
theorem isShortest_map_kept (texts : List String) :
    IsShortest (texts.map (ScriptLine.mk .kept)) := by
  intro others _ _
  rw [editCount_map_kept]
  exact Nat.zero_le _

/-- A shortest way from a text to itself keeps every line. -/
theorem IsShortest.eq_map_kept (shortest : IsShortest lines)
    (hold : textsWithout .added lines = texts) (hnew : textsWithout .removed lines = texts) :
    lines = texts.map (ScriptLine.mk .kept) := by
  have hkept (side : RunTag) (hside : side ≠ .kept) :
      textsWithout side (texts.map (ScriptLine.mk .kept)) = texts := by
    rw [textsWithout_map_mk, if_neg hside.symm]
  have hfew := shortest (texts.map (ScriptLine.mk .kept)) ((hkept .added nofun).trans hold.symm)
    ((hkept .removed nofun).trans hnew.symm)
  rw [editCount_map_kept] at hfew
  have hall := eq_map_mk_of_editCount_eq_zero (Nat.le_zero.mp hfew)
  rwa [hold] at hall

end Equal

/-- The differ of this library is faithful. -/
theorem lineChanges_isFaithful : lineChanges.IsFaithful where
  old before after := by
    rw [lineChanges, textsWithout_scriptLines, ← oldLines_eq, script, oldLines_compact_shortest]
  new before after := by
    rw [lineChanges, textsWithout_scriptLines, ← newLines_eq, script, newLines_compact_shortest]

/-- Between equal texts the differ of this library keeps every line. -/
theorem lineChanges_self (text : String) :
    lineChanges text text = (Text.terminatedLines text).map (ScriptLine.mk .kept) := by
  rw [lineChanges, script, compact_shortest_self]
  cases Text.terminatedLines text <;> simp [scriptLines, runOf, LineRun.scriptLines]

end Diff

end Scaffold
