import Scaffold.Proofs.Summary.Accounting
import Scaffold.Proofs.Table

/-!
# Summaries without their colours

The table of a summary is laid out by the plain texts of its cells. The colours of an action, of a
path and of the counts, each for itself, show these plain texts, and so the coloured table shows the
table without colours.
-/

namespace Scaffold

namespace EditCount

/-- The text of a count holds an escape character only if the word for the kind does. -/
theorem isUnescaped_plain {count : EditCount} (unescaped : Text.IsUnescaped count.label) :
    Text.IsUnescaped count.plain := by
  rw [plain, Text.isUnescaped_append, Text.isUnescaped_append, Text.isUnescaped_append]
  refine ⟨⟨⟨Text.isUnescaped_toString _, by decide⟩, unescaped⟩, ?_⟩
  split <;> decide

/-- A count shows its text in every colour. -/
theorem shows_render [Text.Painter] [Text.LawfulPainter] (colours : Bool) {count : EditCount}
    (unescaped : Text.IsUnescaped count.label) :
    Text.Shows (count.render colours) (count.render false) := by
  rw [render, render]
  cases count.colour? with
  | none => exact .of_unescaped (isUnescaped_plain unescaped)
  | some colour => exact .paintIf colours colour (isUnescaped_plain unescaped)

end EditCount

/-- Whether neither the path of a row nor a word for its edits holds an escape character. -/
def SummaryRow.IsUnescaped (row : SummaryRow) : Prop :=
  Text.IsUnescaped row.path.text ∧ ∀ count ∈ row.stats, Text.IsUnescaped count.label

instance (row : SummaryRow) : Decidable row.IsUnescaped := inferInstanceAs (Decidable (_ ∧ _))

namespace SummaryRow

variable [Text.Painter] [Text.LawfulPainter] {row : SummaryRow}

/-- The edits of a row are shown in words, coloured or not. -/
theorem shows_statsText (colours : Bool) (unescaped : row.IsUnescaped) :
    Text.Shows (row.statsText colours) (row.statsText false) :=
  .intercalate (by decide) fun count hcount =>
    EditCount.shows_render colours (unescaped.2 count hcount)

/-- Every cell of the row shows its plain text. -/
theorem shows_cells (colours : Bool) (unescaped : row.IsUnescaped) :
    ∀ cell ∈ row.cells colours, Text.Shows cell.styled cell.plain := by
  have hlabel : Text.IsUnescaped row.action.label := by cases row.action <;> decide
  have hopen : Text.Shows "[ " "[ " := .of_unescaped (by decide)
  have hclose : Text.Shows " ]" " ]" := .of_unescaped (by decide)
  simp only [cells, List.forall_mem_cons]
  refine ⟨.paintIf colours _ hlabel, .paintIf colours _ unescaped.1, ?_, List.forall_mem_nil _⟩
  exact (hopen.append (shows_statsText colours unescaped)).append hclose

end SummaryRow

namespace Summary

/-- Without its colours, a coloured summary is the summary without colours. -/
theorem withoutColours_render [Text.Painter] [Text.LawfulPainter] (summary : Summary)
    (unescaped : ∀ row ∈ summary.rows, row.IsUnescaped) :
    Text.withoutColours (summary.render true) = summary.render false := by
  have hshown : ∀ row ∈ summary.rows.map (·.cells true), ∀ cell ∈ row,
      Text.Shows cell.styled cell.plain := by
    intro cells hcells
    obtain ⟨row, hrow, rfl⟩ := List.mem_map.mp hcells
    exact row.shows_cells true (unescaped row hrow)
  rw [render, (Table.shows_render 5 20 hshown).withoutColours_eq, List.map_map]
  rfl

/-- The words for edits hold no escape character. -/
theorem isUnescaped_of_mem_ofCluster {ω : Type} [FileHost ω] {cluster : ChangeCluster} {host : ω}
    {row : SummaryRow} (h : row ∈ (ofCluster cluster host).rows)
    (unescaped : Text.IsUnescaped row.path.text) : row.IsUnescaped := by
  obtain ⟨entry, -, rfl⟩ := List.mem_map.mp h
  refine ⟨unescaped, fun count hcount => ?_⟩
  have hknown := (rowOf_counts host entry.1 entry.2).known count hcount
  revert hknown
  generalize count.label = label
  simp only [List.mem_cons, List.not_mem_nil, or_false]
  rintro (rfl | rfl | rfl) <;> decide

/-- Tables are aligned by the plain texts of their cells, whatever is shown of them, and a summary
whose paths hold no escape character is shown in colours as it is without them. -/
theorem tables_align_and_colours_vanish [Text.Painter] [Text.LawfulPainter] :
    (∀ (rows : List (List Cell)) (columns indent least : Nat),
      (∀ row ∈ rows, row.length = columns) → Table.Aligned rows columns indent least) ∧
    (∀ summary : Summary, (∀ row ∈ summary.rows, row.IsUnescaped) →
      Text.withoutColours (summary.render true) = summary.render false) ∧
    ∀ (ω : Type) [FileHost ω] (cluster : ChangeCluster) (host : ω),
      (∀ path ∈ (ofCluster cluster host).files, Text.IsUnescaped path.text) →
      Text.withoutColours ((ofCluster cluster host).render true) =
        (ofCluster cluster host).render false := by
  refine ⟨fun rows columns indent least equal => Table.aligned_render equal indent least,
    withoutColours_render, fun ω _ cluster host unescaped => ?_⟩
  refine withoutColours_render _ fun row hrow => isUnescaped_of_mem_ofCluster hrow ?_
  exact unescaped row.path (List.mem_map_of_mem hrow)

/-- Two rows of three cells each, coloured and without colours. -/
theorem plan_aligns_and_its_colours_vanish :
    let summary : Summary :=
      ⟨[⟨.create, ⟨"src/é.rs"⟩, [⟨"insert", 2⟩, ⟨"remove", 1⟩]⟩, ⟨.change, ⟨"b"⟩, [⟨"replace", 1⟩]⟩]⟩
    summary.render true ≠ summary.render false ∧
      Text.withoutColours (summary.render true) = summary.render false ∧
      Table.Aligned (summary.rows.map (·.cells true)) 3 5 20 ∧
      Table.Even (summary.rows.map (·.cells false)) 3 5 20
        ((summary.render false).toList.splitOn '\n') ∧
      (let host := MemoryHost.withFiles [(⟨"a"⟩, "Hi ")]
      Text.withoutColours ((ofCluster (ChangeCluster.ofChanges nestedPlan) host).render true) =
        (ofCluster (ChangeCluster.ofChanges nestedPlan) host).render false) := by
  intro summary
  obtain ⟨htables, hsummaries, hclusters⟩ := tables_align_and_colours_vanish
  refine ⟨by decide +kernel, hsummaries summary (by decide), htables _ 3 5 20 (by decide),
    (htables _ 3 5 20 (by decide)).even (by decide) (by decide), ?_⟩
  intro host
  refine hclusters _ _ _ ?_
  rw [ChangeCluster.ofChanges, sort_nestedPlan]
  decide

end Summary

end Scaffold
