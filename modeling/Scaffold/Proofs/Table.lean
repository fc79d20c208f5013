import Mathlib.Algebra.BigOperators.Group.List.Basic
import Mathlib.Algebra.GroupWithZero.Nat
import Mathlib.Order.Bounds.Basic
import Scaffold.Proofs.Text.Styled
import Scaffold.Proofs.Text.Words
import Scaffold.Table

/-!
# The layout of a table

A line of a table has two texts like a cell: the plain one, by which positions are counted, and the
one shown. Every column starts in all lines at the same position and is as wide as its widest cell.
What a line holds there is the cell of its row and spaces up to the width, so that a table without
styles can be cut into its lines and these into their cells again.
-/

namespace Scaffold

namespace Cell

instance : Append Cell := ⟨fun left right => ⟨left.plain ++ right.plain, left.styled ++ right.styled⟩⟩

/-- Spaces between cells. -/
def spaces (count : Nat) : Cell := ofText (String.ofList (List.replicate count ' '))

/-- The cell with its plain text shown. -/
def unstyled (cell : Cell) : Cell := ofText cell.plain

/-- The cell and spaces up to the width. -/
def padded (cell : Cell) (width : Nat) : Cell := cell ++ spaces (width - cell.width)

/-- It does not matter which cells are joined first. -/
theorem append_assoc (first second third : Cell) :
    first ++ second ++ third = first ++ (second ++ third) :=
  congrArg₂ Cell.mk String.append_assoc String.append_assoc

@[simp] theorem plain_append (left right : Cell) : (left ++ right).plain = left.plain ++ right.plain :=
  rfl

/-- Joined cells are as wide as both together. -/
@[simp] theorem width_append (left right : Cell) : (left ++ right).width = left.width + right.width :=
  String.length_append _ _

/-- Spaces are as wide as there are of them. -/
@[simp] theorem width_spaces (count : Nat) : (spaces count).width = count := by
  rw [width, spaces, ofText, String.length_ofList, List.length_replicate]

@[simp] theorem spaces_zero_append (cell : Cell) : spaces 0 ++ cell = cell :=
  congrArg₂ Cell.mk String.empty_append String.empty_append

@[simp] theorem append_spaces_zero (cell : Cell) : cell ++ spaces 0 = cell :=
  congrArg₂ Cell.mk String.append_empty String.append_empty

/-- A cell that fits is padded to the width. -/
theorem width_padded {cell : Cell} {width : Nat} (fits : cell.width ≤ width) :
    (cell.padded width).width = width := by
  rw [padded, width_append, width_spaces, Nat.add_sub_cancel' fits]

end Cell

namespace Table

/-- A row as a line; its plain text is that of the row without styles. -/
def line (indent : Nat) (widths : List Nat) (row : List Cell) : Cell :=
  ⟨renderRow indent widths (row.map Cell.unstyled), renderRow indent widths row⟩

/-- The position in a line at which a column starts: behind the indentation, the columns before it
and the spaces that separate them. -/
def columnStart (rows : List (List Cell)) (indent least column : Nat) : Nat :=
  indent + ((List.range column).map fun before => columnWidth least rows before + 1).sum

/-- Whether a line holds the cell at a position, followed by spaces up to the width. -/
def HasCellAt (line : Cell) (start width : Nat) (cell : Cell) : Prop :=
  cell.width ≤ width ∧
    ∃ before after : Cell, before.width = start ∧ line = before ++ cell.padded width ++ after

/-- The lines of a table without styles, cut at its line breaks. -/
structure Even (rows : List (List Cell)) (columns indent least : Nat) (lines : List (List Char)) :
    Prop where
  /-- There is one for each row. -/
  count : lines.length = rows.length
  /-- All of them are equally long. -/
  length : ∀ line ∈ lines, line.length =
    indent + ((List.range columns).map (columnWidth least rows)).sum + (columns - 1)
  /-- The characters of each column are those of the cell and spaces. -/
  kept : ∀ (place : Nat) (row : List Cell), rows[place]? = some row →
    ∃ line, lines[place]? = some line ∧ ∀ (column : Nat) (cell : Cell), row[column]? = some cell →
      (line.drop (columnStart rows indent least column)).take (columnWidth least rows column) =
        cell.plain.toList ++ List.replicate (columnWidth least rows column - cell.width) ' '

/-- How a table is laid out whose rows have the same number of cells. -/
structure Aligned (rows : List (List Cell)) (columns indent least : Nat) : Prop where
  /-- A column is as wide as its widest cell, or as required if that is more. -/
  widest : ∀ column, IsGreatest
    {width | width = least ∨ ∃ row ∈ rows, ∃ cell, row[column]? = some cell ∧ cell.width = width}
    (columnWidth least rows column)
  /-- The text shown is that of one line for each row, -/
  lines : render rows indent least =
    "\n".intercalate (rows.map fun row => (line indent (columnWidths least rows) row).styled)
  /-- which are its lines if no cell breaks one. -/
  apart : rows ≠ [] → (∀ row ∈ rows, ∀ cell ∈ row, '\n' ∉ cell.styled.toList) →
    (render rows indent least).toList.splitOn '\n' =
      rows.map fun row => (line indent (columnWidths least rows) row).styled.toList
  /-- Each line holds the cells of its row where their columns are. -/
  holds : ∀ row ∈ rows, ∀ (column : Nat) (cell : Cell), row[column]? = some cell →
    HasCellAt (line indent (columnWidths least rows) row)
      (columnStart rows indent least column) (columnWidth least rows column) cell
  /-- Without styles and line breaks, the lines are equally long and give the cells back. -/
  even : rows ≠ [] →
    (∀ row ∈ rows, ∀ cell ∈ row, cell.styled = cell.plain ∧ '\n' ∉ cell.plain.toList) →
    Even rows columns indent least ((render rows indent least).toList.splitOn '\n')

section Widths

variable {least columns : Nat} {rows : List (List Cell)}

/-- The greatest width is found from left to right. -/
theorem isGreatest_foldl_max (least : Nat) (cells : List Cell) :
    IsGreatest {width | width = least ∨ ∃ cell ∈ cells, cell.width = width}
      (cells.foldl (fun widest cell => max widest cell.width) least) := by
  induction cells generalizing least with
  | nil => simp [isGreatest_singleton]
  | cons first rest ih =>
    obtain ⟨hreached, hupper⟩ := ih (max least first.width)
    have hleast : max least first.width ≤
        rest.foldl (fun widest cell => max widest cell.width) (max least first.width) :=
      hupper (.inl rfl)
    constructor
    · obtain hmax | ⟨cell, hcell, hwidth⟩ := hreached
      · obtain hle | hle := Nat.le_total first.width least
        · exact .inl (hmax.trans (Nat.max_eq_left hle))
        · exact .inr ⟨first, List.mem_cons_self, (hmax.trans (Nat.max_eq_right hle)).symm⟩
      · exact .inr ⟨cell, List.mem_cons_of_mem first hcell, hwidth⟩
    · rintro width (rfl | ⟨cell, hcell, rfl⟩)
      · exact (Nat.le_max_left _ _).trans hleast
      · obtain rfl | hrest := List.mem_cons.mp hcell
        · exact (Nat.le_max_right _ _).trans hleast
        · exact hupper (.inr ⟨cell, hrest, rfl⟩)

/-- A column is as wide as its widest cell, or as the least width. -/
theorem isGreatest_columnWidth (least : Nat) (rows : List (List Cell)) (column : Nat) : IsGreatest
    {width | width = least ∨ ∃ row ∈ rows, ∃ cell, row[column]? = some cell ∧ cell.width = width}
    (columnWidth least rows column) := by
  have hcells (width : Nat) : (∃ cell ∈ rows.filterMap (·[column]?), cell.width = width) ↔
      ∃ row ∈ rows, ∃ cell, row[column]? = some cell ∧ cell.width = width := by
    simp only [List.mem_filterMap]
    exact ⟨fun ⟨cell, ⟨row, hrow, hcell⟩, hwidth⟩ => ⟨row, hrow, cell, hcell, hwidth⟩,
      fun ⟨row, hrow, cell, hcell, hwidth⟩ => ⟨cell, ⟨row, hrow, hcell⟩, hwidth⟩⟩
  have h := isGreatest_foldl_max least (rows.filterMap (·[column]?))
  simp only [hcells] at h
  exact h

/-- No cell is wider than its column. -/
theorem width_le_columnWidth {row : List Cell} (hrow : row ∈ rows) {column : Nat} {cell : Cell}
    (hcell : row[column]? = some cell) : cell.width ≤ columnWidth least rows column :=
  (isGreatest_columnWidth least rows column).2 (.inr ⟨row, hrow, cell, hcell, rfl⟩)

/-- The number of columns is that of the cells in every row. -/
theorem columnWidths_of_mem (equal : ∀ row ∈ rows, row.length = columns) {row : List Cell}
    (hrow : row ∈ rows) :
    columnWidths least rows = (List.range columns).map (columnWidth least rows) := by
  cases rows with
  | nil => cases hrow
  | cons first rest => rw [columnWidths, equal first List.mem_cons_self]

/-- Whether the cells of a row are within the widths of their columns. -/
def Fits (row : List Cell) (widths : List Nat) : Prop :=
  List.Forall₂ (fun cell width => cell.width ≤ width) row widths

/-- Every row fits into the columns. -/
theorem fits_of_mem (equal : ∀ row ∈ rows, row.length = columns) {row : List Cell}
    (hrow : row ∈ rows) : Fits row (columnWidths least rows) := by
  rw [columnWidths_of_mem equal hrow]
  refine List.forall₂_iff_get.mpr ⟨by simp [equal row hrow], fun place hplace hwidth => ?_⟩
  simp only [List.get_eq_getElem, List.getElem_map, List.getElem_range]
  exact width_le_columnWidth hrow (List.getElem?_eq_getElem hplace)

end Widths

section Lines

variable {row : List Cell} {widths : List Nat} {cell : Cell}

/-- The cells of a row, padded and with one space between them. -/
def joined (widths : List Nat) (row : List Cell) : Cell :=
  ⟨" ".intercalate (List.zipWith Cell.pad (row.map Cell.unstyled) widths),
    " ".intercalate (List.zipWith Cell.pad row widths)⟩

/-- A line is its row behind the indent. -/
theorem line_eq (indent : Nat) (widths : List Nat) (row : List Cell) :
    line indent widths row = .spaces indent ++ joined widths row := rfl

/-- A single cell is padded to its column. -/
theorem joined_singleton (cell : Cell) (width : Nat) : joined [width] [cell] = cell.padded width := by
  simp [joined]
  rfl

/-- Between two cells there is one space. -/
theorem joined_cons_cons (cell next : Cell) (width follow : Nat) (row : List Cell)
    (widths : List Nat) :
    joined (width :: follow :: widths) (cell :: next :: row) =
      cell.padded width ++ .spaces 1 ++ joined (follow :: widths) (next :: row) := by
  simp [joined, String.intercalate_cons_cons]
  rfl

/-- A row is as wide as its columns with a space between any two. -/
theorem width_joined (fits : Fits row widths) :
    (joined widths row).width = widths.sum + (widths.length - 1) := by
  induction fits with
  | nil => rfl
  | @cons cell width row widths hfits hrest ih =>
    cases hrest with
    | nil => rw [joined_singleton, Cell.width_padded hfits]; rfl
    | cons hnext hrest =>
      rw [joined_cons_cons, Cell.width_append, Cell.width_append, Cell.width_padded hfits, ih]
      simp
      omega

/-- A cell stands in its row behind the columns before it and the spaces that separate them. -/
theorem hasCellAt_joined (fits : Fits row widths) {column : Nat} (hcell : row[column]? = some cell) :
    ∃ width, widths[column]? = some width ∧
      HasCellAt (joined widths row) ((widths.take column).sum + column) width cell := by
  induction fits generalizing column with
  | nil => cases hcell
  | @cons first width row widths hfits hrest ih =>
    cases column with
    | zero =>
      obtain rfl : first = cell := Option.some.inj hcell
      refine ⟨width, rfl, hfits, .spaces 0, ?_⟩
      cases hrest with
      | nil => exact ⟨.spaces 0, rfl, by simp [joined_singleton]⟩
      | @cons next follow row widths hnext hrest =>
        refine ⟨.spaces 1 ++ joined (follow :: widths) (next :: row), rfl, ?_⟩
        rw [joined_cons_cons, Cell.spaces_zero_append, Cell.append_assoc]
    | succ column =>
      obtain ⟨wide, hwide, hle, before, after, hbefore, heq⟩ := ih hcell
      refine ⟨wide, hwide, hle, ?_⟩
      cases hrest with
      | nil => cases hcell
      | @cons next follow row widths hnext hrest =>
        -- The cells before are those of the rest, behind the first one and the space after it.
        refine ⟨first.padded width ++ .spaces 1 ++ before, after, ?_, ?_⟩
        · simp [Cell.width_padded hfits, hbefore]
          omega
        · rw [joined_cons_cons, heq]
          simp only [Cell.append_assoc]

/-- Behind an indent, cells start later. -/
theorem HasCellAt.indented {line : Cell} {start width : Nat} (h : HasCellAt line start width cell)
    (indent : Nat) : HasCellAt (.spaces indent ++ line) (indent + start) width cell := by
  obtain ⟨hle, before, after, rfl, rfl⟩ := h
  refine ⟨hle, .spaces indent ++ before, after, by simp, ?_⟩
  simp only [Cell.append_assoc]

/-- The characters of a line at the place of a cell are those of the cell and spaces. -/
theorem HasCellAt.slice {line : Cell} {start width : Nat} (h : HasCellAt line start width cell) :
    (line.plain.toList.drop start).take width =
      cell.plain.toList ++ List.replicate (width - cell.width) ' ' := by
  obtain ⟨hle, before, after, rfl, rfl⟩ := h
  have hbefore : before.width = before.plain.toList.length := String.length_toList.symm
  have hpadded : (cell.plain.toList ++ List.replicate (width - cell.width) ' ').length = width := by
    rw [List.length_append, List.length_replicate, String.length_toList]
    exact Nat.add_sub_cancel' hle
  have hchars : (before ++ cell.padded width ++ after).plain.toList =
      before.plain.toList ++
        ((cell.plain.toList ++ List.replicate (width - cell.width) ' ') ++ after.plain.toList) := by
    simp [Cell.padded, Cell.spaces, Cell.ofText]
  rw [hchars, hbefore, List.drop_left, List.take_left' hpadded]

end Lines

section Layout

variable {rows : List (List Cell)} {columns : Nat}

theorem sum_map_add_one (columns : List Nat) (size : Nat → Nat) :
    (columns.map fun column => size column + 1).sum = (columns.map size).sum + columns.length := by
  induction columns with
  | nil => rfl
  | cons column rest ih =>
    simp only [List.map_cons, List.sum_cons, List.length_cons, ih]
    omega

/-- In every line, a cell starts where its column does and is as wide. -/
theorem hasCellAt_line (equal : ∀ row ∈ rows, row.length = columns) (indent least : Nat)
    {row : List Cell} (hrow : row ∈ rows) {column : Nat} {cell : Cell}
    (hcell : row[column]? = some cell) :
    HasCellAt (line indent (columnWidths least rows) row)
      (columnStart rows indent least column) (columnWidth least rows column) cell := by
  obtain ⟨width, hwidth, hat⟩ := hasCellAt_joined (@fits_of_mem least _ _ equal _ hrow) hcell
  have hcolumn : column < columns := equal row hrow ▸ (List.getElem?_eq_some_iff.mp hcell).1
  rw [columnWidths_of_mem equal hrow, List.getElem?_map, List.getElem?_range hcolumn] at hwidth
  obtain rfl : columnWidth least rows column = width := Option.some.inj hwidth
  have hstart : ((columnWidths least rows).take column).sum + column =
      ((List.range column).map fun before => columnWidth least rows before + 1).sum := by
    rw [columnWidths_of_mem equal hrow, sum_map_add_one, ← List.map_take, List.take_range,
      Nat.min_eq_left hcolumn.le, List.length_range]
  rw [hstart] at hat
  exact hat.indented indent

/-- All lines are as wide as the indent and the columns with a space between any two. -/
theorem width_line (equal : ∀ row ∈ rows, row.length = columns) (indent least : Nat)
    {row : List Cell} (hrow : row ∈ rows) : (line indent (columnWidths least rows) row).width =
      indent + ((List.range columns).map (columnWidth least rows)).sum + (columns - 1) := by
  rw [line_eq, Cell.width_append, Cell.width_spaces, width_joined (fits_of_mem equal hrow),
    columnWidths_of_mem equal hrow, List.length_map, List.length_range, Nat.add_assoc]

/-- Cells without line ends make a line without any. -/
theorem not_mem_renderRow {row : List Cell} (indent : Nat) (widths : List Nat)
    (unbroken : ∀ cell ∈ row, '\n' ∉ cell.styled.toList) :
    '\n' ∉ (renderRow indent widths row).toList := by
  have hspaces (count : Nat) : '\n' ∉ List.replicate count ' ' := fun h =>
    absurd (List.eq_of_mem_replicate h) (by decide)
  rw [renderRow, String.toList_append, String.toList_ofList, List.mem_append, not_or]
  refine ⟨hspaces indent, fun hjoined => ?_⟩
  rw [String.toList_intercalate] at hjoined
  obtain hspace | ⟨part, hpart, hbreak⟩ := Text.mem_of_mem_intercalate hjoined
  · exact absurd hspace (by decide)
  · obtain ⟨text, htext, rfl⟩ := List.mem_map.mp hpart
    rw [← List.map_uncurry_zip_eq_zipWith] at htext
    obtain ⟨⟨cell, width⟩, hzip, rfl⟩ := List.mem_map.mp htext
    rw [Function.uncurry_apply_pair, Cell.pad, String.toList_append, String.toList_ofList,
      List.mem_append] at hbreak
    exact hbreak.elim (unbroken cell (List.of_mem_zip hzip).1) (hspaces _)

/-- The lines of a table are those of its rows. -/
theorem splitOn_render (hne : rows ≠ []) (indent least : Nat)
    (unbroken : ∀ row ∈ rows, ∀ cell ∈ row, '\n' ∉ cell.styled.toList) :
    (render rows indent least).toList.splitOn '\n' =
      rows.map fun row => (renderRow indent (columnWidths least rows) row).toList := by
  rw [render, String.toList_intercalate, renderLines, List.map_map]
  refine List.splitOn_intercalate '\n' (fun chars hchars => ?_) (by simpa using hne)
  obtain ⟨row, hrow, rfl⟩ := List.mem_map.mp hchars
  exact not_mem_renderRow _ _ (unbroken row hrow)

/-- Cells whose styled text is the plain one stay as they are without style. -/
theorem unstyled_of_plain {row : List Cell} (plain : ∀ cell ∈ row, cell.styled = cell.plain) :
    row.map Cell.unstyled = row := by
  refine (List.map_congr_left fun cell hcell => ?_).trans (List.map_id row)
  rw [Cell.unstyled, Cell.ofText]
  exact congrArg (Cell.mk cell.plain) (plain cell hcell).symm

/-- Without styles, the lines are equally long and have the cells in their columns. -/
theorem even_of_plain (equal : ∀ row ∈ rows, row.length = columns) (indent least : Nat)
    {lines : List (List Char)}
    (hlines : lines = rows.map fun row => (line indent (columnWidths least rows) row).plain.toList) :
    Even rows columns indent least lines := by
  subst hlines
  refine ⟨List.length_map _, fun chars hchars => ?_, fun place row hrow => ?_⟩
  · obtain ⟨row, hrow, rfl⟩ := List.mem_map.mp hchars
    rw [String.length_toList]
    exact width_line equal indent least hrow
  · refine ⟨_, by rw [List.getElem?_map, hrow]; rfl, fun column cell hcell => ?_⟩
    exact (hasCellAt_line equal indent least (List.mem_of_getElem? hrow) hcell).slice

/-- Rows of equally many cells are rendered as an aligned table. -/
theorem aligned_render (equal : ∀ row ∈ rows, row.length = columns) (indent least : Nat) :
    Aligned rows columns indent least where
  widest := isGreatest_columnWidth least rows
  lines := rfl
  apart hne unbroken := splitOn_render hne indent least unbroken
  holds row hrow column cell hcell := hasCellAt_line equal indent least hrow hcell
  even hne plain := by
    refine even_of_plain equal indent least ?_
    rw [splitOn_render hne indent least fun row hrow cell hcell => ?_]
    · refine List.map_congr_left fun row hrow => ?_
      rw [line, unstyled_of_plain fun cell hcell => (plain row hrow cell hcell).1]
    · obtain ⟨hstyled, hbreak⟩ := plain row hrow cell hcell
      rwa [hstyled]

end Layout

section Colours

variable {rows : List (List Cell)}

/-- Styles do not matter to the widths. -/
theorem columnWidths_unstyled (least : Nat) (rows : List (List Cell)) :
    columnWidths least (rows.map (·.map Cell.unstyled)) = columnWidths least rows := by
  have hcolumn (column : Nat) :
      columnWidth least (rows.map (·.map Cell.unstyled)) column = columnWidth least rows column := by
    have hcells : (rows.map (·.map Cell.unstyled)).filterMap (·[column]?) =
        (rows.filterMap (·[column]?)).map Cell.unstyled := by
      rw [List.filterMap_map, List.map_filterMap]
      exact List.filterMap_congr fun row _ => List.getElem?_map
    rw [columnWidth, hcells, List.foldl_map]
    rfl
  cases rows with
  | nil => rfl
  | cons first rest =>
    rw [List.map_cons, columnWidths, columnWidths, List.length_map]
    exact List.map_congr_left fun column _ => hcolumn column

/-- Spaces are no escape characters. -/
theorem isUnescaped_replicate (count : Nat) :
    Text.IsUnescaped (String.ofList (List.replicate count ' ')) := by
  rw [Text.IsUnescaped, String.toList_ofList]
  exact fun h => absurd (List.eq_of_mem_replicate h) (by decide)

/-- A cell that shows its plain text shows it padded as well. -/
theorem shows_pad {cell : Cell} (shown : Text.Shows cell.styled cell.plain) (width : Nat) :
    Text.Shows (cell.pad width) (cell.unstyled.pad width) := by
  exact shown.append (.of_unescaped (isUnescaped_replicate _))

/-- A row of such cells shows the row of their plain texts. -/
theorem shows_renderRow {row : List Cell} (indent : Nat) (widths : List Nat)
    (shown : ∀ cell ∈ row, Text.Shows cell.styled cell.plain) :
    Text.Shows (renderRow indent widths row) (renderRow indent widths (row.map Cell.unstyled)) := by
  rw [renderRow, renderRow, List.zipWith_map_left, ← List.map_uncurry_zip_eq_zipWith,
    ← List.map_uncurry_zip_eq_zipWith]
  refine (Text.Shows.of_unescaped (isUnescaped_replicate indent)).append
    (.intercalate (by decide) fun pair hpair => ?_)
  exact shows_pad (shown pair.1 (List.of_mem_zip hpair).1) pair.2

/-- A table whose cells show their plain texts shows the table of the plain texts. -/
theorem shows_render (indent least : Nat)
    (shown : ∀ row ∈ rows, ∀ cell ∈ row, Text.Shows cell.styled cell.plain) :
    Text.Shows (render rows indent least)
      (render (rows.map (·.map Cell.unstyled)) indent least) := by
  rw [render, render, renderLines, renderLines, columnWidths_unstyled, List.map_map]
  exact .intercalate (by decide) fun row hrow => shows_renderRow _ _ (shown row hrow)

end Colours

end Table

end Scaffold
