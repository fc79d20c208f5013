/-!
# Tables

Rows of cells in aligned columns. A cell has a plain text, whose characters are its width, and
the text shown, which may hold escape sequences of no width.
-/

namespace Scaffold

/-- A cell of a table. -/
structure Cell where
  /-- The text by which the width is measured. -/
  plain : String
  /-- The text shown. -/
  styled : String
  deriving Repr, DecidableEq

namespace Cell

/-- A cell without style. -/
def ofText (text : String) : Cell := ⟨text, text⟩

/-- The number of characters of the plain text. -/
def width (cell : Cell) : Nat := cell.plain.length

/-- The text shown, padded to a width. -/
def pad (cell : Cell) (width : Nat) : String :=
  cell.styled ++ String.ofList (List.replicate (width - cell.width) ' ')

end Cell

namespace Table

/-- The width of the widest cell of a column, and at least the given one. -/
def columnWidth (least : Nat) (rows : List (List Cell)) (column : Nat) : Nat :=
  (rows.filterMap (·[column]?)).foldl (fun widest cell => max widest cell.width) least

/-- The widths of the columns; the first row tells how many there are. -/
def columnWidths (least : Nat) (rows : List (List Cell)) : List Nat :=
  match rows with
  | [] => []
  | first :: _ => (List.range first.length).map (columnWidth least rows)

/-- A row as a line: its cells padded and with one space between them. -/
def renderRow (indent : Nat) (widths : List Nat) (row : List Cell) : String :=
  String.ofList (List.replicate indent ' ') ++
    " ".intercalate (List.zipWith Cell.pad row widths)

/-- The lines of a table. -/
def renderLines (rows : List (List Cell)) (indent least : Nat) : List String :=
  rows.map (renderRow indent (columnWidths least rows))

/-- The text of a table. -/
def render (rows : List (List Cell)) (indent least : Nat) : String :=
  "\n".intercalate (renderLines rows indent least)

end Table

end Scaffold
