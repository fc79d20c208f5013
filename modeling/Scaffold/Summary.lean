import Scaffold.Change.Cluster
import Scaffold.Host
import Scaffold.Table
import Scaffold.Text.Styled

/-!
# Summaries

The plan of a run, one row for each file: whether it is created or changed, and how many edits of
each kind it receives.
-/

namespace Scaffold

/-- What happens to a file. -/
inductive FileAction where
  | create
  | change
  deriving Repr, DecidableEq

/-- The word for what happens to a file. -/
def FileAction.label : FileAction → String
  | .create => "create"
  | .change => "change"

/-- The colour of what happens to a file. -/
def FileAction.colour : FileAction → Text.Colour
  | .create => .green
  | .change => .blue

/-- A kind of edit and how often it occurs. -/
structure EditCount where
  /-- The word for the kind. -/
  label : String
  /-- How often it occurs. -/
  count : Nat
  deriving Repr, DecidableEq

namespace EditCount

/-- Count one more edit of a kind; kinds keep the order of their first occurrence. -/
def add (label : String) : List EditCount → List EditCount
  | [] => [⟨label, 1⟩]
  | first :: rest =>
    if first.label == label then ⟨first.label, first.count + 1⟩ :: rest
    else first :: add label rest

/-- The edits among leaves by kind; placeholders do not count. -/
def ofLeaves (leaves : List Leaf) : List EditCount :=
  (leaves.filterMap (·.edit?)).foldl (fun counts edit => add edit.label counts) []

/-- The edits of changes by kind, bundles flattened. -/
def ofChanges (changes : List Change) : List EditCount := ofLeaves (Change.leavesOfAll changes)

/-- The colour of a kind of edit. -/
def colour? (count : EditCount) : Option Text.Colour :=
  if count.label == "insert" then some .green
  else if count.label == "remove" then some .red
  else if count.label == "replace" then some .blue
  else none

/-- A number and the word for the kind in singular or plural. -/
def plain (count : EditCount) : String :=
  toString count.count ++ " " ++ count.label ++ (if count.count == 1 then "" else "s")

/-- The text of a count. -/
def render [Text.Painter] (colours : Bool) (count : EditCount) : String :=
  match count.colour? with
  | some colour => Text.paintIf colours colour count.plain
  | none => count.plain

end EditCount

/-- The plan for one file. -/
structure SummaryRow where
  /-- What happens to it. -/
  action : FileAction
  /-- The file. -/
  path : Path
  /-- Its edits by kind. -/
  stats : List EditCount
  deriving Repr, DecidableEq

namespace SummaryRow

/-- The edits of a row in words. -/
def statsText [Text.Painter] (row : SummaryRow) (colours : Bool) : String :=
  ", ".intercalate (row.stats.map (·.render colours))

/-- The row as cells of a table. -/
def cells [Text.Painter] (colours : Bool) (row : SummaryRow) : List Cell :=
  [⟨row.action.label, Text.paintIf colours row.action.colour row.action.label⟩,
   ⟨row.path.text, Text.paintIf colours .cyan row.path.text⟩,
   ⟨"[ " ++ row.statsText false ++ " ]", "[ " ++ row.statsText colours ++ " ]"⟩]

end SummaryRow

/-- The plan of a run. -/
structure Summary where
  /-- One row for each file, in the order of the files. -/
  rows : List SummaryRow
  deriving Repr, DecidableEq, Inhabited

namespace Summary

/-- The plan for one file; it is created if there is nothing at its path yet. -/
def rowOf {ω : Type} [FileHost ω] (host : ω) (path : Path) (changes : List Change) : SummaryRow :=
  ⟨if FileHost.has path host then .change else .create, path, EditCount.ofChanges changes⟩

/-- The plan of a cluster on a host. -/
def ofCluster {ω : Type} [FileHost ω] (cluster : ChangeCluster) (host : ω) : Summary :=
  ⟨cluster.changesByFile.map fun entry => rowOf host entry.1 entry.2⟩

/-- The files in the order of the plan. -/
def files (summary : Summary) : List Path := summary.rows.map (·.path)

/-- Whether no file is touched. -/
def isEmpty (summary : Summary) : Bool := summary.rows.isEmpty

/-- The plan as a table. -/
def render [Text.Painter] (summary : Summary) (colours : Bool) : String :=
  Table.render (summary.rows.map (·.cells colours)) 5 20

end Summary

end Scaffold
