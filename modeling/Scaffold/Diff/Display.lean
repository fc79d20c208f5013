import Scaffold.Path
import Scaffold.Text.Lines
import Scaffold.Text.Styled
import Scaffold.Diff.Shortest
import Scaffold.Diff.Compaction

/-!
# Displayed diffs

The difference between two contents of a file as it is shown: added and removed lines with the
unchanged lines around them. A differ gives the full diff line by line, and lines of one fate that
follow each other are gathered into a run. Of an unchanged run the three lines next to an edit are
shown, and the others are skipped when there are at least three of them. A line without terminator
is followed by a mark.
-/

namespace Scaffold

/-- One line of a displayed diff. -/
inductive DiffLine where
  /-- An unchanged line. -/
  | context (text : String)
  | added (text : String)
  | removed (text : String)
  /-- A number of unchanged lines that are not shown. -/
  | skipped (count : Nat)
  /-- The line before has no terminator. -/
  | noNewline
  deriving Repr, DecidableEq

/-- The number of unchanged lines shown on each side of an edit. -/
def contextLines : Nat := 3

/-- What compares two texts line by line: the full diff from the first to the second. -/
def LineDiffer : Type := String → String → List Diff.ScriptLine

namespace Diff

/-- The script between two texts, line by line. -/
def script (before after : String) : List LineRun :=
  compact (shortest (Text.terminatedLines before) (Text.terminatedLines after))

/-- The differ of this library: the lines of a compacted shortest script. -/
def lineChanges : LineDiffer := fun before after => scriptLines (script before after)

/-- The runs with one line more, which joins the last run if that one has its fate. -/
def addLine (runs : List LineRun) (line : ScriptLine) : List LineRun :=
  match runs.getLast? with
  | some run =>
    if run.tag = line.tag then runs.dropLast ++ [⟨run.tag, run.lines ++ [line.text]⟩]
    else runs ++ [⟨line.tag, [line.text]⟩]
  | none => runs ++ [⟨line.tag, [line.text]⟩]

/-- The runs of a full diff, gathered line by line. -/
def gather (lines : List ScriptLine) : List LineRun := lines.foldl addLine []

/-- A line with the mark behind it that it needs. -/
def showLine (wrap : String → DiffLine) (line : String) : List DiffLine :=
  if Text.isTerminated line then [wrap (Text.withoutFeed line)]
  else [wrap (Text.withoutFeed line), .noNewline]

/-- Lines shown one after the other. -/
def showLines (wrap : String → DiffLine) (lines : List String) : List DiffLine :=
  lines.flatMap (showLine wrap)

/-- An unchanged run, of which `atStart` lines at its start and `atEnd` lines at its end are next
to an edit. -/
def showKept (lines : List String) (atStart atEnd : Nat) : List DiffLine :=
  let hidden := lines.length - atStart - atEnd
  if lines.length < atStart + atEnd + 3 then showLines .context lines
  else
    showLines .context (lines.take atStart) ++
      .skipped hidden :: showLines .context (lines.drop (atStart + hidden))

/-- The runs as displayed; `isFirst` tells whether there is no run before them. -/
def showRuns (isFirst : Bool) : List LineRun → List DiffLine
  | [] => []
  | run :: rest =>
    let shown :=
      match run.tag with
      | .added => showLines .added run.lines
      | .removed => showLines .removed run.lines
      | .kept =>
        showKept run.lines (if isFirst then 0 else contextLines)
          (if rest.isEmpty then 0 else contextLines)
    shown ++ showRuns false rest

end Diff

/-- The text of a displayed line. -/
def DiffLine.render [Text.Painter] (colours : Bool) : DiffLine → String
  | .context text => " " ++ text
  | .added text => Text.paintIf colours .green ("+" ++ text)
  | .removed text => Text.paintIf colours .red ("-" ++ text)
  | .skipped count =>
    Text.paintIf colours .brightBlack (" ... skipped " ++ toString count ++ " lines ...")
  | .noNewline => Text.paintIf colours .brightBlack "\\ No newline at end of file"

/-- The content of a file before and after its changes. -/
structure FileDiff where
  /-- The file. -/
  path : Path
  /-- The content before. -/
  before : String
  /-- The content after. -/
  after : String
  deriving Repr, DecidableEq

namespace FileDiff

/-- Whether nothing changed. -/
def isEmpty (diff : FileDiff) : Bool := diff.before == diff.after

/-- The lines displayed, of what the differ finds. -/
def lines (diff : FileDiff) (differ : LineDiffer := Diff.lineChanges) : List DiffLine :=
  Diff.showRuns true (Diff.gather (differ diff.before diff.after))

/-- The text displayed. -/
def render [Text.Painter] (diff : FileDiff) (colours : Bool)
    (differ : LineDiffer := Diff.lineChanges) : String :=
  "\n".intercalate ((diff.lines differ).map (·.render colours))

end FileDiff

end Scaffold
