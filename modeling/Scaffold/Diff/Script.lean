/-!
# Edit scripts

A script turns a list of lines into another one. It is a list of runs; a run keeps, removes or
adds lines. The lines of the runs that are not added are the old text, those of the runs that are
not removed are the new text. Read line by line, a script is the full diff of the two texts.
-/

namespace Scaffold.Diff

/-- What a run does with its lines. -/
inductive RunTag where
  | kept
  | removed
  | added
  deriving Repr, DecidableEq

/-- Neighbouring lines with the same fate. -/
structure LineRun where
  /-- What happens to the lines. -/
  tag : RunTag
  /-- The lines. -/
  lines : List String
  deriving Repr, DecidableEq

/-- A line of a full diff. -/
structure ScriptLine where
  /-- What happens to the line. -/
  tag : RunTag
  /-- The line. -/
  text : String
  deriving Repr, DecidableEq

/-- The lines of a run. -/
def LineRun.scriptLines (run : LineRun) : List ScriptLine := run.lines.map (ScriptLine.mk run.tag)

/-- The full diff: the lines of a script one after the other. -/
def scriptLines (script : List LineRun) : List ScriptLine := script.flatMap LineRun.scriptLines

/-- The lines of the old text. -/
def oldLines (script : List LineRun) : List String :=
  script.flatMap fun run => if run.tag = .added then [] else run.lines

/-- The lines of the new text. -/
def newLines (script : List LineRun) : List String :=
  script.flatMap fun run => if run.tag = .removed then [] else run.lines

/-- A run as a script of its own; no lines need none. -/
def runOf (tag : RunTag) (lines : List String) : List LineRun :=
  if lines.isEmpty then [] else [⟨tag, lines⟩]

/-- The number of equal lines at the start of two lists. -/
def commonHead : List String → List String → Nat
  | left :: lefts, right :: rights => if left == right then commonHead lefts rights + 1 else 0
  | _, _ => 0

/-- The number of equal lines at the end of two lists. -/
def commonTail (left right : List String) : Nat := commonHead left.reverse right.reverse

end Scaffold.Diff
