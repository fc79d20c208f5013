import Scaffold.Diff.Script
import Scaffold.Diff.MiddleSnake

/-!
# Shortest scripts

The script between two lists of lines by divide and conquer: equal lines at both ends are kept,
and what lies between them is cut at its middle snake.
-/

namespace Scaffold.Diff

/-- The script that removes all old lines and adds all new ones. -/
def replaceScript (old new : List String) : List LineRun := runOf .removed old ++ runOf .added new

/-- A cut is proper when neither side of it is the whole. -/
def isProperCut (old new : List String) (cut : Nat × Nat) : Bool :=
  decide (0 < cut.1 + cut.2) && decide (cut.1 + cut.2 < old.length + new.length)

/-- The shortest script between two lists of lines, at most `fuel` cuts deep. -/
def shortestWithin : Nat → List String → List String → List LineRun
  | 0, old, new => replaceScript old new
  | fuel + 1, old, new =>
    let head := commonHead old new
    let oldRest := old.drop head
    let newRest := new.drop head
    let tail := commonTail oldRest newRest
    let oldCore := oldRest.take (oldRest.length - tail)
    let newCore := newRest.take (newRest.length - tail)
    let core :=
      if oldCore.isEmpty || newCore.isEmpty then replaceScript oldCore newCore
      else
        match middleSnake? oldCore newCore with
        | some cut =>
          if isProperCut oldCore newCore cut then
            shortestWithin fuel (oldCore.take cut.1) (newCore.take cut.2) ++
              shortestWithin fuel (oldCore.drop cut.1) (newCore.drop cut.2)
          else replaceScript oldCore newCore
        | none => replaceScript oldCore newCore
    runOf .kept (old.take head) ++ core ++ runOf .kept (oldRest.drop (oldRest.length - tail))

/-- The shortest script between two lists of lines. -/
def shortest (old new : List String) : List LineRun :=
  shortestWithin (old.length + new.length + 1) old new

end Scaffold.Diff
