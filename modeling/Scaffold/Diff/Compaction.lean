import Scaffold.Diff.Script

/-!
# Compaction of scripts

A run of added lines can be moved over kept lines that repeat it without changing what the script
does. Each removed run and then each added run is moved up as far as possible and down again,
joining the runs of its kind that it meets. At the end neighbouring kept runs are joined, and
between two kept runs everything removed comes before everything added.
-/

namespace Scaffold.Diff

/-- A script around the run at hand. -/
structure Focus where
  /-- The runs before it, nearest first. -/
  before : List LineRun
  /-- The run at hand. -/
  run : LineRun
  /-- The runs behind it. -/
  behind : List LineRun
  deriving Repr

/-- A measure of runs that drops whenever a run or one of its lines is taken away. -/
def weight : List LineRun → Nat
  | [] => 0
  | run :: rest => run.lines.length + 1 + weight rest

/-- The runs with kept lines put before them, joined to a kept run that comes first. -/
def putKeptFirst (lines : List String) : List LineRun → List LineRun
  | ⟨.kept, others⟩ :: rest => ⟨.kept, lines ++ others⟩ :: rest
  | runs => ⟨.kept, lines⟩ :: runs

/-- The runs, nearest first, with kept lines put behind the nearest, joined to it if it is kept. -/
def putKeptLast (lines : List String) : List LineRun → List LineRun
  | ⟨.kept, others⟩ :: rest => ⟨.kept, others ++ lines⟩ :: rest
  | runs => ⟨.kept, lines⟩ :: runs

/-- How many lines an added run can move up over kept lines; other runs cannot move over any. -/
def upReach (run : LineRun) (kept : List String) : Nat :=
  if run.tag = .added then commonTail kept run.lines else 0

/-- How many lines an added run can move down over kept lines; other runs cannot move over any. -/
def downReach (run : LineRun) (kept : List String) : Nat :=
  if run.tag = .added then commonHead kept run.lines else 0

/-- Move the run at hand up as far as possible, with at most `fuel` steps. -/
def shiftUp : Nat → Focus → Focus
  | 0, focus => focus
  | fuel + 1, focus =>
    match focus.before with
    | [] => focus
    | previous :: before =>
      if previous.tag = .kept then
        let reach := upReach focus.run previous.lines
        let stay := previous.lines.take (previous.lines.length - reach)
        if 0 < reach then
          let moved := previous.lines.drop (previous.lines.length - reach)
          let run : LineRun :=
            ⟨focus.run.tag, moved ++ focus.run.lines.take (focus.run.lines.length - reach)⟩
          shiftUp fuel ⟨runOf .kept stay ++ before, run, putKeptFirst moved focus.behind⟩
        else if previous.lines.isEmpty then shiftUp fuel ⟨before, focus.run, focus.behind⟩
        else focus
      else if previous.tag = focus.run.tag then
        shiftUp fuel ⟨before, ⟨focus.run.tag, previous.lines ++ focus.run.lines⟩, focus.behind⟩
      else shiftUp fuel ⟨before, focus.run, previous :: focus.behind⟩

/-- Move the run at hand down as far as possible, with at most `fuel` steps. -/
def shiftDown : Nat → Focus → Focus
  | 0, focus => focus
  | fuel + 1, focus =>
    match focus.behind with
    | [] => focus
    | next :: behind =>
      if next.tag = .kept then
        let reach := downReach focus.run next.lines
        let stay := next.lines.drop reach
        if 0 < reach then
          let moved := next.lines.take reach
          let run : LineRun := ⟨focus.run.tag, focus.run.lines.drop reach ++ moved⟩
          shiftDown fuel ⟨putKeptLast moved focus.before, run, runOf .kept stay ++ behind⟩
        else if next.lines.isEmpty then shiftDown fuel ⟨focus.before, focus.run, behind⟩
        else focus
      else if next.tag = focus.run.tag then
        shiftDown fuel ⟨focus.before, ⟨focus.run.tag, focus.run.lines ++ next.lines⟩, behind⟩
      else shiftDown fuel ⟨next :: focus.before, focus.run, behind⟩

/-- Move every run of a kind, going through the runs once with at most `fuel` steps. The runs
already passed stand nearest first. -/
def shiftEach (tag : RunTag) : Nat → List LineRun → List LineRun → List LineRun
  | 0, before, behind => before.reverse ++ behind
  | _ + 1, before, [] => before.reverse
  | fuel + 1, before, run :: behind =>
    if run.tag = tag then
      let up := shiftUp (weight before + 1) ⟨before, run, behind⟩
      let down := shiftDown (weight up.behind + 1) up
      shiftEach tag fuel (down.run :: down.before) down.behind
    else shiftEach tag fuel (run :: before) behind

/-- Join neighbouring runs, with the lines removed and added since the last kept run. -/
def regroupFrom (kept removed added : List String) : List LineRun → List LineRun
  | [] => runOf .kept kept ++ runOf .removed removed ++ runOf .added added
  | ⟨.removed, lines⟩ :: rest => regroupFrom kept (removed ++ lines) added rest
  | ⟨.added, lines⟩ :: rest => regroupFrom kept removed (added ++ lines) rest
  | ⟨.kept, lines⟩ :: rest =>
    if removed.isEmpty && added.isEmpty then regroupFrom (kept ++ lines) [] [] rest
    else
      runOf .kept kept ++ runOf .removed removed ++ runOf .added added ++
        regroupFrom lines [] [] rest

/-- Join neighbouring runs, removed lines before added ones. -/
def regroup (script : List LineRun) : List LineRun := regroupFrom [] [] [] script

/-- The compact form of a script. -/
def compact (script : List LineRun) : List LineRun :=
  let fuel := (weight script + 1) * (weight script + 1)
  regroup (shiftEach .added fuel [] (shiftEach .removed fuel [] script))

end Scaffold.Diff
