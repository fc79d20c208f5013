import Scaffold.Diff.Shortest
import Scaffold.Diff.Compaction

/-!
# The two texts of a script

A script is seen from two sides: without the added lines it is the old text, without the removed
lines it is the new text. A shortest script shows the lines that it was made for, and compaction
leaves both sides as they are.
-/

namespace Scaffold.Diff

/-- The lines of a script without those of one kind of run. -/
def linesWithout (side : RunTag) (script : List LineRun) : List String :=
  script.flatMap fun run => if run.tag = side then [] else run.lines

theorem oldLines_eq (script : List LineRun) : oldLines script = linesWithout .added script := rfl

theorem newLines_eq (script : List LineRun) : newLines script = linesWithout .removed script := rfl

section Sides

variable {side : RunTag}

@[simp] theorem linesWithout_nil : linesWithout side [] = [] := rfl

@[simp] theorem linesWithout_cons (run : LineRun) (script : List LineRun) :
    linesWithout side (run :: script) =
      (if run.tag = side then [] else run.lines) ++ linesWithout side script := by
  simp [linesWithout]

@[simp] theorem linesWithout_append (script other : List LineRun) :
    linesWithout side (script ++ other) = linesWithout side script ++ linesWithout side other := by
  simp [linesWithout]

@[simp] theorem linesWithout_runOf (tag : RunTag) (lines : List String) :
    linesWithout side (runOf tag lines) = if tag = side then [] else lines := by
  cases lines <;> simp [runOf]

@[simp] theorem reverse_runOf (tag : RunTag) (lines : List String) :
    (runOf tag lines).reverse = runOf tag lines := by
  cases lines <;> simp [runOf]

/-- Kept lines put in front are in front on either side. -/
theorem linesWithout_putKeptFirst (hside : side ≠ .kept) (lines : List String)
    (script : List LineRun) :
    linesWithout side (putKeptFirst lines script) = lines ++ linesWithout side script := by
  unfold putKeptFirst
  split <;> simp [hside.symm]

/-- Kept lines put behind are behind on either side. -/
theorem linesWithout_putKeptLast (hside : side ≠ .kept) (lines : List String)
    (before : List LineRun) :
    linesWithout side (putKeptLast lines before).reverse =
      linesWithout side before.reverse ++ lines := by
  unfold putKeptLast
  split <;> simp [hside.symm]

end Sides

/-- The common head is the same in both. -/
theorem take_commonHead (left right : List String) :
    left.take (commonHead left right) = right.take (commonHead left right) := by
  fun_induction commonHead left right with
  | case1 left lefts right rights heq ih =>
    rw [beq_iff_eq.mp heq, List.take_succ_cons, List.take_succ_cons, ih]
  | case2 => rfl
  | case3 => simp

/-- A text has all its lines in common with itself. -/
theorem commonHead_self (lines : List String) : commonHead lines lines = lines.length := by
  induction lines with
  | nil => rfl
  | cons line rest ih => rw [commonHead, if_pos (beq_self_eq_true line), ih, List.length_cons]

/-- The lines at the end that two lists have in common. -/
theorem drop_commonTail (left right : List String) :
    left.drop (left.length - commonTail left right) =
      right.drop (right.length - commonTail left right) := by
  have h := take_commonHead left.reverse right.reverse
  rw [List.take_reverse, List.take_reverse] at h
  exact List.reverse_inj.mp h

/-- The kept lines that an added run moves over are repeated at its end. -/
theorem drop_upReach (run : LineRun) (kept : List String) :
    kept.drop (kept.length - upReach run kept) =
      run.lines.drop (run.lines.length - upReach run kept) := by
  unfold upReach
  split
  · exact drop_commonTail kept run.lines
  · simp

/-- The kept lines that an added run moves over are repeated at its start. -/
theorem take_downReach (run : LineRun) (kept : List String) :
    kept.take (downReach run kept) = run.lines.take (downReach run kept) := by
  unfold downReach
  split
  · exact take_commonHead kept run.lines
  · simp

/-- The script that replaces everything has both texts. -/
theorem linesWithout_replaceScript (old new : List String) :
    linesWithout .added (replaceScript old new) = old ∧
      linesWithout .removed (replaceScript old new) = new := by
  simp [replaceScript]

/-- A shortest script has both texts, wherever the middle snakes lie. -/
theorem linesWithout_shortestWithin (fuel : Nat) (old new : List String) :
    linesWithout .added (shortestWithin fuel old new) = old ∧
      linesWithout .removed (shortestWithin fuel old new) = new := by
  fun_induction shortestWithin fuel old new with
  | case1 old new => exact linesWithout_replaceScript old new
  | case2 fuel old new head oldRest newRest tail oldCore newCore core ihFront ihBack =>
    have hcore : linesWithout .added core = oldCore ∧ linesWithout .removed core = newCore := by
      subst core
      split
      · exact linesWithout_replaceScript oldCore newCore
      split
      case h_2 => exact linesWithout_replaceScript oldCore newCore
      case h_1 cut _ =>
        split
        · obtain ⟨hfrontOld, hfrontNew⟩ := ihFront cut
          obtain ⟨hbackOld, hbackNew⟩ := ihBack cut
          constructor
          · rw [linesWithout_append, hfrontOld, hbackOld, List.take_append_drop]
          · rw [linesWithout_append, hfrontNew, hbackNew, List.take_append_drop]
        · exact linesWithout_replaceScript oldCore newCore
    have hhead : old.take head = new.take head := take_commonHead old new
    have htail : oldRest.drop (oldRest.length - tail) = newRest.drop (newRest.length - tail) :=
      drop_commonTail oldRest newRest
    constructor
    · simp only [linesWithout_append, linesWithout_runOf, reduceCtorEq, if_false, hcore.1]
      rw [List.append_assoc, List.take_append_drop, List.take_append_drop]
    · simp only [linesWithout_append, linesWithout_runOf, reduceCtorEq, if_false, hcore.2]
      rw [htail, hhead, List.append_assoc, List.take_append_drop, List.take_append_drop]

/-- The whole script around the run at hand. -/
def Focus.script (focus : Focus) : List LineRun :=
  focus.before.reverse ++ focus.run :: focus.behind

/-- Two scripts around runs of one kind with the same lines on one side. -/
structure Focus.Agrees (side : RunTag) (focus other : Focus) : Prop where
  /-- The runs at hand are of one kind. -/
  tag : focus.run.tag = other.run.tag
  /-- The scripts have the same lines. -/
  lines : linesWithout side focus.script = linesWithout side other.script

/-- What agrees with the second agrees with the first. -/
theorem Focus.Agrees.trans {side : RunTag} {first second third : Focus}
    (hfirst : first.Agrees side second) (hsecond : second.Agrees side third) :
    first.Agrees side third :=
  ⟨hfirst.tag.trans hsecond.tag, hfirst.lines.trans hsecond.lines⟩

section Compaction

variable {side : RunTag} (hside : side ≠ .kept)
include hside

/-- Neighbouring runs of removed and of added lines can change places. -/
theorem linesWithout_swap {first second : LineRun} (hfirst : first.tag ≠ .kept)
    (hsecond : second.tag ≠ .kept) (hne : first.tag ≠ second.tag) :
    linesWithout side [first, second] = linesWithout side [second, first] := by
  obtain ⟨tag, lines⟩ := first
  obtain ⟨other, others⟩ := second
  cases side <;> cases tag <;> cases other <;> simp_all

/-- Moving a run up changes neither text. -/
theorem shiftUp_agrees (fuel : Nat) (focus : Focus) (hrun : focus.run.tag ≠ .kept) :
    (shiftUp fuel focus).Agrees side focus := by
  fun_induction shiftUp fuel focus with
  | case1 focus => exact ⟨rfl, rfl⟩
  | case2 fuel focus => exact ⟨rfl, rfl⟩
  | case3 fuel focus previous before hbefore hkept reach stay hreach moved run ih =>
    refine (ih hrun).trans ⟨rfl, ?_⟩
    -- The kept lines left behind repeat those that the run gives up at its end.
    have hprevious : previous.lines = stay ++ moved := (List.take_append_drop _ _).symm
    obtain ⟨others, hothers, hlines⟩ :
        ∃ others, run.lines = moved ++ others ∧ focus.run.lines = others ++ moved := by
      have hmoved : moved = focus.run.lines.drop (focus.run.lines.length - reach) :=
        drop_upReach focus.run previous.lines
      refine ⟨_, rfl, ?_⟩
      rw [hmoved, List.take_append_drop]
    have htag : run.tag = focus.run.tag := rfl
    rw [Focus.script, Focus.script, hbefore]
    by_cases hout : focus.run.tag = side <;>
      simp [linesWithout_putKeptFirst hside, hkept, hside.symm, htag, hout, hothers, hlines,
        hprevious]
  | case4 fuel focus previous before hbefore hkept reach hreach hempty ih =>
    refine (ih hrun).trans ⟨rfl, ?_⟩
    rw [Focus.script, Focus.script, hbefore]
    simp [List.isEmpty_iff.mp hempty]
  | case5 => exact ⟨rfl, rfl⟩
  | case6 fuel focus previous before hbefore hkept htag ih =>
    refine (ih hrun).trans ⟨rfl, ?_⟩
    rw [Focus.script, Focus.script, hbefore]
    by_cases hout : focus.run.tag = side <;> simp [htag, hout]
  | case7 fuel focus previous before hbefore hkept htag ih =>
    -- One of the two runs is removed and the other one added.
    refine (ih hrun).trans ⟨rfl, ?_⟩
    have hswap := linesWithout_swap hside hrun hkept (Ne.symm htag)
    rw [Focus.script, Focus.script, hbefore]
    simp only [linesWithout_cons, linesWithout_nil, List.append_nil] at hswap
    simp [← List.append_assoc, hswap]

/-- Moving a run down changes neither text. -/
theorem shiftDown_agrees (fuel : Nat) (focus : Focus) (hrun : focus.run.tag ≠ .kept) :
    (shiftDown fuel focus).Agrees side focus := by
  fun_induction shiftDown fuel focus with
  | case1 focus => exact ⟨rfl, rfl⟩
  | case2 fuel focus => exact ⟨rfl, rfl⟩
  | case3 fuel focus next behind hbehind hkept reach stay hreach moved run ih =>
    refine (ih hrun).trans ⟨rfl, ?_⟩
    have hnext : next.lines = moved ++ stay := (List.take_append_drop _ _).symm
    obtain ⟨others, hothers, hlines⟩ :
        ∃ others, run.lines = others ++ moved ∧ focus.run.lines = moved ++ others := by
      have hmoved : moved = focus.run.lines.take reach := take_downReach focus.run next.lines
      refine ⟨_, rfl, ?_⟩
      rw [hmoved, List.take_append_drop]
    have htag : run.tag = focus.run.tag := rfl
    rw [Focus.script, Focus.script, hbehind]
    by_cases hout : focus.run.tag = side <;>
      simp [linesWithout_putKeptLast hside, hkept, hside.symm, htag, hout, hothers, hlines, hnext]
  | case4 fuel focus next behind hbehind hkept reach hreach hempty ih =>
    refine (ih hrun).trans ⟨rfl, ?_⟩
    rw [Focus.script, Focus.script, hbehind]
    simp [List.isEmpty_iff.mp hempty]
  | case5 => exact ⟨rfl, rfl⟩
  | case6 fuel focus next behind hbehind hkept htag ih =>
    refine (ih hrun).trans ⟨rfl, ?_⟩
    rw [Focus.script, Focus.script, hbehind]
    by_cases hout : focus.run.tag = side <;> simp [htag, hout]
  | case7 fuel focus next behind hbehind hkept htag ih =>
    refine (ih hrun).trans ⟨rfl, ?_⟩
    have hswap := linesWithout_swap hside hrun hkept (Ne.symm htag)
    rw [Focus.script, Focus.script, hbehind]
    simp only [linesWithout_cons, linesWithout_nil, List.append_nil] at hswap
    simp [← List.append_assoc, hswap]

/-- Moving every run of a kind changes neither text. -/
theorem linesWithout_shiftEach {tag : RunTag} (htag : tag ≠ .kept) (fuel : Nat)
    (before behind : List LineRun) :
    linesWithout side (shiftEach tag fuel before behind) =
      linesWithout side (before.reverse ++ behind) := by
  fun_induction shiftEach tag fuel before behind with
  | case1 before behind => rfl
  | case2 fuel before => rw [List.append_nil]
  | case3 fuel before run behind hrun up down ih =>
    have hup : up.Agrees side ⟨before, run, behind⟩ :=
      shiftUp_agrees hside _ _ (by rw [hrun]; exact htag)
    have hdown : down.Agrees side up := by
      refine shiftDown_agrees hside _ _ ?_
      rw [hup.tag, hrun]
      exact htag
    have hlines := (hdown.trans hup).lines
    rw [Focus.script, Focus.script] at hlines
    rw [ih, List.reverse_cons, List.append_assoc, List.singleton_append, hlines]
  | case4 fuel before run behind hrun ih =>
    rw [ih, List.reverse_cons, List.append_assoc, List.singleton_append]

/-- Joining neighbouring runs changes neither text. -/
theorem linesWithout_regroupFrom (kept removed added : List String) (script : List LineRun) :
    linesWithout side (regroupFrom kept removed added script) =
      linesWithout side (runOf .kept kept ++ runOf .removed removed ++ runOf .added added ++
        script) := by
  fun_induction regroupFrom kept removed added script with
  | case1 kept removed added => rw [List.append_nil]
  | case2 kept removed added lines rest ih =>
    rw [ih]
    cases side <;> simp_all
  | case3 kept removed added lines rest ih =>
    rw [ih]
    cases side <;> simp_all
  | case4 kept removed added lines rest hnone ih =>
    rw [Bool.and_eq_true, List.isEmpty_iff, List.isEmpty_iff] at hnone
    rw [ih, hnone.1, hnone.2]
    simp [hside.symm]
  | case5 kept removed added lines rest hsome ih =>
    rw [linesWithout_append, ih]
    simp [hside.symm]

/-- Compaction changes neither text. -/
theorem linesWithout_compact (script : List LineRun) :
    linesWithout side (compact script) = linesWithout side script := by
  have hremoved : RunTag.removed ≠ .kept := nofun
  have hadded : RunTag.added ≠ .kept := nofun
  rw [compact, regroup, linesWithout_regroupFrom hside, linesWithout_append,
    linesWithout_shiftEach hside hadded, List.reverse_nil, List.nil_append,
    linesWithout_shiftEach hside hremoved]
  simp

end Compaction

variable (old new : List String)

/-- The old lines of a compacted shortest script are the lines it was made for. -/
theorem oldLines_compact_shortest : oldLines (compact (shortest old new)) = old := by
  rw [oldLines_eq, linesWithout_compact (by decide), shortest]
  exact (linesWithout_shortestWithin _ old new).1

/-- The new lines of a compacted shortest script are the lines it was made for. -/
theorem newLines_compact_shortest : newLines (compact (shortest old new)) = new := by
  rw [newLines_eq, linesWithout_compact (by decide), shortest]
  exact (linesWithout_shortestWithin _ old new).2

/-- A script without runs of a kind stays as it is when these are moved. -/
theorem shiftEach_of_forall_ne {tag : RunTag} (fuel : Nat) {before behind : List LineRun}
    (hnone : ∀ run ∈ behind, run.tag ≠ tag) :
    shiftEach tag fuel before behind = before.reverse ++ behind := by
  fun_induction shiftEach tag fuel before behind with
  | case1 before behind => rfl
  | case2 fuel before => rw [List.append_nil]
  | case3 fuel before run behind hrun => exact absurd hrun (hnone run List.mem_cons_self)
  | case4 fuel before run behind hrun ih =>
    rw [ih fun other hother => hnone other (List.mem_cons_of_mem run hother), List.reverse_cons,
      List.append_assoc, List.singleton_append]

/-- A single kept run stays as it is. -/
theorem regroup_runOf_kept (lines : List String) :
    regroup (runOf .kept lines) = runOf .kept lines := by
  cases lines <;> simp [regroup, regroupFrom, runOf]

/-- Between equal lists everything is kept. -/
theorem compact_shortest_self (lines : List String) :
    compact (shortest lines lines) = runOf .kept lines := by
  have hshortest : shortest lines lines = runOf .kept lines := by
    rw [shortest, shortestWithin, commonHead_self]
    simp [commonTail, replaceScript, runOf]
  have hstays (tag : RunTag) (htag : tag ≠ .kept) (fuel : Nat) :
      shiftEach tag fuel [] (runOf .kept lines) = runOf .kept lines := by
    refine shiftEach_of_forall_ne fuel ?_
    cases lines <;> simp [runOf, htag.symm]
  rw [hshortest, compact, hstays .removed nofun, hstays .added nofun, regroup_runOf_kept]

end Scaffold.Diff
