import Scaffold.Yaml.Token.Plain

/-!
# Block scalars

A block scalar is a run of indented lines behind a header. The header may tell the indentation and
what happens to the line ends behind the last line: they are dropped, one is kept, or all are.
-/

namespace Scaffold.Yaml

/-- What happens to the line ends behind the last line of a block. -/
inductive Chomping where
  /-- One is kept. -/
  | clip
  /-- None is kept. -/
  | strip
  /-- All are kept. -/
  | keep
  deriving Repr, DecidableEq

/-- What the header of a block tells. -/
structure BlockHeader where
  /-- What happens to the last line ends. -/
  chomping : Chomping
  /-- How many columns the lines are indented beyond what is around them. -/
  increment? : Option Nat
  deriving Repr, DecidableEq

/-- The chomping that a sign stands for. -/
def chomping? (char : Char) : Option Chomping :=
  if char == '+' then some .keep else if char == '-' then some .strip else none

/-- Read an indentation, which is a digit other than zero; none if the digit is zero. -/
def scanIncrement (spots : List Spot) : Option (Option Nat × List Spot) :=
  let char := peek spots
  if char == '0' then none
  else if char.isDigit then some (some (char.toNat - '0'.toNat), spots.tail)
  else some (none, spots)

/-- Read a chomping, if there is one. -/
def scanChomping (spots : List Spot) : Chomping × List Spot :=
  match chomping? (peek spots) with
  | some chomping => (chomping, spots.tail)
  | none => (.clip, spots)

/-- Read a header up to the end of its line. -/
def scanBlockHeader (spots : List Spot) : Option (BlockHeader × List Spot) := do
  if (chomping? (peek spots)).isSome then
    let (chomping, spots) := scanChomping spots
    let (increment?, spots) ← scanIncrement spots
    return (⟨chomping, increment?⟩, ← skipLineRest? spots)
  else
    let (increment?, spots) ← scanIncrement spots
    let (chomping, spots) := if increment?.isSome then scanChomping spots else (.clip, spots)
    return (⟨chomping, increment?⟩, ← skipLineRest? spots)

/-- What was read of a block. -/
structure BlockText where
  /-- The text, in reverse. -/
  reversed : List Char
  /-- The end of the last line. -/
  lineEnd? : Option Char
  /-- The ends of empty lines behind it, in reverse. -/
  emptyEnds : List Char
  /-- Whether the last line starts with spacing. -/
  indented : Bool

namespace BlockText

/-- Nothing. -/
def empty : BlockText := ⟨[], none, [], false⟩

/-- The text so far, the line ends before a new line put in. A line end before a line that starts
at the margin, behind one that does, is folded into a space unless empty lines follow it. -/
def openLine (folds startsIndented : Bool) (text : BlockText) : BlockText :=
  let joint :=
    if folds && text.lineEnd? == some '\n' && !text.indented && !startsIndented then
      if text.emptyEnds.isEmpty then [' '] else []
    else text.lineEnd?.toList
  ⟨text.emptyEnds ++ joint ++ text.reversed, none, [], startsIndented⟩

/-- The text with a character more. -/
def add (char : Char) (text : BlockText) : BlockText :=
  { text with reversed := char :: text.reversed }

/-- The text with its last line ends as the chomping says. -/
def close (chomping : Chomping) (text : BlockText) : List Char :=
  let ends :=
    match chomping with
    | .strip => []
    | .clip => text.lineEnd?.toList
    | .keep => text.emptyEnds ++ text.lineEnd?.toList
  (ends ++ text.reversed).reverse

end BlockText

/-- How a block is read. -/
structure BlockSetting where
  /-- Whether lines are joined. -/
  folds : Bool
  /-- What happens to the last line ends. -/
  chomping : Chomping
  /-- The least indentation. -/
  least : Nat

/-- Where the scan of a block stands. -/
inductive BlockPlace where
  /-- In front of a line; with the indentation, if it is known, otherwise the widest one seen. -/
  | margin (indent? : Option Nat) (widest : Nat)
  /-- Within a line; with the indentation. -/
  | line (indent : Nat)

/-- Read a block from a place on. -/
def scanBlockFrom (setting : BlockSetting) (text : BlockText) :
    BlockPlace → List Spot → Option ScalarScan
  | _, [] => some ⟨text.close setting.chomping, false, []⟩
  | .margin indent? widest, spot :: rest =>
    let inMargin := indent?.all (spot.column < ·)
    let widest := max widest spot.column
    if inMargin && spot.char == ' ' then scanBlockFrom setting text (.margin indent? widest) rest
    else if inMargin && spot.char == '\t' then none
    else if isLineEnd spot.char then
      scanBlockFrom setting { text with emptyEnds := spot.char :: text.emptyEnds }
        (.margin indent? widest) rest
    else
      let indent := indent?.getD (max widest setting.least)
      if spot.column == indent && spot.char != endMark then
        let opened := text.openLine setting.folds (isSpacing spot.char)
        scanBlockFrom setting (opened.add spot.char) (.line indent) rest
      else some ⟨text.close setting.chomping, false, spot :: rest⟩
  | .line indent, spot :: rest =>
    if isLineEnd spot.char then
      scanBlockFrom setting { text with lineEnd? := some spot.char } (.margin (some indent) 0) rest
    else if spot.char == endMark then some ⟨text.close setting.chomping, false, spot :: rest⟩
    else scanBlockFrom setting (text.add spot.char) (.line indent) rest

/-- Read a block scalar behind its indicator; `outer` is the indentation of what is around it. -/
def scanBlock (folds : Bool) (outer : Option Nat) (spots : List Spot) : Option ScalarScan := do
  let (header, spots) ← scanBlockHeader spots
  let setting := ⟨folds, header.chomping, max 1 ((outer.map (· + 1)).getD 0)⟩
  let indent? := header.increment?.map (outer.getD 0 + ·)
  scanBlockFrom setting .empty (.margin indent? 0) spots

end Scaffold.Yaml
