import Scaffold.Yaml.Spot

/-!
# Plain scalars

A plain scalar is a run of words. Spacing between words of a line is kept; a single line end
between words becomes a space, and of several the first is dropped.
-/

namespace Scaffold.Yaml

/-- What stands between two words of a scalar. -/
inductive Gap where
  /-- Spacing on one line, in reverse. -/
  | spacing (reversed : List Char)
  /-- Line ends: the first, and the others in reverse. -/
  | lines (first : Option Char) (reversed : List Char)
  deriving Repr, DecidableEq

namespace Gap

/-- No gap. -/
def empty : Gap := .spacing []

/-- Whether the gap reaches over a line end. -/
def isBroken : Gap → Bool
  | spacing _ => false
  | lines _ _ => true

/-- The gap with a spacing character more; behind a line end it counts nothing. -/
def addSpacing (char : Char) : Gap → Gap
  | spacing reversed => .spacing (char :: reversed)
  | lines first reversed => .lines first reversed

/-- The gap with a line end more; spacing before the first line end counts nothing. -/
def addLineEnd (char : Char) : Gap → Gap
  | spacing _ => .lines (some char) []
  | lines first reversed => .lines first (char :: reversed)

/-- The gap with a character more. -/
def add (char : Char) (gap : Gap) : Gap :=
  if isLineEnd char then gap.addLineEnd char else gap.addSpacing char

/-- The characters that the gap stands for. -/
def fold : Gap → List Char
  | spacing reversed => reversed.reverse
  | lines (some '\n') [] => [' ']
  | lines (some '\n') reversed => reversed.reverse
  | lines first reversed => first.toList ++ reversed.reverse

end Gap

/-- The text of a scalar and what follows it. -/
structure ScalarScan where
  /-- The text. -/
  text : List Char
  /-- Whether the scan went over a line end behind the text. -/
  crossedLine : Bool
  /-- What follows. -/
  rest : List Spot

/-- Where a plain scalar stands. -/
structure PlainSetting where
  /-- Whether it stands between brackets. -/
  inFlow : Bool
  /-- The least column of its further lines. -/
  least : Nat

/-- Whether the character is a bracket or comma, which ends a plain scalar between brackets. -/
def isFlowMark (char : Char) : Bool := [',', '[', ']', '\x7b', '\x7d'].contains char

/-- Whether a plain scalar ends before this character of a word. -/
def endsPlain (setting : PlainSetting) (char next : Char) : Bool :=
  (char == ':' && isWordStop next) || (setting.inFlow && isFlowMark char)

/-- Whether a word between brackets holds a colon where it may not. -/
def misplacesColon (setting : PlainSetting) (char next : Char) : Bool :=
  setting.inFlow && char == ':' && (isFlowMark next || next == '?')

/-- The scan of a plain scalar that ends before the spots, with the text so far in reverse. -/
def ScalarScan.ended (reversed : List Char) (gap : Gap) (spots : List Spot) : Option ScalarScan :=
  some ⟨reversed.reverse, gap.isBroken, spots⟩

/-- Read a plain scalar. `reversed` is the text so far, `gap` what was read since the last word,
and `inWord` tells whether the last character belongs to a word. -/
def scanPlainFrom (setting : PlainSetting) (reversed : List Char) (gap : Gap) (inWord : Bool) :
    List Spot → Option ScalarScan
  | [] => ScalarScan.ended reversed gap []
  | spot :: rest =>
    if isSpacing spot.char || isLineEnd spot.char then
      if gap.isBroken && spot.column < setting.least && spot.char == '\t' then none
      else scanPlainFrom setting reversed (gap.add spot.char) false rest
    else if spot.char == endMark then ScalarScan.ended reversed gap (spot :: rest)
    else if !inWord && ((!setting.inFlow && gap.isBroken && spot.column < setting.least) ||
        startsBoundary (spot :: rest) || spot.char == '#') then
      ScalarScan.ended reversed gap (spot :: rest)
    else if misplacesColon setting spot.char (peek rest) then none
    else if endsPlain setting spot.char (peek rest) then
      ScalarScan.ended reversed gap (spot :: rest)
    else scanPlainFrom setting (spot.char :: (gap.fold.reverse ++ reversed)) .empty true rest

/-- Read a plain scalar from its first character on. -/
def scanPlain (setting : PlainSetting) (spots : List Spot) : Option ScalarScan :=
  scanPlainFrom setting [] .empty false spots

end Scaffold.Yaml
