import Scaffold.Disk

/-!
# Patterns

Patterns of a shell fit texts: a question mark fits any character, an asterisk any text, and
brackets fit one character of a set. A pattern that stands for paths is replaced by the paths that
fit it.
-/

namespace Scaffold.Shell

/-- A character of an expanded word. -/
inductive Glyph where
  /-- A character; whether it can be part of a pattern, and whether a blank ends a field. -/
  | char (char : Char) (active splits : Bool)
  /-- Nothing, which makes a field all the same. -/
  | kept
  /-- The end of a field. -/
  | cut
  deriving Repr, DecidableEq

/-- The glyphs of a text. -/
def Glyph.ofText (quoted splits : Bool) (chars : List Char) : List Glyph :=
  let glyphs := chars.map fun char => Glyph.char char (!quoted) splits
  if quoted then .kept :: glyphs else glyphs

/-- The text of glyphs. -/
def textOf (glyphs : List Glyph) : String :=
  String.ofList (glyphs.filterMap fun glyph =>
    match glyph with
    | .char char _ _ => some char
    | _ => none)

/-- A piece of a pattern. -/
inductive PatternPart where
  | literal (char : Char)
  /-- Any character. -/
  | any
  /-- Any text. -/
  | many
  /-- A character within one of some ranges, or outside of all of them. -/
  | oneOf (negated : Bool) (ranges : List (Char × Char))
  deriving Repr, DecidableEq

/-- The ranges that the characters between brackets stand for. -/
def rangesOf : List Char → List (Char × Char)
  | first :: '-' :: last :: rest => (first, last) :: rangesOf rest
  | char :: rest => (char, char) :: rangesOf rest
  | [] => []

/-- The set behind an opening bracket and the number of its characters, the closing one included. -/
def bracket? (chars : List Char) : Option (PatternPart × Nat) :=
  let negated := chars.head?.any ['!', '^'].contains
  let inside := if negated then chars.tail else chars
  match inside with
  | [] => none
  | first :: rest =>
    let members := rest.takeWhile (· != ']')
    if members.length == rest.length then none
    else
      some (.oneOf negated (rangesOf (first :: members)),
        members.length + 2 + if negated then 1 else 0)

/-- The pattern of glyphs; `skip` counts glyphs that were taken already. -/
def patternFrom (skip : Nat) : List Glyph → List PatternPart
  | [] => []
  | .char char active _ :: rest =>
    match skip with
    | skip + 1 => patternFrom skip rest
    | 0 =>
      if !active then .literal char :: patternFrom 0 rest
      else if char == '*' then .many :: patternFrom 0 rest
      else if char == '?' then .any :: patternFrom 0 rest
      else if char == '[' then
        match bracket? (textOf rest).toList with
        | some (part, length) => part :: patternFrom length rest
        | none => .literal char :: patternFrom 0 rest
      else .literal char :: patternFrom 0 rest
  | _ :: rest => patternFrom skip rest

/-- The pattern of glyphs. -/
def patternOf (glyphs : List Glyph) : List PatternPart := patternFrom 0 glyphs

/-- The ends of a text, itself and nothing included. -/
def endsOf : List Char → List (List Char)
  | [] => [[]]
  | char :: rest => (char :: rest) :: endsOf rest

/-- Whether a text fits a pattern. -/
def fits : List PatternPart → List Char → Bool
  | [], text => text.isEmpty
  | .many :: parts, text => (endsOf text).any fun rest => fits parts rest
  | .literal wanted :: parts, char :: rest => wanted == char && fits parts rest
  | .any :: parts, _ :: rest => fits parts rest
  | .oneOf negated ranges :: parts, char :: rest =>
    (ranges.any fun range => decide (range.1 ≤ char) && decide (char ≤ range.2)) != negated &&
      fits parts rest
  | _, [] => false

/-- Whether glyphs hold anything that makes a pattern of them. -/
def isPattern (glyphs : List Glyph) : Bool :=
  (patternOf glyphs).any fun part =>
    match part with
    | .literal _ => false
    | _ => true

/-- The names in a directory that fit a pattern; hidden ones only if it starts with a dot. -/
def namesThatFit (disk : Disk) (directory : String) (pattern : List PatternPart) : List String :=
  match disk.find .use ⟨if directory.isEmpty then "." else directory⟩ with
  | .ok (place, .directory) =>
    let showsHidden := pattern.head? == some (.literal '.')
    ((disk.children place).map Prod.fst).filter fun name =>
      (showsHidden || !name.startsWith ".") && fits pattern name.toList
  | _ => []

/-- The glyphs between separators. -/
def stepsOf : List Glyph → List (List Glyph)
  | [] => [[]]
  | glyph :: rest =>
    match glyph, stepsOf rest with
    | .char '/' _ _, steps => [] :: steps
    | glyph, step :: steps => (glyph :: step) :: steps
    | glyph, [] => [[glyph]]

/-- The paths that fit a pattern, given the paths that fit what stands before it. -/
def pathsFrom (disk : Disk) (starts : List String) : List (List Glyph) → List String
  | [] => starts
  | step :: steps =>
    let found :=
      if isPattern step then
        starts.flatMap fun start => (namesThatFit disk start (patternOf step)).map (start ++ ·)
      else starts.map (· ++ textOf step)
    if steps.isEmpty then found else pathsFrom disk (found.map (· ++ "/")) steps

/-- The paths that a field stands for: those that fit it, or its text. -/
def pathsOf (disk : Disk) (field : List Glyph) : List String :=
  if isPattern field then
    let found := (pathsFrom disk [""] (stepsOf field)).filter fun path =>
      (disk.find .inspect ⟨path⟩).toBool
    if found.isEmpty then [textOf field] else found
  else [textOf field]

end Scaffold.Shell
