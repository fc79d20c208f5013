/-!
# Characters of a YAML text in their places

A YAML text is read as a list of characters, each with its line and column, closed by a mark for
the end. All spellings of a line feed are read as one character; the two separators of Unicode end
a line as well and are kept.
-/

namespace Scaffold.Yaml

/-- A character in its place. -/
structure Spot where
  char : Char
  /-- How many characters stand before it. -/
  index : Nat
  line : Nat
  /-- How many characters stand before it on its line. -/
  column : Nat
  deriving Repr, DecidableEq

/-- The mark behind the last character; no text may hold it. -/
def endMark : Char := '\x00'

/-- Whether the character ends a line. -/
def isLineEnd (char : Char) : Bool := char == '\n' || char == '\u2028' || char == '\u2029'

/-- Whether the character is a space or a tab. -/
def isSpacing (char : Char) : Bool := char == ' ' || char == '\t'

/-- Whether the character ends a line or the text. -/
def isLineStop (char : Char) : Bool := isLineEnd char || char == endMark

/-- Whether the character separates words. -/
def isWordStop (char : Char) : Bool := isSpacing char || isLineStop char

/-- Whether the character can be part of the name of an anchor or a tag handle. -/
def isWordChar (char : Char) : Bool := char.isAlphanum || char == '-' || char == '_'

/-- Whether a text may hold the character. -/
def isAllowed (char : Char) : Bool :=
  let code := char.toNat
  code == 0x9 || code == 0xA || code == 0xD || (0x20 ≤ code && code ≤ 0x7E) || code == 0x85 ||
    (0xA0 ≤ code && code ≤ 0xFFFD) || 0x10000 ≤ code

/-- The characters with every spelling of a line feed as one. -/
def unifyFeeds : List Char → List Char
  | [] => []
  | '\r' :: '\n' :: rest => '\n' :: unifyFeeds rest
  | char :: rest => (if char == '\r' || char == '\u0085' then '\n' else char) :: unifyFeeds rest

/-- Put characters in their places, from a place on. -/
def placeFrom (index line column : Nat) : List Char → List Spot
  | [] => [⟨endMark, index, line, column⟩]
  | char :: rest =>
    ⟨char, index, line, column⟩ ::
      (if isLineEnd char then placeFrom (index + 1) (line + 1) 0 rest
        else placeFrom (index + 1) line (column + 1) rest)

/-- The characters of a text in their places; none if it holds a character it may not. -/
def spots? (text : String) : Option (List Spot) :=
  if text.toList.all isAllowed then some (placeFrom 0 0 0 (unifyFeeds text.toList)) else none

/-- The characters of spots. -/
def charsOf (spots : List Spot) : List Char := spots.map (·.char)

/-- The next character; the mark for the end if there is none. -/
def peek (spots : List Spot) : Char :=
  match spots with
  | spot :: _ => spot.char
  | [] => endMark

/-- The character behind the next one. -/
def peekSecond (spots : List Spot) : Char := peek spots.tail

/-- Whether three equal characters stand alone at the start of a line. -/
def startsRule (char : Char) : List Spot → Bool
  | first :: second :: third :: rest =>
    first.column == 0 && first.char == char && second.char == char && third.char == char &&
      isWordStop (peek rest)
  | _ => false

/-- Whether a document starts or ends here. -/
def startsBoundary (spots : List Spot) : Bool := startsRule '-' spots || startsRule '.' spots

/-- The spots behind those that pass a test. -/
def skipWhile (test : Char → Bool) (spots : List Spot) : List Spot :=
  spots.dropWhile fun spot => test spot.char

/-- The characters of the spots in front that pass a test. -/
def takeWhile (test : Char → Bool) (spots : List Spot) : List Char :=
  charsOf (spots.takeWhile fun spot => test spot.char)

/-- The spots at the end of the line, behind spacing and a comment; none if anything else stands
there. -/
def skipLineRest? (spots : List Spot) : Option (List Spot) :=
  let spots := skipWhile isSpacing spots
  let spots := if peek spots == '#' then skipWhile (fun char => !isLineStop char) spots else spots
  if !isLineStop (peek spots) then none
  else if isLineEnd (peek spots) then some spots.tail
  else some spots

end Scaffold.Yaml
