/-!
# Versions

Versions of three numbers, with an optional list of identifiers for a release to come and another
for the build. They are compared number by number and then by these lists, in an order that may be
any; in the order that is used, a version with identifiers for a release to come is lower than one
without, and of otherwise equal versions the build decides.
-/

namespace Scaffold

/-- A piece of the dotted lists behind a version. -/
inductive VersionIdentifier where
  /-- Digits alone: their value, and how many zeros stand in front. -/
  | number (value zeros : Nat)
  /-- Anything else. -/
  | word (text : String)
  deriving Repr, DecidableEq

namespace VersionIdentifier

/-- The order of identifiers: numbers before words, numbers by value and then by their zeros, words
by their characters. -/
def compare : VersionIdentifier → VersionIdentifier → Ordering
  | number left leftZeros, number right rightZeros =>
    (Ord.compare left right).then (Ord.compare leftZeros rightZeros)
  | number _ _, word _ => .lt
  | word _, number _ _ => .gt
  | word left, word right => Ord.compare left right

/-- The lexicographic order of lists of identifiers. -/
def compareAll : List VersionIdentifier → List VersionIdentifier → Ordering
  | [], [] => .eq
  | [], _ :: _ => .lt
  | _ :: _, [] => .gt
  | left :: lefts, right :: rights => (left.compare right).then (compareAll lefts rights)

end VersionIdentifier

/-- A version. -/
structure Version where
  major : Nat
  minor : Nat
  patch : Nat
  /-- The identifiers of a release to come; none for a release. -/
  candidate : List VersionIdentifier
  /-- The identifiers of the build. -/
  build : List VersionIdentifier
  deriving Repr, DecidableEq

/-- How the identifiers behind the numbers of versions are compared. -/
class IdentifierOrder where
  /-- The order of the identifiers of releases to come; a release has none. -/
  compareCandidates : List VersionIdentifier → List VersionIdentifier → Ordering
  /-- The order of the identifiers of builds. -/
  compareBuilds : List VersionIdentifier → List VersionIdentifier → Ordering

namespace Version

/-- The order of candidate lists, in which the empty list is the highest. -/
def compareCandidates : List VersionIdentifier → List VersionIdentifier → Ordering
  | [], [] => .eq
  | [], _ :: _ => .gt
  | _ :: _, [] => .lt
  | left, right => VersionIdentifier.compareAll left right

instance : IdentifierOrder where
  compareCandidates := compareCandidates
  compareBuilds := VersionIdentifier.compareAll

/-- The order of versions. -/
def compare [IdentifierOrder] (left right : Version) : Ordering :=
  (Ord.compare left.major right.major).then <|
    (Ord.compare left.minor right.minor).then <|
      (Ord.compare left.patch right.patch).then <|
        (IdentifierOrder.compareCandidates left.candidate right.candidate).then <|
          IdentifierOrder.compareBuilds left.build right.build

/-- The value of decimal digits. -/
def valueOf (digits : List Char) : Nat :=
  digits.foldl (fun value digit => value * 10 + (digit.toNat - '0'.toNat)) 0

/-- The pieces between dots; there is always at least one. -/
def dotted : List Char → List (List Char)
  | [] => [[]]
  | char :: rest =>
    if char == '.' then [] :: dotted rest
    else
      match dotted rest with
      | piece :: others => (char :: piece) :: others
      | [] => [[char]]

/-- Whether digits have a zero in front of others. -/
def hasLeadingZero (digits : List Char) : Bool := digits.head? == some '0' && digits.length != 1

/-- One of the three numbers: digits without leading zeros and below two to the 64th. -/
def parseNumber? (piece : List Char) : Option Nat :=
  if piece.isEmpty || !piece.all Char.isDigit || hasLeadingZero piece then none
  else if valueOf piece < UInt64.size then some (valueOf piece)
  else none

/-- Whether a character can be part of an identifier. -/
def isIdentifierChar (char : Char) : Bool := char.isAlphanum || char == '-'

/-- One identifier. -/
def parseIdentifier? (piece : List Char) : Option VersionIdentifier :=
  if piece.isEmpty || !piece.all isIdentifierChar then none
  else if piece.all Char.isDigit then
    some (.number (valueOf piece) (piece.takeWhile (· == '0')).length)
  else some (.word (String.ofList piece))

/-- One identifier of a release to come, whose numbers have no leading zeros. -/
def parseCandidate? (piece : List Char) : Option VersionIdentifier :=
  if piece.all Char.isDigit && hasLeadingZero piece then none else parseIdentifier? piece

/-- The identifiers behind the three numbers: a plus sign opens those of the build, a hyphen
before it those of a release to come. -/
def parseLists? (chars : List Char) :
    Option (List VersionIdentifier × List VersionIdentifier) := do
  let front := chars.takeWhile (· != '+')
  let candidate ←
    match front with
    | [] => some []
    | _ :: list => (dotted list).mapM parseCandidate?
  let build ←
    match chars.dropWhile (· != '+') with
    | [] => some []
    | _ :: list => (dotted list).mapM parseIdentifier?
  return (candidate, build)

/-- Whether a character ends the three numbers. -/
def endsNumbers (char : Char) : Bool := char == '-' || char == '+'

/-- Read a version. -/
def parse? (text : String) : Option Version :=
  let chars := text.toList
  match dotted (chars.takeWhile fun char => !endsNumbers char) with
  | [major, minor, patch] => do
    let major ← parseNumber? major
    let minor ← parseNumber? minor
    let patch ← parseNumber? patch
    let (candidate, build) ← parseLists? (chars.dropWhile fun char => !endsNumbers char)
    return { major, minor, patch, candidate, build }
  | _ => none

/-- Read a version that may have a letter in front. -/
def parseTagged? (text : String) : Option Version :=
  match text.toList with
  | 'v' :: rest => parse? (String.ofList rest)
  | _ => parse? text

/-- The warning for a blueprint that was written for a version newer than the one running; none
if one of the versions cannot be read. -/
def warning? [IdentifierOrder] (running name needed : String) : Option String := do
  let runningVersion ← parseTagged? running
  let neededVersion ← parseTagged? needed
  if runningVersion.compare neededVersion == .lt then
    some ("Blueprint '" ++ name ++ "' was written for CLI version " ++ needed ++
      " or newer, you are running " ++ running)
  else none

end Version

end Scaffold
