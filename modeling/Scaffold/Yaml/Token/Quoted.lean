import Scaffold.Yaml.Token.Plain

/-!
# Quoted scalars

Between single quotes a quote is written twice and nothing else is special. Between double quotes
a backslash introduces escapes, also of line ends. Line ends are folded in both.
-/

namespace Scaffold.Yaml

/-- The quote of a single quoted scalar. -/
def singleQuote : Char := '\x27'

/-- The quote of a double quoted scalar. -/
def doubleQuote : Char := '\x22'

/-- Read a single quoted scalar behind its first quote. -/
def scanSingleFrom (reversed : List Char) (gap : Gap) : List Spot → Option ScalarScan
  | [] => none
  | spot :: rest =>
    let gathered := gap.fold.reverse ++ reversed
    if startsBoundary (spot :: rest) || spot.char == endMark then none
    else if isSpacing spot.char || isLineEnd spot.char then
      scanSingleFrom reversed (gap.add spot.char) rest
    else if spot.char == singleQuote then
      match rest with
      | next :: others =>
        if next.char == singleQuote then scanSingleFrom (singleQuote :: gathered) .empty others
        else some ⟨gathered.reverse, false, rest⟩
      | [] => some ⟨gathered.reverse, false, rest⟩
    else scanSingleFrom (spot.char :: gathered) .empty rest

/-- The character that a letter behind a backslash stands for. -/
def shortEscape? (letter : Char) : Option Char :=
  [('0', '\x00'), ('a', '\x07'), ('b', '\x08'), ('t', '\t'), ('\t', '\t'), ('n', '\n'),
    ('v', '\x0b'), ('f', '\x0c'), ('r', '\r'), ('e', '\x1b'), (' ', ' '),
    (doubleQuote, doubleQuote), ('/', '/'), ('\\', '\\'), ('N', '\u0085'), ('_', '\u00a0'),
    ('L', '\u2028'), ('P', '\u2029')].lookup letter

/-- The number of hexadecimal digits behind a letter that introduces a code point. -/
def codeLength? (letter : Char) : Option Nat := [('x', 2), ('u', 4), ('U', 8)].lookup letter

/-- The value of a hexadecimal digit. -/
def hexValue? (digit : Char) : Option Nat :=
  if '0' ≤ digit && digit ≤ '9' then some (digit.toNat - '0'.toNat)
  else if 'a' ≤ digit && digit ≤ 'f' then some (digit.toNat - 'a'.toNat + 10)
  else if 'A' ≤ digit && digit ≤ 'F' then some (digit.toNat - 'A'.toNat + 10)
  else none

/-- The character with a code point, if there is one. -/
def charOfCode? (code : Nat) : Option Char :=
  if code.isValidChar then some (Char.ofNat code) else none

/-- Where the scan of a double quoted scalar stands. -/
inductive EscapeState where
  /-- At an ordinary character. -/
  | ordinary
  /-- Behind a backslash. -/
  | escaped
  /-- Within a code point: the digits still to come, less one, and the value so far. -/
  | code (more value : Nat)
  deriving Repr, DecidableEq

/-- Read a double quoted scalar behind its first quote. -/
def scanDoubleFrom (reversed : List Char) (gap : Gap) :
    EscapeState → List Spot → Option ScalarScan
  | _, [] => none
  | .ordinary, spot :: rest =>
    if startsBoundary (spot :: rest) || spot.char == endMark then none
    else if isSpacing spot.char || isLineEnd spot.char then
      scanDoubleFrom reversed (gap.add spot.char) .ordinary rest
    else
      let gathered := gap.fold.reverse ++ reversed
      if spot.char == doubleQuote then some ⟨gathered.reverse, false, rest⟩
      else if spot.char == '\\' then scanDoubleFrom gathered .empty .escaped rest
      else scanDoubleFrom (spot.char :: gathered) .empty .ordinary rest
  | .escaped, spot :: rest =>
    if isLineEnd spot.char then scanDoubleFrom reversed (.lines none []) .ordinary rest
    else
      match shortEscape? spot.char, codeLength? spot.char with
      | some char, _ => scanDoubleFrom (char :: reversed) .empty .ordinary rest
      | none, some length => scanDoubleFrom reversed .empty (.code (length - 1) 0) rest
      | none, none => none
  | .code more value, spot :: rest =>
    match hexValue? spot.char with
    | none => none
    | some digit =>
      let value := value * 16 + digit
      match more with
      | more + 1 => scanDoubleFrom reversed .empty (.code more value) rest
      | 0 =>
        match charOfCode? value with
        | some char => scanDoubleFrom (char :: reversed) .empty .ordinary rest
        | none => none

/-- Read a quoted scalar from its first quote on. -/
def scanQuoted (spots : List Spot) : Option ScalarScan :=
  if peek spots == singleQuote then scanSingleFrom [] .empty spots.tail
  else scanDoubleFrom [] .empty .ordinary spots.tail

end Scaffold.Yaml
