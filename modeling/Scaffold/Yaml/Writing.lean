import Scaffold.Yaml.Meaning
import Scaffold.Yaml.Token
import Scaffold.Yaml.Token.Quoted

/-!
# Writing scalars

A text is written as the value of an entry so that it is read back as the same text. It stands
plain if it would not be read as anything else, in a literal block if it has several lines, and in
quotes otherwise; what cannot be shown is escaped between double quotes.
-/

namespace Scaffold.Yaml.Writing

/-- Whether a character can be shown as it is. -/
def isPrintable (char : Char) : Bool :=
  let code := char.toNat
  code == 0xA || (0x20 ≤ code && code ≤ 0x7E) || (0xA0 ≤ code && code ≤ 0xFFFD && code != 0xFEFF) ||
    0x10000 ≤ code

/-- Whether two neighbours pass a test. -/
def hasNeighbours (test : Char → Char → Bool) (chars : List Char) : Bool :=
  (chars.zip chars.tail).any fun pair => test pair.1 pair.2

/-- Whether a text has a space and a line end behind it. -/
def hasSpaceBeforeEnd (chars : List Char) : Bool :=
  hasNeighbours (fun char next => char == ' ' && isLineEnd next) chars

/-- Whether a text has a line end and a space behind it. -/
def hasSpaceAfterEnd (chars : List Char) : Bool :=
  hasNeighbours (fun char next => isLineEnd char && next == ' ') chars

/-- Whether a text can only be written with escapes. -/
def needsEscapes (chars : List Char) : Bool :=
  !chars.all isPrintable || hasSpaceBeforeEnd chars

/-- The characters with which no plain scalar may start. -/
def openingIndicators : List Char :=
  ['#', ',', '[', ']', '\x7b', '\x7d', '&', '*', '!', '|', '>', '\x27', '\x22', '%', '@', '\x60']

/-- Whether the start of a text would be taken for something else than a text. -/
def startsAsIndicator (chars : List Char) : Bool :=
  match chars with
  | [] => false
  | first :: rest =>
    openingIndicators.contains first ||
      (['?', ':', '-'].contains first && isWordStop (rest.headD endMark)) ||
      ['-', '-', '-'].isPrefixOf chars || ['.', '.', '.'].isPrefixOf chars

/-- Whether a text has an indicator behind its first character. -/
def holdsIndicator (chars : List Char) : Bool :=
  hasNeighbours (fun char next => char == ':' && isWordStop next) (chars ++ [endMark]) ||
    hasNeighbours (fun char next => isWordStop char && next == '#') chars

/-- Whether a text can stand plain. -/
def canStandPlain (text : String) : Bool :=
  let chars := text.toList
  !needsEscapes chars && !chars.any isLineEnd && !startsAsIndicator chars &&
    !holdsIndicator chars && chars.head? != some ' ' && chars.getLast? != some ' '

/-- Whether a plain scalar would be read as a text. -/
def readsAsText (text : String) : Bool :=
  Meaning.ofText text == .text && !Meaning.isPaddedDigits text.toList

/-- How a text is written. -/
def style (text : String) : ScalarStyle :=
  let chars := text.toList
  if chars.contains '\n' then
    if needsEscapes chars || chars.getLast? == some ' ' then .doubleQuoted else .literal
  else if readsAsText text && canStandPlain text then .plain
  else if needsEscapes chars || hasSpaceAfterEnd chars then .doubleQuoted
  else .singleQuoted

/-- The lines behind the first one of an entry are indented so. -/
def indentation : List Char := [' ', ' ']

/-- The characters with the indentation in front of each line but empty ones; `fresh` tells whether
a line starts here. -/
def indentLines (fresh : Bool) : List Char → List Char
  | [] => []
  | char :: rest =>
    if isLineEnd char then char :: indentLines true rest
    else if fresh then indentation ++ char :: indentLines false rest
    else char :: indentLines false rest

/-- The text between single quotes. -/
def singleQuoted (chars : List Char) : List Char :=
  let doubled := chars.flatMap fun char =>
    if char == singleQuote then [singleQuote, singleQuote] else [char]
  singleQuote :: indentLines false (doubled ++ [singleQuote])

/-- The digits of a code point. -/
def codeDigits (width code : Nat) : List Char :=
  let digits := (Nat.toDigits 16 code).map Char.toUpper
  List.replicate (width - digits.length) '0' ++ digits

/-- The letter that stands behind a backslash for a character. -/
def letter? (char : Char) : Option Char :=
  [('\x00', '0'), ('\x07', 'a'), ('\x08', 'b'), ('\t', 't'), ('\n', 'n'), ('\x0b', 'v'),
    ('\x0c', 'f'), ('\r', 'r'), ('\x1b', 'e'), (doubleQuote, doubleQuote), ('\\', '\\'),
    ('\u0085', 'N'), ('\u2028', 'L'), ('\u2029', 'P')].lookup char

/-- An escaped character. -/
def escape (char : Char) : List Char :=
  match letter? char with
  | some letter => ['\\', letter]
  | none =>
    if isPrintable char then [char]
    else if char.toNat ≤ 0xFF then '\\' :: 'x' :: codeDigits 2 char.toNat
    else if char.toNat ≤ 0xFFFF then '\\' :: 'u' :: codeDigits 4 char.toNat
    else '\\' :: 'U' :: codeDigits 8 char.toNat

/-- The text between double quotes. -/
def doubleQuoted (chars : List Char) : List Char :=
  doubleQuote :: chars.flatMap escape ++ [doubleQuote]

/-- The sign in the header of a block for its last line ends: none are kept, one, or all. -/
def chompingSign (chars : List Char) : List Char :=
  match chars.reverse with
  | [] => ['-']
  | [last] => if isLineEnd last then ['+'] else ['-']
  | last :: previous :: _ =>
    if !isLineEnd last then ['-'] else if isLineEnd previous then ['+'] else []

/-- The text as a literal block. -/
def literal (chars : List Char) : List Char :=
  let hint := if chars.head?.any fun char => char == ' ' || isLineEnd char then ['2'] else []
  '|' :: hint ++ chompingSign chars ++ '\n' :: indentLines true chars

/-- The text as the value of an entry. -/
def scalar (text : String) : List Char :=
  let chars := text.toList
  match style text with
  | .plain => chars
  | .singleQuoted => singleQuoted chars
  | .literal => literal chars
  | _ => doubleQuoted chars

/-- The characters with a line feed at the end, unless they end a line already. -/
def endLine (chars : List Char) : List Char :=
  if chars.getLast?.any isLineEnd then chars else chars ++ ['\n']

/-- A document of one entry, whose name can stand plain. -/
def entry (name text : String) : String :=
  String.ofList (endLine (name.toList ++ ':' :: ' ' :: scalar text))

end Scaffold.Yaml.Writing
