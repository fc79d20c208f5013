import Scaffold.Yaml.Token.Block
import Scaffold.Yaml.Token.Tag

/-!
# The tokens of a text

A text is cut into tokens from left to right. Indentation opens and closes collections outside of
brackets. A node that could turn out to be a key is remembered until a colon follows it, and the
token for the key is then put in front of it.
-/

namespace Scaffold.Yaml

/-- A node that may turn out to be a key. -/
structure KeyCandidate where
  /-- Whether nothing but a key can stand there. -/
  required : Bool
  /-- The number of tokens before it. -/
  position : Nat
  /-- Where it starts. -/
  start : Spot
  deriving Repr

/-- The state of the scan. -/
structure ScanState where
  /-- What is left of the text. -/
  spots : List Spot
  /-- The tokens found, in reverse. -/
  reversed : List Token
  /-- The columns of the open indented collections, the innermost first. -/
  indents : List Nat
  /-- The candidates for a key, one for each open bracket and one for what is around them. -/
  candidates : List (Option KeyCandidate)
  /-- Whether a key may start here. -/
  keyAllowed : Bool

namespace ScanState

/-- The state before the first character. -/
def start (spots : List Spot) : ScanState := ⟨spots, [], [], [none], true⟩

/-- The next spot. -/
def here (state : ScanState) : Spot := state.spots.headD ⟨endMark, 0, 0, 0⟩

/-- Whether a bracket is open. -/
def inFlow (state : ScanState) : Bool := 1 < state.candidates.length

/-- The column of the innermost open indented collection. -/
def indent? (state : ScanState) : Option Nat := state.indents.head?

/-- The state with a token more. -/
def push (token : Token) (state : ScanState) : ScanState :=
  { state with reversed := token :: state.reversed }

/-- The state with a token in front of those after a number of tokens. -/
def insertAt (position : Nat) (token : Token) (state : ScanState) : ScanState :=
  let later := state.reversed.length - position
  { state with
    reversed := state.reversed.take later ++ token :: state.reversed.drop later }

/-- The state one character further. -/
def skip (state : ScanState) : ScanState := { state with spots := state.spots.tail }

/-- The state with another rest of the text. -/
def goTo (spots : List Spot) (state : ScanState) : ScanState := { state with spots := spots }

/-- The state in which a key may start or not. -/
def allowKey (allowed : Bool) (state : ScanState) : ScanState :=
  { state with keyAllowed := allowed }

/-- Open an indented collection at a column if it lies deeper than what is open; its token stands
after a number of tokens. -/
def openIndent (column position : Nat) (token : Token) (state : ScanState) : ScanState :=
  if state.inFlow || state.indent?.any (column ≤ ·) then state
  else { state.insertAt position token with indents := column :: state.indents }

/-- Open an indented collection at the next character. -/
def openIndentHere (token : Token) (state : ScanState) : ScanState :=
  state.openIndent state.here.column state.reversed.length token

/-- Close the indented collections for which the test of their column fails. -/
def closeIndents (stays : Nat → Bool) (state : ScanState) : ScanState :=
  if state.inFlow then state
  else
    let closed := state.indents.takeWhile fun column => !stays column
    { state with
      reversed := List.replicate closed.length .blockEnd ++ state.reversed
      indents := state.indents.drop closed.length }

/-- Give up the candidate for a key; none if it had to be one. -/
def dropCandidate (state : ScanState) : Option ScanState :=
  match state.candidates with
  | some candidate :: outer =>
    if candidate.required then none else some { state with candidates := none :: outer }
  | _ => some state

/-- Remember the node that starts here as a candidate for a key, if one may start. -/
def noteCandidate (state : ScanState) : Option ScanState :=
  if state.keyAllowed then do
    let state ← state.dropCandidate
    let candidate : KeyCandidate :=
      ⟨!state.inFlow && state.indent? == some state.here.column, state.reversed.length, state.here⟩
    return { state with candidates := some candidate :: state.candidates.tail }
  else some state

/-- The length in characters that no key may exceed. -/
def keyLimit : Nat := 1024

/-- Whether a candidate lies too far back to be a key. -/
def isStale (state : ScanState) (candidate : KeyCandidate) : Bool :=
  candidate.start.line < state.here.line ||
    candidate.start.index + keyLimit < state.here.index

/-- Give up the candidates that lie too far back; none if one of them had to be a key. -/
def dropStale (state : ScanState) : Option ScanState := do
  let candidates ← state.candidates.mapM fun candidate? =>
    match candidate? with
    | some candidate =>
      if state.isStale candidate then if candidate.required then none else some none
      else some (some candidate)
    | none => some none
  return { state with candidates }

/-- Go over spacing, line ends and comments. Tabs count as spacing only where no key may start. -/
def skipSpacing (inFlow : Bool) (keyAllowed inComment : Bool) : List Spot → List Spot × Bool
  | [] => ([], keyAllowed)
  | spot :: rest =>
    if isLineEnd spot.char then skipSpacing inFlow (keyAllowed || !inFlow) false rest
    else if spot.char == endMark then (spot :: rest, keyAllowed)
    else if inComment then skipSpacing inFlow keyAllowed true rest
    else if spot.char == ' ' || (spot.char == '\t' && (inFlow || !keyAllowed)) then
      skipSpacing inFlow keyAllowed false rest
    else if spot.char == '#' then skipSpacing inFlow keyAllowed true rest
    else (spot :: rest, keyAllowed)

/-- Go on to the next token. -/
def advance (state : ScanState) : Option ScanState := do
  let spots :=
    match state.spots with
    | spot :: rest => if spot.index == 0 && spot.char == '\ufeff' then rest else spot :: rest
    | [] => []
  let (spots, keyAllowed) := skipSpacing state.inFlow state.keyAllowed false spots
  let state ← { state with spots, keyAllowed }.dropStale
  return state.closeIndents (· ≤ state.here.column)

/-- Take a directive or a boundary of documents, which closes everything indented. -/
def takeOutermost (take : List Spot → Option (Token × List Spot)) (state : ScanState) :
    Option ScanState := do
  let state ← (state.closeIndents fun _ => false).dropCandidate
  let (token, spots) ← take state.spots
  return ((state.push token).goTo spots).allowKey false

/-- Take an opening bracket. -/
def takeOpening (token : Token) (state : ScanState) : Option ScanState := do
  let state ← state.noteCandidate
  let state := { state with candidates := none :: state.candidates }
  return ((state.push token).skip).allowKey true

/-- Take a closing bracket. -/
def takeClosing (token : Token) (state : ScanState) : Option ScanState := do
  let state ← state.dropCandidate
  let candidates := if state.inFlow then state.candidates.tail else state.candidates
  return (({ state with candidates }.push token).skip).allowKey false

/-- Take a comma between brackets. -/
def takeFlowEntry (state : ScanState) : Option ScanState := do
  let state ← state.dropCandidate
  return ((state.push .flowEntry).skip).allowKey true

/-- Open an indented collection for an indicator at the next character; none where no key may
start. -/
def openForIndicator (token : Token) (state : ScanState) : Option ScanState :=
  if state.inFlow then some state
  else if state.keyAllowed then some (state.openIndentHere token)
  else none

/-- Take the hyphen before an item. -/
def takeBlockEntry (state : ScanState) : Option ScanState := do
  let state ← state.openForIndicator .blockSequenceStart
  let state ← state.dropCandidate
  return ((state.push .blockEntry).skip).allowKey true

/-- Take the question mark before a key. -/
def takeKey (state : ScanState) : Option ScanState := do
  let state ← state.openForIndicator .blockMappingStart
  let state ← state.dropCandidate
  return ((state.push .key).skip).allowKey (!state.inFlow)

/-- Take the colon before a value. If a candidate for a key stands before it, that is the key. -/
def takeValue (state : ScanState) : Option ScanState :=
  match state.candidates with
  | some candidate :: outer =>
    let state := (state.insertAt candidate.position .key).openIndent candidate.start.column
      candidate.position .blockMappingStart
    some ((({ state with candidates := none :: outer }.push .value).skip).allowKey false)
  | _ => do
    let state ← state.openForIndicator .blockMappingStart
    return ((state.push .value).skip).allowKey (!state.inFlow)

/-- Take a reference, an anchor or a tag. -/
def takeProperty (take : List Spot → Option (Token × List Spot)) (state : ScanState) :
    Option ScanState := do
  let state ← state.noteCandidate
  let (token, spots) ← take state.spots.tail
  return ((state.push token).goTo spots).allowKey false

/-- Take a block scalar. -/
def takeBlock (style : ScalarStyle) (state : ScanState) : Option ScanState := do
  let state ← state.dropCandidate
  let scan ← scanBlock (style == .folded) state.indent? state.spots.tail
  return ((state.push (.scalar style (String.ofList scan.text))).goTo scan.rest).allowKey true

/-- Take a plain or quoted scalar. -/
def takeScalar (style : ScalarStyle) (take : List Spot → Option ScalarScan) (state : ScanState) :
    Option ScanState := do
  let state ← state.noteCandidate
  let scan ← take state.spots
  return ((state.push (.scalar style (String.ofList scan.text))).goTo scan.rest).allowKey
    scan.crossedLine

/-- Where a plain scalar that starts here stands. -/
def plainSetting (state : ScanState) : PlainSetting :=
  ⟨state.inFlow, (state.indent?.map (· + 1)).getD 0⟩

/-- Whether a plain scalar can start with a character. -/
def startsPlain (inFlow : Bool) (char next : Char) : Bool :=
  !(isWordStop char ||
      ['-', '?', ':', ',', '[', ']', '\x7b', '\x7d', '#', '&', '*', '!', '|', '>', '\x27', '\x22',
        '%', '@', '\x60'].contains char) ||
    (char == '-' && !isSpacing next) ||
    (!inFlow && (char == '?' || char == ':') && !isWordStop next)

/-- Read a name as a token. -/
def named (wrap : String → Token) (spots : List Spot) : Option (Token × List Spot) :=
  (scanName spots).map fun (name, rest) => (wrap name, rest)

/-- Take the next token, which starts at the next character. -/
def take (state : ScanState) : Option ScanState :=
  let char := state.here.char
  let next := peekSecond state.spots
  let isIndicator := state.inFlow || isWordStop next
  if state.here.column == 0 && char == '%' then
    state.takeOutermost fun spots => scanDirective spots.tail
  else if startsRule '-' state.spots then
    state.takeOutermost fun spots => some (.documentStart, spots.drop 3)
  else if startsRule '.' state.spots then
    state.takeOutermost fun spots => some (.documentEnd, spots.drop 3)
  else if char == '[' then state.takeOpening .flowSequenceStart
  else if char == '\x7b' then state.takeOpening .flowMappingStart
  else if char == ']' then state.takeClosing .flowSequenceEnd
  else if char == '\x7d' then state.takeClosing .flowMappingEnd
  else if char == ',' then state.takeFlowEntry
  else if char == '-' && isWordStop next then state.takeBlockEntry
  else if char == '?' && isIndicator then state.takeKey
  else if char == ':' && isIndicator then state.takeValue
  else if char == '*' then state.takeProperty (named .alias)
  else if char == '&' then state.takeProperty (named .anchor)
  else if char == '!' then state.takeProperty (scanTag state.inFlow)
  else if char == '|' && !state.inFlow then state.takeBlock .literal
  else if char == '>' && !state.inFlow then state.takeBlock .folded
  else if char == singleQuote then state.takeScalar .singleQuoted scanQuoted
  else if char == doubleQuote then state.takeScalar .doubleQuoted scanQuoted
  else if startsPlain state.inFlow char next then
    state.takeScalar .plain (scanPlain state.plainSetting)
  else none

/-- The tokens at the end of the text. -/
def finish (state : ScanState) : Option (List Token) := do
  let state ← (state.closeIndents fun _ => false).dropCandidate
  return state.reversed.reverse

/-- Take tokens up to the end, at most `count` of them. -/
def takeAll : Nat → ScanState → Option (List Token)
  | 0, _ => none
  | count + 1, state => do
    let state ← state.advance
    if state.here.char == endMark then state.finish
    else takeAll count (← state.take)

end ScanState

/-- The tokens of a text; none if it is no YAML. -/
def tokens? (text : String) : Option (List Token) := do
  let spots ← spots? text
  (ScanState.start spots).takeAll (spots.length + 1)

end Scaffold.Yaml
