import Scaffold.Shell.Arithmetic
import Scaffold.Shell.Pattern
import Scaffold.Shell.State

/-!
# Expanding words

Before a command runs, its words are expanded: parameters, outputs of scripts and values of
expressions are put in. Unless it is quoted, what was put in is split into fields at blanks, and
patterns are replaced by the paths that fit them.
-/

namespace Scaffold.Shell

/-- What runs within a script: texts and functions, and words within words. -/
structure Deeper where
  /-- Run a text as a script. -/
  text : String → Running Unit
  /-- Run a script that was read before. -/
  script : Script → Running Unit
  /-- Expand a word. -/
  glyphs : Word → Running (List Glyph)

/-- The value of a parameter, if it is set. -/
def State.parameter? (state : State) (name : String) : Option String :=
  match name with
  | "?" => some (toString state.status)
  | "$" => some "$"
  | "!" => some "!"
  | "#" => some (toString state.arguments.length)
  | "-" => some (if state.strict then "e" else "")
  | "0" => some state.name
  | "@" => some (" ".intercalate state.arguments)
  | "*" => some (" ".intercalate state.arguments)
  | _ =>
    match name.toNat? with
    | some place => state.arguments[place - 1]?
    | none => state.bindings.lookup name

/-- The bytes of what a script writes, as a text without the line ends behind it. -/
def outputText (bytes : List UInt8) : List Char :=
  ((Text.decodeLossy bytes).toList.reverse.dropWhile (· == '\n')).reverse

/-- The value of an expression after its own expansion. -/
def arithmeticText (deeper : Deeper) (expression : String) : Running String := do
  let expression := textOf (← deeper.glyphs (Word.ofText true expression))
  let state ← get
  let valueOf (name : String) : Int := ((state.parameter? name).bind String.toInt?).getD 0
  match evaluate valueOf expression with
  | .ok value => return toString value
  | .error fault =>
    Running.complainHere (fault.message expression)
    throw (.left 2)

/-- A text without the shortest or longest part at its start that fits a pattern. -/
def trimStart (longest : Bool) (pattern : List PatternPart) (chars : List Char) : List Char :=
  let lengths := List.range (chars.length + 1)
  let tried := if longest then lengths.reverse else lengths
  match tried.find? fun length => fits pattern (chars.take length) with
  | some length => chars.drop length
  | none => chars

/-- A text without the shortest or longest part at its end that fits a pattern. -/
def trimEnd (longest : Bool) (pattern : List PatternPart) (chars : List Char) : List Char :=
  let lengths := List.range (chars.length + 1)
  let tried := if longest then lengths else lengths.reverse
  match tried.find? fun length => fits pattern (chars.drop length) with
  | some length => chars.take length
  | none => chars

/-- The glyphs of a parameter with an operator and a word behind it. -/
def choiceGlyphs (deeper : Deeper) (quoted : Bool) (name operator text : String) :
    Running (List Glyph) := do
  let value? := (← get).parameter? name
  let needsText := operator.startsWith ":"
  let isGiven := value?.any fun value => !needsText || !value.isEmpty
  let given := Glyph.ofText quoted (!quoted) (value?.getD "").toList
  let word := deeper.glyphs (Word.ofText quoted text)
  let kind := if needsText then (operator.drop 1).toString else operator
  match kind with
  | "-" => if isGiven then return given else word
  | "+" => if isGiven then word else return Glyph.ofText quoted (!quoted) []
  | "=" =>
    if isGiven then return given
    else
      let glyphs ← word
      Running.bind name (textOf glyphs)
      return glyphs
  | "?" =>
    if isGiven then return given
    else
      let words := textOf (← word)
      Running.complainHere (name ++ ": " ++
        if words.isEmpty then "parameter not set or null" else words)
      throw (.left 2)
  | _ =>
    let pattern := patternOf (← deeper.glyphs (Word.ofText false text))
    let chars := (value?.getD "").toList
    let trimmed :=
      if kind.startsWith "#" then trimStart (kind == "##") pattern chars
      else trimEnd (kind == "%%") pattern chars
    return Glyph.ofText quoted (!quoted) trimmed

/-- The glyphs of a piece of a word. -/
def partGlyphs (deeper : Deeper) : WordPart → Running (List Glyph)
  | .text chars quoted => return Glyph.ofText quoted false chars
  | .expansion expansion quoted => do
    let plain (chars : List Char) := Glyph.ofText quoted (!quoted) chars
    match expansion with
    | .parameter "@" =>
      let arguments := (← get).arguments
      return [Glyph.cut].intercalate (arguments.map fun text =>
        Glyph.ofText quoted (!quoted) text.toList)
    | .parameter name => return plain (((← get).parameter? name).getD "").toList
    | .size name => return plain (toString (((← get).parameter? name).getD "").length).toList
    | .choice name operator text => choiceGlyphs deeper quoted name operator text
    | .output script =>
      let bytes ← Running.capture (Running.isolate (deeper.text script))
      return plain (outputText bytes)
    | .value expression => return plain (← arithmeticText deeper expression).toList

/-- The glyphs of a word. -/
def wordGlyphs (deeper : Deeper) (word : Word) : Running (List Glyph) := do
  return (← word.mapM (partGlyphs deeper)).flatten

/-- The fields of glyphs; `started?` is the field that is being read, in reverse. -/
def fieldsFrom (started? : Option (List Glyph)) : List Glyph → List (List Glyph)
  | [] => (started?.map List.reverse).toList
  | .cut :: rest => (started?.map List.reverse).toList ++ fieldsFrom none rest
  | .kept :: rest => fieldsFrom (some (started?.getD [])) rest
  | .char char active splits :: rest =>
    if splits && (char == ' ' || char == '\t' || char == '\n') then
      (started?.map List.reverse).toList ++ fieldsFrom none rest
    else fieldsFrom (some (.char char active splits :: started?.getD [])) rest

/-- The texts that words of a command stand for. -/
def expandAll (deeper : Deeper) : List Word → Running (List String)
  | [] => return []
  | word :: rest => do
    let glyphs ← wordGlyphs deeper word
    let disk := (← get).disk
    let texts := (fieldsFrom none glyphs).flatMap (pathsOf disk)
    return texts ++ (← expandAll deeper rest)

/-- The text that a word stands for where it is not split. -/
def expandOne (deeper : Deeper) (word : Word) : Running String := do
  return textOf (← wordGlyphs deeper word)

end Scaffold.Shell
