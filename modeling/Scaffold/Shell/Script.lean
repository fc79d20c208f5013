import Scaffold.Shell.Word

/-!
# Shell scripts

The commands of a script: calls with redirections, pipes, lists, groups, conditions and loops. A
script is read line by line; where a command is not complete at the end of its line it goes on.
-/

namespace Scaffold.Shell

/-- Where a stream of a command goes or comes from. -/
inductive Redirection where
  /-- Read from a file. -/
  | input (source : Word)
  /-- Write to a file, at its end or in its place. -/
  | output (stream : Nat) (target : Word) (appends : Bool)
  /-- Write where another stream goes. -/
  | duplicate (stream : Nat) (source : Word)
  deriving Repr, DecidableEq

/-- A script. -/
inductive Script where
  /-- Nothing to do. -/
  | nothing
  /-- A command with its arguments, on a line. -/
  | command (line : Nat) (words : List Word) (redirections : List Redirection)
  /-- A script that keeps its changes of variables and of the working directory to itself. -/
  | isolated (body : Script)
  /-- A script with its streams redirected. -/
  | redirected (body : Script) (redirections : List Redirection)
  /-- The output of one script is the input of the next. -/
  | pipe (first second : Script)
  /-- Success and failure exchanged. -/
  | negated (body : Script)
  /-- The second script runs if the first one succeeds. -/
  | both (first second : Script)
  /-- The second script runs if the first one fails. -/
  | either (first second : Script)
  /-- One script after the other. -/
  | sequence (first second : Script)
  /-- A script that nobody waits for. -/
  | background (body : Script)
  /-- One of two scripts runs. -/
  | branch (condition success failure : Script)
  /-- A script runs as long as a condition succeeds, or fails. -/
  | loop (untilSuccess : Bool) (condition body : Script)
  /-- A script runs for each item; without items for each argument. -/
  | each (name : String) (items? : Option (List Word)) (body : Script)
  /-- A script runs if a word fits one of some patterns, otherwise the rest. -/
  | fitting (subject : Word) (patterns : List Word) (body rest : Script)
  /-- A script gets a name. -/
  | function (name : String) (body : Script)
  deriving Repr, DecidableEq

/-- The words that are no commands. -/
def reservedWords : List String :=
  ["!", "\x7b", "\x7d", "case", "do", "done", "elif", "else", "esac", "fi", "for", "if", "in",
    "then", "until", "while"]

/-- The reserved words that end a list of commands. -/
def endingWords : List String := ["\x7d", "do", "done", "elif", "else", "esac", "fi", "then"]

/-- The text of a word without quotes and expansions. -/
def plainText? : Word → Option String
  | [.text chars false] => some (String.ofList chars)
  | _ => none

/-- Whether a text is the name of a parameter. -/
def isName (text : String) : Bool :=
  text.toList.all isNameChar && text.toList.head?.any fun char => !char.isDigit

/-- A text in quotes. -/
def inQuotes (text : String) : String := "\"" ++ text ++ "\""

/-- The words for a piece of a script. -/
def Lexeme.label : Lexeme → String
  | operator "\n" => "newline"
  | operator text => inQuotes text
  | stream _ => "redirection"
  | word parts =>
    match plainText? parts with
    | some text => if reservedWords.contains text then inQuotes text else "word"
    | none => "word"

/-- Reading a script from its pieces. -/
abbrev ScriptReader := StateT (List PlacedLexeme) (Except SyntaxFault)

namespace ScriptReader

/-- The next piece. -/
def peek : ScriptReader (Option Lexeme) := do return (← get).head?.map (·.lexeme)

/-- The line of the next piece. -/
def line : ScriptReader Nat := do return ((← get).head?.map (·.line)).getD 1

/-- Go over the next piece. -/
def skip : ScriptReader Unit := modify List.tail

/-- Fail at the next piece. -/
def refuse {α : Type} (expected? : Option String) : ScriptReader α := do
  throw (.unexpected (((← peek).map Lexeme.label).getD endOfFile) expected?)

/-- Go over an operator if it is next. -/
def accept (operator : String) : ScriptReader Bool := do
  if (← peek) == some (.operator operator) then
    skip
    return true
  else return false

/-- Go over a reserved word if it is next. -/
def acceptWord (text : String) : ScriptReader Bool := do
  if (← peek) == some (.word [.text text.toList false]) then
    skip
    return true
  else return false

/-- Go over an operator that has to be next. -/
def expect (operator : String) : ScriptReader Unit := do
  unless ← accept operator do refuse (some (inQuotes operator))

/-- Go over a reserved word that has to be next. -/
def expectWord (text : String) : ScriptReader Unit := do
  unless ← acceptWord text do refuse (some (inQuotes text))

/-- Go over line ends, at most `count` of them. -/
def skipLines : Nat → ScriptReader Unit
  | 0 => return ()
  | count + 1 => do if ← accept "\n" then skipLines count

/-- Read a word. -/
def word : ScriptReader Word := do
  match ← peek with
  | some (.word word) =>
    skip
    return word
  | _ => refuse none

/-- Read the rest of a redirection of a stream. -/
def redirectionOf? (stream? : Option Nat) : ScriptReader (Option Redirection) := do
  if ← accept ">>" then return some (.output (stream?.getD 1) (← word) true)
  else if ← accept ">&" then return some (.duplicate (stream?.getD 1) (← word))
  else if ← accept "<&" then return some (.duplicate (stream?.getD 0) (← word))
  else if ← accept ">|" then return some (.output (stream?.getD 1) (← word) false)
  else if ← accept ">" then return some (.output (stream?.getD 1) (← word) false)
  else if ← accept "<" then return some (.input (← word))
  else return none

/-- Read a redirection, if there is one. -/
def redirection? : ScriptReader (Option Redirection) := do
  match ← peek with
  | some (.stream number) =>
    skip
    redirectionOf? (some number)
  | _ => redirectionOf? none

/-- Read redirections, at most `count` of them. -/
def redirections : Nat → ScriptReader (List Redirection)
  | 0 => return []
  | count + 1 => do
    match ← redirection? with
    | some redirection => return redirection :: (← redirections count)
    | none => return []

/-- Read words, at most `count` of them. -/
def wordsWithin : Nat → ScriptReader (List Word)
  | 0 => return []
  | count + 1 => do
    match ← peek with
    | some (.word word) =>
      skip
      return word :: (← wordsWithin count)
    | _ => return []

/-- Read the words and redirections of a command, at most `count` of them. -/
def elements : Nat → ScriptReader (List Word × List Redirection)
  | 0 => return ([], [])
  | count + 1 => do
    match ← redirection? with
    | some redirection =>
      let (words, redirections) ← elements count
      return (words, redirection :: redirections)
    | none =>
      match ← peek with
      | some (.word word) =>
        skip
        let (words, redirections) ← elements count
        return (word :: words, redirections)
      | _ => return ([], [])

/-- Whether a list ends here. -/
def atEnd : ScriptReader Bool := do
  match ← peek with
  | none => return true
  | some (.operator text) => return text == ")" || text == ";;"
  | some (.word word) => return (plainText? word).any endingWords.contains
  | _ => return false

/-- Read patterns with bars between them, at most `count` of them. -/
def patterns : Nat → ScriptReader (List Word)
  | 0 => refuse none
  | count + 1 => do
    let first ← word
    if ← accept "|" then return first :: (← patterns count) else return [first]

mutual

/-- Read a command that may hold others. All readers go at most `depth` steps deep. -/
def unit (depth : Nat) : ScriptReader Script :=
  match depth with
  | 0 => refuse none
  | depth + 1 => do
    match ← compound? depth with
    | some body =>
      match ← redirections depth with
      | [] => return body
      | redirections => return .redirected body redirections
    | none =>
      let line ← line
      if ← atEnd then refuse none
      let (words, redirections) ← elements depth
      match words, redirections with
      | [], [] => refuse none
      | [name], [] =>
        if ← accept "(" then
          expect ")"
          skipLines depth
          match plainText? name with
          | some name => return .function name (← unit depth)
          | none => refuse none
        else return .command line words redirections
      | _, _ => return .command line words redirections

/-- Read a command that starts with a bracket or a reserved word. -/
def compound? (depth : Nat) : ScriptReader (Option Script) :=
  match depth with
  | 0 => refuse none
  | depth + 1 => do
    if ← accept "(" then
      let body ← list depth
      expect ")"
      return some (.isolated body)
    else if ← acceptWord "\x7b" then
      let body ← list depth
      expectWord "\x7d"
      return some body
    else if ← acceptWord "if" then return some (← branches depth)
    else if ← acceptWord "while" then return some (.loop false (← list depth) (← doGroup depth))
    else if ← acceptWord "until" then return some (.loop true (← list depth) (← doGroup depth))
    else if ← acceptWord "for" then
      let name? := (plainText? (← word)).filter isName
      skipLines depth
      let items? ← (do
        if ← acceptWord "in" then
          let items ← wordsWithin depth
          unless (← accept ";") || (← accept "\n") do refuse none
          return some items
        else
          let _ ← accept ";"
          return none)
      skipLines depth
      match name? with
      | some name => return some (.each name items? (← doGroup depth))
      | none => throw .badLoopName
    else if ← acceptWord "case" then
      let subject ← word
      skipLines depth
      expectWord "in"
      return some (← fittings depth subject)
    else return none

/-- Read commands between `do` and `done`. -/
def doGroup (depth : Nat) : ScriptReader Script :=
  match depth with
  | 0 => refuse none
  | depth + 1 => do
    expectWord "do"
    let body ← list depth
    expectWord "done"
    return body

/-- Read a condition and what depends on it, behind `if` or `elif`. -/
def branches (depth : Nat) : ScriptReader Script :=
  match depth with
  | 0 => refuse none
  | depth + 1 => do
    let condition ← list depth
    expectWord "then"
    let success ← list depth
    if ← acceptWord "elif" then return .branch condition success (← branches depth)
    else if ← acceptWord "else" then
      let failure ← list depth
      expectWord "fi"
      return .branch condition success failure
    else
      expectWord "fi"
      return .branch condition success .nothing

/-- Read patterns and what depends on them, up to `esac`. -/
def fittings (depth : Nat) (subject : Word) : ScriptReader Script :=
  match depth with
  | 0 => refuse none
  | depth + 1 => do
    skipLines depth
    if ← acceptWord "esac" then return .nothing
    if (← peek).isNone then refuse (some (inQuotes ")"))
    let _ ← accept "("
    let patterns ← patterns depth
    expect ")"
    skipLines depth
    let body ← (do if ← atEnd then return .nothing else list depth)
    if ← accept ";;" then return .fitting subject patterns body (← fittings depth subject)
    else
      expectWord "esac"
      return .fitting subject patterns body .nothing

/-- Read commands with pipes between them. -/
def pipeline (depth : Nat) : ScriptReader Script :=
  match depth with
  | 0 => refuse none
  | depth + 1 => do
    let first ← unit depth
    if ← accept "|" then
      skipLines depth
      return .pipe first (← pipeline depth)
    else return first

/-- Read a pipeline that may be negated. -/
def signed (depth : Nat) : ScriptReader Script :=
  match depth with
  | 0 => refuse none
  | depth + 1 => do
    if ← acceptWord "!" then return .negated (← pipeline depth) else pipeline depth

/-- Read what follows a pipeline that depends on its success. -/
def chain (depth : Nat) (first : Script) : ScriptReader Script :=
  match depth with
  | 0 => refuse none
  | depth + 1 => do
    if ← accept "&&" then
      skipLines depth
      chain depth (.both first (← signed depth))
    else if ← accept "||" then
      skipLines depth
      chain depth (.either first (← signed depth))
    else return first

/-- Read a list of at least one command, unless nothing is left. -/
def list (depth : Nat) : ScriptReader Script :=
  match depth with
  | 0 => refuse none
  | depth + 1 => do
    skipLines depth
    if (← peek).isNone then return .nothing
    let first ← chain depth (← signed depth)
    listRest depth first

/-- Read the rest of a list. -/
def listRest (depth : Nat) (first : Script) : ScriptReader Script :=
  match depth with
  | 0 => refuse none
  | depth + 1 => do
    let isBackground ← accept "&"
    let first := if isBackground then .background first else first
    let isClosed ← (do
      if isBackground then return true
      else if ← accept ";" then return true
      else accept "\n")
    skipLines depth
    if ← atEnd then return first
    else if isClosed then return .sequence first (← list depth)
    else refuse none

end

/-- Read the commands up to the end of a line. -/
def lineList (depth : Nat) : Nat → ScriptReader Script
  | 0 => refuse none
  | count + 1 => do
    let first ← chain depth (← signed depth)
    let isBackground ← accept "&"
    let first := if isBackground then .background first else first
    let isClosed ← (do if isBackground then return true else accept ";")
    if ← accept "\n" then return first
    else if (← peek).isNone then return first
    else if isClosed then return .sequence first (← lineList depth count)
    else refuse none

end ScriptReader

/-- Read the next line of commands; none if nothing is left. -/
def readLine? (lexemes : List PlacedLexeme) :
    Except SyntaxFault (Option (Script × List PlacedLexeme)) :=
  let lexemes := lexemes.dropWhile (·.lexeme == .operator "\n")
  if lexemes.isEmpty then .ok none
  else
    (ScriptReader.lineList (8 * lexemes.length + 8) (lexemes.length + 1) lexemes).map some

end Scaffold.Shell
