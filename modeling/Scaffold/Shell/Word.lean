/-!
# Words of a shell

The text of a script is cut into words and operators. A word is a row of pieces: text that is quoted
or not, and expansions, which are replaced when the word is used.
-/

namespace Scaffold.Shell

/-- What an expansion asks for. -/
inductive Expansion where
  /-- The value of a parameter. -/
  | parameter (name : String)
  /-- The number of characters of a parameter. -/
  | size (name : String)
  /-- The value of a parameter, or what an operator makes of it and of a word. -/
  | choice (name operator word : String)
  /-- The output of a script. -/
  | output (script : String)
  /-- The value of an arithmetic expression. -/
  | value (expression : String)
  deriving Repr, DecidableEq

/-- A piece of a word. -/
inductive WordPart where
  | text (chars : List Char) (quoted : Bool)
  | expansion (expansion : Expansion) (quoted : Bool)
  deriving Repr, DecidableEq

/-- A word; its pieces are put together. -/
abbrev Word := List WordPart

/-- A piece of a script. -/
inductive Lexeme where
  | word (word : Word)
  /-- The number of a stream in front of a redirection. -/
  | stream (number : Nat)
  | operator (text : String)
  deriving Repr, DecidableEq

/-- A piece of a script and its line. -/
structure PlacedLexeme where
  lexeme : Lexeme
  line : Nat
  deriving Repr, DecidableEq

/-- Why a text is no script. -/
inductive SyntaxFault where
  | unterminatedQuote
  | unterminatedBackquote
  | missingBrace
  | badLoopName
  /-- Something stands where it may not; with what should stand there, if only one thing may. -/
  | unexpected (found : String) (expected? : Option String)
  deriving Repr, DecidableEq

/-- The words for a fault. -/
def SyntaxFault.message : SyntaxFault → String
  | unterminatedQuote => "Syntax error: Unterminated quoted string"
  | unterminatedBackquote => "Syntax error: EOF in backquote substitution"
  | missingBrace => "Syntax error: Missing '\x7d'"
  | badLoopName => "Syntax error: Bad for loop variable"
  | unexpected found none => "Syntax error: " ++ found ++ " unexpected"
  | unexpected found (some expected) =>
    "Syntax error: " ++ found ++ " unexpected (expecting " ++ expected ++ ")"

/-- The words for the end of a text. -/
def endOfFile : String := "end of file"

/-- The operators, the longer ones first. -/
def operators : List (List Char) :=
  [['&', '&'], ['|', '|'], [';', ';'], ['>', '>'], ['>', '&'], ['<', '&'], ['>', '|'], [';'], ['|'],
    ['>'], ['<'], ['('], [')'], ['\n'], ['&']]

/-- How the next character is quoted. -/
inductive Quoting where
  | unquoted
  | single
  | double
  | comment
  deriving Repr, DecidableEq

/-- The number of characters before the closing bracket that matches an opening one before them.
`depth` counts the brackets opened since, `escaped` tells whether the next character stands behind a
backslash. -/
def lengthInside? (opening closing : Char) (depth : Nat) (quoting : Quoting) (escaped : Bool) :
    List Char → Option Nat
  | [] => none
  | char :: rest =>
    let next (depth : Nat) (quoting : Quoting) (escaped : Bool) : Option Nat :=
      (lengthInside? opening closing depth quoting escaped rest).map (· + 1)
    if escaped then next depth quoting false
    else if quoting == .single then next depth (if char == '\x27' then .unquoted else .single) false
    else if char == '\\' then next depth quoting true
    else if quoting == .double then next depth (if char == '\x22' then .unquoted else .double) false
    else if char == '\x22' then next depth .double false
    else if char == '\x27' then next depth .single false
    else if char == opening then next (depth + 1) quoting false
    else if char == closing then
      match depth with
      | 0 => some 0
      | depth + 1 => next depth quoting false
    else next depth quoting false

/-- Whether a name can hold the character. -/
def isNameChar (char : Char) : Bool := char.isAlphanum || char == '_'

/-- Whether the name of a parameter consists of the character alone. -/
def isSpecialName (char : Char) : Bool :=
  ['?', '$', '!', '#', '@', '*', '-'].contains char || char.isDigit

/-- The name of a parameter at the start of a text. -/
def nameAt (chars : List Char) : List Char :=
  match chars with
  | char :: _ => if isSpecialName char then [char] else chars.takeWhile isNameChar
  | [] => []

/-- The operators between the name of a parameter and a word, the longer ones first. -/
def choiceOperators : List (List Char) :=
  [[':', '-'], [':', '='], [':', '+'], [':', '?'], ['#', '#'], ['%', '%'], ['-'], ['='], ['+'],
    ['?'], ['#'], ['%']]

/-- The expansion within braces. -/
def bracedExpansion? (inside : List Char) : Option Expansion :=
  match inside with
  | '#' :: (first :: rest) =>
    if nameAt (first :: rest) == first :: rest then some (.size (String.ofList (first :: rest)))
    else none
  | _ =>
    let name := nameAt inside
    let behind := inside.drop name.length
    if name.isEmpty then none
    else if behind.isEmpty then some (.parameter (String.ofList name))
    else
      (choiceOperators.find? (·.isPrefixOf behind)).map fun operator =>
        .choice (String.ofList name) (String.ofList operator)
          (String.ofList (behind.drop operator.length))

/-- The expansion behind a dollar sign, if there is one, and the number of its characters. -/
def expansionAt? (chars : List Char) : Except SyntaxFault (Option (Expansion × Nat)) :=
  let inside (opening closing : Char) (rest : List Char) : Option (List Char) :=
    (lengthInside? opening closing 0 .unquoted false rest).map rest.take
  match chars with
  | '(' :: '(' :: rest =>
    match inside '(' ')' ('(' :: rest) with
    | none => .error (.unexpected endOfFile (some "\")\""))
    | some script =>
      if script.getLast? == some ')' then
        .ok (some (.value (String.ofList script.tail.dropLast), script.length + 2))
      else .ok (some (.output (String.ofList script), script.length + 2))
  | '(' :: rest =>
    match inside '(' ')' rest with
    | none => .error (.unexpected endOfFile (some "\")\""))
    | some script => .ok (some (.output (String.ofList script), script.length + 2))
  | '\x7b' :: rest =>
    match inside '\x7b' '\x7d' rest with
    | none => .error .missingBrace
    | some text => .ok ((bracedExpansion? text).map (·, text.length + 2))
  | _ =>
    let name := nameAt chars
    .ok (if name.isEmpty then none else some (.parameter (String.ofList name), name.length))

/-- The script between backquotes, where a backslash may stand before a few characters, and the
number of its characters with the closing quote. -/
def backquoted? : List Char → Option (List Char × Nat)
  | [] => none
  | '\\' :: char :: rest =>
    (backquoted? rest).map fun (script, length) =>
      (if ['\\', '\x60', '$'].contains char then char :: script else '\\' :: char :: script,
        length + 2)
  | char :: rest =>
    if char == '\x60' then some ([], 1)
    else (backquoted? rest).map fun (script, length) => (char :: script, length + 1)

/-- A word that is being read. -/
structure OpenWord where
  /-- The pieces, the last one first. -/
  reversed : List WordPart
  /-- Whether anything was read. -/
  begun : Bool
  deriving Repr

namespace OpenWord

/-- No word yet. -/
def fresh : OpenWord := ⟨[], false⟩

/-- The word with a character more. -/
def add (quoted : Bool) (char : Char) (word : OpenWord) : OpenWord :=
  match word.reversed with
  | .text chars before :: rest =>
    if before == quoted then ⟨.text (chars ++ [char]) quoted :: rest, true⟩
    else ⟨.text [char] quoted :: word.reversed, true⟩
  | parts => ⟨.text [char] quoted :: parts, true⟩

/-- The word with an expansion more. -/
def expand (quoted : Bool) (expansion : Expansion) (word : OpenWord) : OpenWord :=
  ⟨.expansion expansion quoted :: word.reversed, true⟩

/-- The word with a quote opened. -/
def quote (word : OpenWord) : OpenWord := ⟨.text [] true :: word.reversed, true⟩

end OpenWord

/-- What was read of a script. -/
structure LexState where
  /-- The line of the next character. -/
  line : Nat
  /-- The word that is being read. -/
  word : OpenWord
  /-- The pieces, the last one first. -/
  reversed : List PlacedLexeme
  deriving Repr

namespace LexState

/-- The state at the start. -/
def start : LexState := ⟨1, .fresh, []⟩

/-- The state with the word that is being read ended. -/
def close (state : LexState) : LexState :=
  if state.word.begun then
    { state with
      word := .fresh
      reversed := ⟨.word state.word.reversed.reverse, state.line⟩ :: state.reversed }
  else state

/-- The state with an operator read. Digits directly before a redirection are the number of a
stream. -/
def operator (text : List Char) (state : LexState) : LexState :=
  let redirects := text.head?.any ['<', '>'].contains
  let closed :=
    match state.word.reversed with
    | [.text chars false] =>
      if redirects && chars.all Char.isDigit then
        { state with
          word := .fresh
          reversed :=
            ⟨.stream ((String.ofList chars).toNat?.getD 0), state.line⟩ :: state.reversed }
      else state.close
    | _ => state.close
  { closed with
    reversed := ⟨.operator (String.ofList text), closed.line⟩ :: closed.reversed }

/-- The state with another word. -/
def withWord (word : OpenWord) (state : LexState) : LexState := { state with word := word }

/-- The state behind a character. -/
def behind (char : Char) (state : LexState) : LexState :=
  if char == '\n' then { state with line := state.line + 1 } else state

end LexState

/-- What stands at a character that may start an expansion: the expansion and the number of its
characters behind that one. -/
def expansionFrom? (char : Char) (rest : List Char) :
    Except SyntaxFault (Option (Expansion × Nat)) :=
  if char == '$' then expansionAt? rest
  else if char == '\x60' then
    match backquoted? rest with
    | some (script, length) => .ok (some (.output (String.ofList script), length))
    | none => .error .unterminatedBackquote
  else .ok none

/-- Cut a script into words and operators; `skip` counts characters that were taken already. -/
def lexemesFrom (skip : Nat) (quoting : Quoting) (state : LexState) :
    List Char → Except SyntaxFault LexState
  | [] =>
    if quoting == .single || quoting == .double then .error .unterminatedQuote
    else .ok state.close
  | char :: rest =>
    let behind := state.behind char
    match skip, quoting with
    | skip + 1, _ => lexemesFrom skip quoting behind rest
    | 0, .comment =>
      if char == '\n' then lexemesFrom 0 .unquoted ((state.operator ['\n']).behind char) rest
      else lexemesFrom 0 .comment state rest
    | 0, .single =>
      if char == '\x27' then lexemesFrom 0 .unquoted state rest
      else lexemesFrom 0 .single (behind.withWord (state.word.add true char)) rest
    | 0, .double =>
      if char == '\x22' then lexemesFrom 0 .unquoted state rest
      else if char == '\\' then
        match rest with
        | [] => .error .unterminatedQuote
        | next :: _ =>
          if next == '\n' then lexemesFrom 1 .double state rest
          else if ['$', '\x60', '\x22', '\\'].contains next then
            lexemesFrom 1 .double (state.withWord (state.word.add true next)) rest
          else lexemesFrom 0 .double (state.withWord (state.word.add true char)) rest
      else
        match expansionFrom? char rest with
        | .error fault => .error fault
        | .ok (some (expansion, length)) =>
          lexemesFrom length .double (state.withWord (state.word.expand true expansion)) rest
        | .ok none => lexemesFrom 0 .double (behind.withWord (state.word.add true char)) rest
    | 0, .unquoted =>
      if char == ' ' || char == '\t' then lexemesFrom 0 .unquoted state.close rest
      else if char == '#' && !state.word.begun then lexemesFrom 0 .comment state rest
      else if char == '\x27' then lexemesFrom 0 .single (state.withWord state.word.quote) rest
      else if char == '\x22' then lexemesFrom 0 .double (state.withWord state.word.quote) rest
      else if char == '\\' then
        match rest with
        | [] => lexemesFrom 0 .unquoted (state.withWord (state.word.add true char)) rest
        | next :: _ =>
          if next == '\n' then lexemesFrom 1 .unquoted state rest
          else lexemesFrom 1 .unquoted (state.withWord (state.word.add true next)) rest
      else
        match operators.find? (·.isPrefixOf (char :: rest)) with
        | some operator =>
          lexemesFrom (operator.length - 1) .unquoted ((state.operator operator).behind char) rest
        | none =>
          match expansionFrom? char rest with
          | .error fault => .error fault
          | .ok (some (expansion, length)) =>
            lexemesFrom length .unquoted (state.withWord (state.word.expand false expansion)) rest
          | .ok none => lexemesFrom 0 .unquoted (state.withWord (state.word.add false char)) rest

/-- The words and operators of a script. -/
def lexemes (text : String) : Except SyntaxFault (List PlacedLexeme) :=
  (lexemesFrom 0 .unquoted .start text.toList).map (·.reversed.reverse)

/-- Read a text as one word in which only expansions and quotes count. -/
def wordFrom (skip : Nat) (quoting : Quoting) (quoted : Bool) (word : OpenWord) :
    List Char → OpenWord
  | [] => word
  | char :: rest =>
    match skip with
    | skip + 1 => wordFrom skip quoting quoted word rest
    | 0 =>
      if quoting == .single then
        if char == '\x27' then wordFrom 0 .unquoted quoted word rest
        else wordFrom 0 .single quoted (word.add true char) rest
      else if char == '\x22' then
        wordFrom 0 (if quoting == .double then .unquoted else .double) quoted word.quote rest
      else if char == '\x27' && quoting == .unquoted && !quoted then
        wordFrom 0 .single quoted word.quote rest
      else
        let isQuoted := quoted || quoting == .double
        match char, rest with
        | '\\', next :: _ => wordFrom 1 quoting quoted (word.add true next) rest
        | _, _ =>
          match expansionFrom? char rest with
          | .ok (some (expansion, length)) =>
            wordFrom length quoting quoted (word.expand isQuoted expansion) rest
          | _ => wordFrom 0 quoting quoted (word.add isQuoted char) rest

/-- The word that a text within braces stands for. -/
def Word.ofText (quoted : Bool) (text : String) : Word :=
  (wordFrom 0 .unquoted quoted .fresh text.toList).reversed.reverse

end Scaffold.Shell
