import Scaffold.CommandLine.Matches

/-!
# Following the words of a command line

Words are followed from left to right and the first mistake counts, except that a flag whose value
stands in a word of its own is settled only when the next known flag or the end is reached. A word
that names a command chooses it, and the words behind it are for its arguments and the global ones.
What is given of a global argument at one level counts at both.
-/

namespace Scaffold

/-- A word of a command line by its form. -/
inductive CommandWord where
  /-- Two hyphens alone; what follows are no flags. -/
  | separator
  /-- A flag with two hyphens, and a value joined by an equals sign. -/
  | flag (name : String) (value? : Option String)
  /-- Letters behind one hyphen. -/
  | letters (letters : List Char)
  /-- Any other word. -/
  | plain
  deriving Repr, DecidableEq

/-- The form of a word. -/
def CommandWord.of (word : String) : CommandWord :=
  match word.toList with
  | ['-', '-'] => .separator
  | '-' :: '-' :: rest =>
    let name := rest.takeWhile (· != '=')
    match rest.dropWhile (· != '=') with
    | [] => .flag (String.ofList name) none
    | _ :: value => .flag (String.ofList name) (some (String.ofList value))
  | '-' :: letter :: rest => .letters (letter :: rest)
  | _ => .plain

/-- An argument whose value may stand in the next word. -/
structure WaitingArgument where
  /-- The argument. -/
  argument : ArgumentSpec
  /-- The text of its value, once its word was met. -/
  text? : Option String
  deriving Repr, DecidableEq

/-- What was given at one level of a command line so far. -/
structure GivenArguments where
  /-- The values by their flags, the last one first. -/
  values : List (String × ArgumentValue)
  /-- The argument that waits for being settled. -/
  waiting? : Option WaitingArgument
  deriving Repr, DecidableEq

namespace GivenArguments

/-- Nothing given. -/
def start : GivenArguments := ⟨[], none⟩

/-- Whether an argument waits for the word of its value. -/
def isWaiting (given : GivenArguments) : Bool :=
  given.waiting?.any (·.text?.isNone)

/-- Take the value of an argument, which has one value only. -/
def accept (argument : ArgumentSpec) (text? : Option String) (given : GivenArguments) :
    Except UsageError GivenArguments :=
  match text?.or argument.missing? with
  | none => .error .invalidValue
  | some text =>
    if (given.values.lookup argument.flag).isSome then .error .repeatedFlag
    else
      match argument.reader.read? text with
      | some value => .ok { given with values := (argument.flag, value) :: given.values }
      | none => .error .invalidValue

/-- Settle the argument that waits, if there is one. -/
def settle (given : GivenArguments) : Except UsageError GivenArguments :=
  match given.waiting? with
  | none => .ok given
  | some ⟨argument, text?⟩ => { given with waiting? := none }.accept argument text?

/-- Take an argument with the text joined to its flag, or with none. The value of one that needs
no equals sign may stand in the next word. -/
def take (argument : ArgumentSpec) (text? : Option String) (given : GivenArguments) :
    Except UsageError GivenArguments :=
  if text?.isSome && !argument.takesValue then .error .needlessValue
  else do
    let given ← given.settle
    if text?.isNone && argument.takesValue && !argument.needsEquals then
      .ok { given with waiting? := some ⟨argument, none⟩ }
    else given.accept argument text?

/-- Stop for a wish, once the argument that waits is settled. A value joined to it is refused. -/
def stopFor (wish : UsageError) (text? : Option String) (given : GivenArguments) :
    Except UsageError GivenArguments :=
  if text?.isSome then .error .needlessValue
  else do
    let _ ← given.settle
    .error wish

/-- Take a flag. The help can always be asked for, and the version of a command that has one. -/
def takeFlag (command : CommandSpec) (flag : String) (text? : Option String)
    (given : GivenArguments) : Except UsageError GivenArguments :=
  match command.arguments.find? (·.flag == flag) with
  | some argument => given.take argument text?
  | none =>
    if flag == "help" then given.stopFor .helpWanted text?
    else if command.version?.isSome && flag == "version" then given.stopFor .versionWanted text?
    else .error .unknownArgument

/-- Take letters one after the other. -/
def takeLetters (command : CommandSpec) :
    List Char → GivenArguments → Except UsageError GivenArguments
  | [], given => .ok given
  | letter :: rest, given =>
    match command.arguments.find? (·.letter? == some letter) with
    | some argument => do takeLetters command rest (← given.take argument none)
    | none =>
      if letter == 'h' then given.stopFor .helpWanted none
      else if command.version?.isSome && letter == 'V' then given.stopFor .versionWanted none
      else .error .unknownArgument

/-- Take a word that is no flag: it is the value of the argument that waits for one. -/
def takePlain (word : String) (given : GivenArguments) : Except UsageError GivenArguments :=
  match given.waiting? with
  | some ⟨argument, none⟩ => .ok { given with waiting? := some ⟨argument, some word⟩ }
  | _ => .error .unknownArgument

/-- Follow the words behind the name of a command. -/
def takeWords (command : CommandSpec) :
    List String → GivenArguments → Except UsageError GivenArguments
  | [], given => given.settle
  | word :: rest, given =>
    match CommandWord.of word with
    | .separator => if rest.isEmpty then given.settle else .error .unknownArgument
    | .flag flag text? => do takeWords command rest (← given.takeFlag command flag text?)
    | .letters letters => do takeWords command rest (← given.takeLetters command letters)
    | .plain => do takeWords command rest (← given.takePlain word)

/-- Check that the arguments needed were given. -/
def checkNeeded (command : CommandSpec) (given : GivenArguments) : Except UsageError Unit :=
  let isMissing (argument : ArgumentSpec) :=
    argument.required && (given.values.lookup argument.flag).isNone
  if command.arguments.any isMissing then .error .missingFlag else .ok ()

/-- The values given, and those of the arguments that were not. -/
def found (command : CommandSpec) (given : GivenArguments) : ArgumentMatches :=
  let spoken := given.values.map fun entry => (entry.1, MatchedArgument.mk entry.2 .commandLine)
  ⟨spoken ++ command.arguments.filterMap fun argument =>
    argument.unspoken?.map (argument.flag, ·)⟩

end GivenArguments

namespace ProgramMatches

/-- What counts of a global argument: what is found behind the command, unless only a word before
it says something. -/
def stronger? (outer? inner? : Option MatchedArgument) : Option MatchedArgument :=
  match outer?, inner? with
  | some ⟨value, .commandLine⟩, some ⟨_, .default⟩ => some ⟨value, .commandLine⟩
  | _, _ => inner?.or outer?

/-- The values found on a command line that chooses a command; those of global arguments count at
both levels. -/
def join (globals : List ArgumentSpec) (outer : ArgumentMatches) (name : String)
    (inner : ArgumentMatches) : ProgramMatches :=
  let shared := globals.filterMap fun argument =>
    (stronger? (outer.find? argument.flag) (inner.find? argument.flag)).map (argument.flag, ·)
  ⟨⟨shared ++ outer.entries⟩, some (name, ⟨shared ++ inner.entries⟩)⟩

end ProgramMatches

namespace ProgramSpec

/-- What follows the word that asks for the help of a command: at most the name of one. -/
def helpFor (program : ProgramSpec) : List String → UsageError
  | [] => .helpWanted
  | [name] =>
    if (program.find? name).isSome || name == "help" then .helpWanted else .invalidCommand
  | _ => .invalidCommand

/-- The end of a command line that chooses no command. -/
def close (program : ProgramSpec) (outer : GivenArguments) : Except UsageError ProgramMatches := do
  let outer ← outer.settle
  outer.checkNeeded program.command
  return ⟨outer.found program.command, none⟩

/-- Follow the words behind the name of a command. -/
def readCommand (program : ProgramSpec) (outer : GivenArguments) (command : CommandSpec)
    (words : List String) : Except UsageError ProgramMatches := do
  let outer ← outer.settle
  let inner ← GivenArguments.start.takeWords (program.level command) words
  inner.checkNeeded (program.level command)
  outer.checkNeeded program.command
  return .join program.globals (outer.found program.command) command.name
    (inner.found (program.level command))

/-- Follow words that may still name a command. The value that an argument waits for is none. -/
def readFrom (program : ProgramSpec) :
    List String → GivenArguments → Except UsageError ProgramMatches
  | [], outer => program.close outer
  | word :: rest, outer =>
    match if outer.isWaiting then none else program.find? word with
    | some command => program.readCommand outer command rest
    | none =>
      let hasCommands := !program.subcommands.isEmpty
      if !outer.isWaiting && hasCommands && word == "help" then .error (program.helpFor rest)
      else
        match CommandWord.of word with
        | .separator => if rest.isEmpty then program.close outer else .error .unknownArgument
        | .flag flag text? => do
          program.readFrom rest (← outer.takeFlag program.command flag text?)
        | .letters letters => do
          program.readFrom rest (← outer.takeLetters program.command letters)
        | .plain =>
          if outer.isWaiting then do program.readFrom rest (← outer.takePlain word)
          else .error (if hasCommands then .invalidCommand else .unknownArgument)

/-- Follow the words of a command line, the first of which names the program. -/
def read (program : ProgramSpec) (words : List String) : Except UsageError ProgramMatches :=
  program.readFrom words.tail .start

end ProgramSpec

end Scaffold
