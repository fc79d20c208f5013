/-!
# Arguments of a command line

A program describes its arguments: their flags, whether they take a value and how its text is read,
what counts where the value or the whole argument is missing, and where they can be given. It has
commands with arguments of their own, and behind the name of a command its global arguments can be
given too.
-/

namespace Scaffold

/-- The value of an argument. -/
inductive ArgumentValue where
  /-- A yes or no. -/
  | truth (value : Bool)
  /-- A text. -/
  | text (value : String)
  deriving Repr, DecidableEq

/-- How the text of a value is read. -/
inductive ValueReader where
  /-- Any text is a value. -/
  | anyText
  /-- The choices are the values. -/
  | oneOf (choices : List String)
  /-- A value is a yes or no. -/
  | truth
  deriving Repr, DecidableEq

/-- The value that a text says. -/
def ValueReader.read? (reader : ValueReader) (text : String) : Option ArgumentValue :=
  match reader with
  | .anyText => some (.text text)
  | .oneOf choices => if choices.contains text then some (.text text) else none
  | .truth =>
    if text == "true" then some (.truth true)
    else if text == "false" then some (.truth false) else none

/-- An argument. -/
structure ArgumentSpec where
  /-- The flag. -/
  flag : String
  /-- The letter that stands for it; only arguments without a value have one. -/
  letter? : Option Char := none
  /-- What it is for. -/
  help : String
  /-- Whether it must be given. -/
  required : Bool := false
  /-- Whether it can be given to every command. -/
  isGlobal : Bool := false
  /-- Whether it takes a value at all. -/
  takesValue : Bool
  /-- Whether the value must be joined to the flag by an equals sign. -/
  needsEquals : Bool := false
  /-- The name of the value, if the help shows one. -/
  valueName? : Option String := none
  /-- How the text of the value is read. -/
  reader : ValueReader
  /-- The text that is read where the flag stands without a value, if it may. -/
  missing? : Option String := none
  /-- The text that is read where the argument is not given, if there is one. -/
  default? : Option String := none
  deriving Repr, DecidableEq

namespace ArgumentSpec

/-- The value of an argument that is given with a text, or with none. -/
def valueOf? (argument : ArgumentSpec) (text? : Option String) : Option ArgumentValue :=
  (text?.or argument.missing?).bind argument.reader.read?

/-- The value of an argument that is not given. -/
def defaultValue? (argument : ArgumentSpec) : Option ArgumentValue :=
  argument.default?.bind argument.reader.read?

end ArgumentSpec

/-- A command. -/
structure CommandSpec where
  /-- The name. -/
  name : String
  /-- What it is for. -/
  about : String
  /-- The version, if it has one of its own. -/
  version? : Option String
  /-- Its arguments. -/
  arguments : List ArgumentSpec
  deriving Repr, DecidableEq

/-- A program. -/
structure ProgramSpec where
  /-- The command without a subcommand. -/
  command : CommandSpec
  /-- The subcommands. -/
  subcommands : List CommandSpec
  deriving Repr, DecidableEq

namespace ProgramSpec

/-- The arguments that can be given to every command. -/
def globals (program : ProgramSpec) : List ArgumentSpec :=
  program.command.arguments.filter (·.isGlobal)

/-- The subcommand with a name. -/
def find? (program : ProgramSpec) (name : String) : Option CommandSpec :=
  program.subcommands.find? (·.name == name)

/-- A subcommand with all that can be given behind its name. -/
def level (program : ProgramSpec) (command : CommandSpec) : CommandSpec :=
  { command with arguments := command.arguments ++ program.globals }

end ProgramSpec

end Scaffold
