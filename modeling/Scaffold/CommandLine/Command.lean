import Scaffold.CommandLine.Argument
import Scaffold.Registry

/-!
# The command of a program

What can be given on the command line of a program: three switches, and every registered blueprint
as a command whose flags are its parameters.
-/

namespace Scaffold

/-- The version of this library, which a program shows beside its own. -/
def libraryVersion : String := "0.1.0"

/-- A switch of every command. -/
inductive Switch where
  /-- Apply changes without asking. -/
  | yes
  /-- Show the changes and write nothing. -/
  | dryRun
  /-- Tell more. -/
  | verbose
  deriving Repr, DecidableEq

namespace Switch

/-- All switches. -/
def all : List Switch := [yes, dryRun, verbose]

/-- The flag of a switch. -/
def flag : Switch → String
  | yes => "yes"
  | dryRun => "dry-run"
  | verbose => "verbose"

/-- The letter that stands for a switch. -/
def letter? : Switch → Option Char
  | yes => some 'y'
  | dryRun => none
  | verbose => some 'v'

/-- What a switch does. -/
def help : Switch → String
  | yes => "Apply changes without asking for confirmation"
  | dryRun => "Show the changes without writing anything"
  | verbose => "Print debug diagnostics"

/-- A switch as an argument: it can be given to every command, is off where it is not given, and is
turned on by its flag alone. -/
def argument (switch : Switch) : ArgumentSpec where
  flag := switch.flag
  letter? := switch.letter?
  help := switch.help
  isGlobal := true
  takesValue := false
  reader := .truth
  missing? := some "true"
  default? := some "false"

end Switch

/-- A parameter as an argument. Its flag is needed if nobody is asked for the value. A yes or no
takes its value behind an equals sign, and its flag alone is a yes; a text takes its value either
way, and that of a choice must be one of the choices. -/
def Parameter.argument (parameter : Parameter) : ArgumentSpec :=
  let plain : ArgumentSpec :=
    { flag := parameter.name, help := parameter.description, required := parameter.isFlagOnly,
      takesValue := true, valueName? := some parameter.name, reader := .anyText }
  match parameter.kind with
  | .boolean =>
    { plain with
      needsEquals := true, valueName? := none, reader := .truth, missing? := some "true" }
  | .choice choices => { plain with reader := .oneOf choices }
  | .text | .file | .directory => plain

/-- A registered blueprint as a subcommand. -/
def RegistryEntry.command {β : Type} [Declared β] (entry : RegistryEntry β) : CommandSpec :=
  ⟨entry.name, entry.about, none, (Declared.parameters entry.blueprint).map Parameter.argument⟩

/-- The version of a program with that of this library. -/
def fullVersion (version : String) : String := version ++ " (core " ++ libraryVersion ++ ")"

/-- The program with the blueprints of a registry. -/
def Registry.program {β : Type} [Declared β] (name about version : String)
    (registry : Registry β) : ProgramSpec :=
  ⟨⟨name, about, some (fullVersion version), Switch.all.map Switch.argument⟩,
    registry.entries.map RegistryEntry.command⟩

end Scaffold
