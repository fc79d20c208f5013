import Scaffold.CommandLine.Argument
import Scaffold.CommandLine.Usage

/-!
# Matches of a command line

What the words of a command line say of the arguments of a program: the values found by their flags,
each with its source, for the program itself and for the command that was chosen.
-/

namespace Scaffold

/-- Who says the value of an argument. -/
inductive ValueSource where
  /-- The program, as nobody else does. -/
  | default
  /-- A word of the command line. -/
  | commandLine
  deriving Repr, DecidableEq

/-- The value found for an argument. -/
structure MatchedArgument where
  /-- The value. -/
  value : ArgumentValue
  /-- Who says it. -/
  source : ValueSource
  deriving Repr, DecidableEq

/-- What is found for an argument that no word gives: its default, if it has one. -/
def ArgumentSpec.unspoken? (argument : ArgumentSpec) : Option MatchedArgument :=
  argument.defaultValue?.map (MatchedArgument.mk · .default)

/-- The values found at one level of a command line, before or behind the name of the command. -/
structure ArgumentMatches where
  /-- The values by their flags; of equal flags the first one counts. -/
  entries : List (String × MatchedArgument)
  deriving Repr, DecidableEq

namespace ArgumentMatches

/-- What is found for a flag. -/
def find? (found : ArgumentMatches) (flag : String) : Option MatchedArgument :=
  found.entries.lookup flag

/-- Who says the value of a flag. -/
def source? (found : ArgumentMatches) (flag : String) : Option ValueSource :=
  (found.find? flag).map (·.source)

/-- The yes or no found for a flag. -/
def truth? (found : ArgumentMatches) (flag : String) : Option Bool :=
  match found.find? flag with
  | some ⟨.truth value, _⟩ => some value
  | _ => none

/-- The text found for a flag. -/
def text? (found : ArgumentMatches) (flag : String) : Option String :=
  match found.find? flag with
  | some ⟨.text text, _⟩ => some text
  | _ => none

/-- Whether a switch is on. -/
def isOn (found : ArgumentMatches) (flag : String) : Bool := (found.truth? flag).getD false

end ArgumentMatches

/-- The values found on a command line. -/
structure ProgramMatches where
  /-- Those of the program. -/
  outer : ArgumentMatches
  /-- The name of the command chosen, and the values found behind it. -/
  command? : Option (String × ArgumentMatches)
  deriving Repr, DecidableEq

/-- What follows the words of a command line, the first of which names the program, by what the
program says of its arguments. -/
def ArgumentReader : Type := ProgramSpec → List String → Except UsageError ProgramMatches

end Scaffold
