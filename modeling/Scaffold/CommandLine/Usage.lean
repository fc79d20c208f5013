/-!
# Usage errors

Why a command line could not be followed. Two of the causes are wishes and not mistakes: to see the
help, or the version.
-/

namespace Scaffold

/-- Why a command line could not be followed. -/
inductive UsageError where
  /-- The help was asked for. -/
  | helpWanted
  /-- The version was asked for. -/
  | versionWanted
  /-- A flag is not known, or a word stands where none may. -/
  | unknownArgument
  /-- A word is not the name of a command. -/
  | invalidCommand
  /-- A flag lacks its value, or the value is none that it takes. -/
  | invalidValue
  /-- A flag that is needed is missing. -/
  | missingFlag
  /-- A flag is given twice. -/
  | repeatedFlag
  /-- A flag has a value but takes none. -/
  | needlessValue
  deriving Repr, DecidableEq

/-- The exit code of a program that ends so. -/
def UsageError.exitCode : UsageError → Nat
  | .helpWanted => 0
  | .versionWanted => 0
  | _ => 2

end Scaffold
