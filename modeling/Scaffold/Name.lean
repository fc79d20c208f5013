import Scaffold.Text.Letters

/-!
# Names

The names that can stand on a command line as a command or a flag, and those that are taken.
-/

namespace Scaffold.Name

/-- Whether a character can be part of a name. -/
def isNameChar (char : Char) : Bool :=
  Text.isAlphanumeric char || char == '-' || char == '_' || char == '.'

/-- Whether a text can be used as a command or a flag. -/
def isValid (name : String) : Bool :=
  name.toList.head?.any (· != '-') && name.toList.all isNameChar

/-- The flags of every command; no parameter may take their names. -/
def reservedFlags : List String := ["yes", "dry-run", "verbose", "help", "version"]

/-- The commands that exist besides the blueprints; no blueprint may take their names. -/
def reservedCommands : List String := ["help"]

end Scaffold.Name
