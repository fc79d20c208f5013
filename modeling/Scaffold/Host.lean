import Scaffold.Change.Error

/-!
# Hosts

A host is where changes read and write the content of files. Its operations may change it even
when they fail, and an absent file reads as empty.
-/

namespace Scaffold

/-- A task on a state that may fail; the state it leaves counts also then. -/
abbrev Task (ε σ α : Type) := EStateM ε σ α

/-- Access to the content of files. -/
class FileHost (ω : Type) where
  /-- The content of a file; empty if it is absent. -/
  read : Path → Task ChangeError ω String
  /-- Set the whole content of a file. -/
  write : Path → String → Task ChangeError ω Unit
  /-- Whether there is something at the path. -/
  has : Path → ω → Bool
  /-- Create the file empty unless there is something at the path. -/
  ensureFile : Path → Task ChangeError ω Unit

end Scaffold
