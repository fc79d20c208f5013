import Scaffold.Host.Memory
import Scaffold.Host.Rooted

/-!
# Workspaces

Worlds that have a disk besides the files that changes are made to. Templates are loaded from the
disk and commands run on it; changes may go to the disk itself, or to files in memory.
-/

namespace Scaffold

/-- Worlds with a disk. -/
class HasDisk (ω : Type) where
  /-- The disk. -/
  disk : ω → Disk
  /-- The world with another disk. -/
  withDisk : Disk → ω → ω

instance : HasDisk RootedDisk where
  disk := RootedDisk.disk
  withDisk disk host := { host with disk := disk }

/-- Files in memory beside a disk. -/
structure Workspace where
  /-- The files that changes are made to. -/
  files : MemoryHost
  /-- The disk. -/
  disk : Disk
  deriving Repr, DecidableEq, Inhabited

namespace Workspace

/-- Run a task on the files. -/
def onFiles {ε α : Type} (task : Task ε MemoryHost α) : Task ε Workspace α := fun workspace =>
  match task workspace.files with
  | .ok value files => .ok value { workspace with files := files }
  | .error error files => .error error { workspace with files := files }

instance : FileHost Workspace where
  read path := onFiles (FileHost.read path)
  write path content := onFiles (FileHost.write path content)
  has path workspace := FileHost.has path workspace.files
  ensureFile path := onFiles (FileHost.ensureFile path)

instance : HasDisk Workspace where
  disk := Workspace.disk
  withDisk disk workspace := { workspace with disk := disk }

end Workspace

end Scaffold
