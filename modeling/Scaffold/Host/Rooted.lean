import Scaffold.Disk
import Scaffold.Host

/-!
# Files on disk

A host whose files are those of a disk. Relative paths are taken from a root, if one is given, and
from the working directory otherwise; an error names the path so taken.
-/

namespace Scaffold

/-- A disk with the place from which paths are taken. -/
structure RootedDisk where
  /-- The disk. -/
  disk : Disk
  /-- From where relative paths are taken. -/
  root? : Option Path
  deriving Repr, DecidableEq, Inhabited

namespace RootedDisk

/-- The path that is meant by a path. -/
def resolve (host : RootedDisk) (path : Path) : Path :=
  match host.root? with
  | some root => if path.isAbsolute then path else root.join path
  | none => path

/-- The content of a file, empty if it is absent. -/
def readAt (disk : Disk) (path : Path) : Except ChangeError String :=
  match disk.readText path with
  | .ok content => .ok content
  | .error fault => if fault = .notFound then .ok "" else .error (.access path fault)

/-- Set the content of a file. -/
def writeAt (path : Path) (content : String) : Task ChangeError Disk Unit := fun disk =>
  match disk.writeContent path (.text content) with
  | .ok disk => .ok () disk
  | .error fault => .error (.access path fault) disk

/-- Create the directories that lead to a path. -/
def prepareParent (path : Path) : Task ChangeError Disk Unit := fun disk =>
  match path.parent? with
  | some parent =>
    match Disk.createDirectories parent disk with
    | .ok _ disk => .ok () disk
    | .error fault disk => .error (.access parent fault) disk
  | none => .ok () disk

/-- Create a file empty, and the directories that lead to it, unless there is something. -/
def ensureAt (path : Path) : Task ChangeError Disk Unit := do
  if (← get).has path then return ()
  prepareParent path
  writeAt path ""

/-- Run a task on the disk. -/
def onDisk {ε α : Type} (task : Task ε Disk α) : Task ε RootedDisk α := fun host =>
  match task host.disk with
  | .ok value disk => .ok value { host with disk := disk }
  | .error error disk => .error error { host with disk := disk }

instance : FileHost RootedDisk where
  read path := fun host =>
    match readAt host.disk (host.resolve path) with
    | .ok content => .ok content host
    | .error error => .error error host
  write path content := fun host => onDisk (writeAt (host.resolve path) content) host
  has path host := host.disk.has (host.resolve path)
  ensureFile path := fun host => onDisk (ensureAt (host.resolve path)) host

end RootedDisk

end Scaffold
