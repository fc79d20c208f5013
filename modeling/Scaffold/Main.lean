import Scaffold.Program

/-!
# The command line

The program on the disk of the machine. What stands in the working directory is read first, the
run itself is `Program.run`, and what the run changed is written afterwards. Nothing is decided
here. Entries outside of the working directory are not seen, and links that a run makes are not
made on the disk.
-/

namespace Scaffold

namespace Machine

/-- How many directories deep the working directory is read. -/
def depthLimit : Nat := 256

/-- The path of a place. -/
def pathOf (place : Place) : String := "/" ++ "/".intercalate place

/-- The entries made of what a directory lists, and what is below them. What cannot be read is
left out. -/
def entriesOf : Nat → Place → Array IO.FS.DirEntry → IO (List (Place × DiskEntry))
  | 0, _, _ => pure []
  | depth + 1, place, listed => do
    let found ← listed.toList.mapM fun item => do
      let here := place ++ [item.fileName]
      try
        match (← item.path.symlinkMetadata).type with
        | .dir => return (here, .directory) :: (← entriesOf depth here (← item.path.readDir))
        | .file => return [(here, .file (.ofBytes (← IO.FS.readBinFile item.path).toList))]
        | .symlink => return [(here, .link (← IO.FS.realPath item.path).toString)]
        | .other => return []
      catch _ => return []
    return found.flatten

/-- The disk of the machine, as far as the working directory reaches. -/
def load : IO Disk := do
  let here ← IO.currentDir
  let cwd := (Disk.steps here.toString).filter (· != "")
  let outer := (List.range cwd.length).map fun n => (cwd.take (n + 1), DiskEntry.directory)
  return ⟨outer ++ (← entriesOf depthLimit cwd (← here.readDir)), cwd⟩

/-- Whether an entry has to go before another may take its place. -/
def isObstacle (old : DiskEntry) (new : Option DiskEntry) : Bool :=
  match old, new with
  | .file _, some (.file _) => false
  | old, new => new != some old

/-- Take an entry away from the disk of the machine. -/
def remove (place : Place) : DiskEntry → IO Unit
  | .directory => IO.FS.removeDir (pathOf place)
  | .file _ => IO.FS.removeFile (pathOf place)
  | .link _ => IO.FS.removeFile (pathOf place)

/-- Put an entry on the disk of the machine. -/
def add (place : Place) : DiskEntry → IO Unit
  | .directory => IO.FS.createDirAll (pathOf place)
  | .file content => IO.FS.writeBinFile (pathOf place) ⟨content.bytes.toArray⟩
  | .link _ => pure ()

/-- Write what changed from one disk to another; entries are taken away from the last one to the
first, so that directories are empty when it is their turn. -/
def save (before after : Disk) : IO Unit := do
  for (place, entry) in before.entries.reverse do
    if isObstacle entry (after.entry? place) then remove place entry
  for (place, entry) in after.entries do
    if before.entry? place != some entry then add place entry

end Machine

end Scaffold

open Scaffold in
/-- Run the program with the words after its name. -/
def main (words : List String) : IO UInt32 := do
  let disk ← Machine.load
  let exit := Program.run disk words
  Machine.save disk exit.disk
  (← IO.getStdout).putStr exit.output
  (← IO.getStderr).putStr exit.errors
  return exit.code.toUInt32
