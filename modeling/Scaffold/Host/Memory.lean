import Scaffold.Host

/-!
# Files in memory

A host of files without directories, which keeps a journal of every path written or created.
-/

namespace Scaffold

/-- Files in memory and the journal of writes. -/
structure MemoryHost where
  /-- The contents. -/
  files : PathMap String
  /-- Every path written or created, in order. -/
  journal : List Path
  deriving Repr, DecidableEq, Inhabited

namespace MemoryHost

/-- A host seeded with files; of equal paths the last content counts, and nothing is journaled. -/
def withFiles (files : List (Path × String)) : MemoryHost := ⟨PathMap.ofList files, []⟩

/-- The content of a file, if there is one. -/
def content? (host : MemoryHost) (path : Path) : Option String := host.files.find? path

/-- Set the content of a file and note it in the journal. -/
def put (host : MemoryHost) (path : Path) (content : String) : MemoryHost :=
  ⟨host.files.insert path content, host.journal ++ [path]⟩

/-- Create the file empty and note it in the journal, unless it is there. -/
def touch (host : MemoryHost) (path : Path) : MemoryHost :=
  if host.files.contains path then host else host.put path ""

instance : FileHost MemoryHost where
  read path := fun host => .ok ((host.content? path).getD "") host
  write path content := fun host => .ok () (host.put path content)
  has path host := host.files.contains path
  ensureFile path := fun host => .ok () (host.touch path)

end MemoryHost

end Scaffold
