import Scaffold.Disk.Fault
import Scaffold.Path
import Scaffold.Text.Utf8

/-!
# Disks

A tree of directories, files and symbolic links, with one directory to work in. Entries are kept
by their place, the list of names that leads to them from the root. A path is followed name by
name from the root or from the working directory; links on the way are replaced by their targets,
at most 40 of them.
-/

namespace Scaffold

/-- The content of a file. -/
inductive FileContent where
  | text (content : String)
  /-- Bytes that are no text. -/
  | binary (bytes : List UInt8)
  deriving Repr, DecidableEq

namespace FileContent

/-- The content made of bytes. -/
def ofBytes (bytes : List UInt8) : FileContent :=
  match Text.decode? bytes with
  | some content => .text content
  | none => .binary bytes

/-- The bytes of a content. -/
def bytes : FileContent → List UInt8
  | text content => Text.encode content.toList
  | binary bytes => bytes

end FileContent

/-- What stands at a place. -/
inductive DiskEntry where
  | directory
  | file (content : FileContent)
  /-- A symbolic link. -/
  | link (target : String)
  deriving Repr, DecidableEq

/-- The names that lead to an entry from the root. -/
abbrev Place := List String

/-- A tree of entries and the directory to work in. -/
structure Disk where
  /-- The entries by place; the root is not among them. -/
  entries : List (Place × DiskEntry)
  /-- The working directory. -/
  cwd : Place
  deriving Repr, DecidableEq

/-- What a path leads to. -/
inductive Spot where
  /-- An entry. -/
  | taken (place : Place) (entry : DiskEntry)
  /-- No entry, but a directory to put it in. -/
  | free (place : Place)
  deriving Repr, DecidableEq

/-- What a path is followed for. -/
inductive Purpose where
  /-- To use what is there. -/
  | use
  /-- To look at what is there, be it a link. -/
  | inspect
  /-- To write a file. -/
  | write
  deriving Repr, DecidableEq

namespace Disk

/-- An empty working directory. -/
def blank : Disk := ⟨[(["tmp"], .directory), (["tmp", "work"], .directory)], ["tmp", "work"]⟩

instance : Inhabited Disk := ⟨blank⟩

/-- What stands at a place. -/
def entry? (disk : Disk) (place : Place) : Option DiskEntry :=
  if place.isEmpty then some .directory else disk.entries.lookup place

/-- Set what stands at a place among entries. -/
def putIn (place : Place) (entry : DiskEntry) :
    List (Place × DiskEntry) → List (Place × DiskEntry)
  | [] => [(place, entry)]
  | (key, old) :: rest =>
    if key == place then (key, entry) :: rest else (key, old) :: putIn place entry rest

/-- Set what stands at a place. -/
def put (disk : Disk) (place : Place) (entry : DiskEntry) : Disk :=
  { disk with entries := putIn place entry disk.entries }

/-- Take away what stands at a place and below it. -/
def clear (disk : Disk) (place : Place) : Disk :=
  { disk with entries := disk.entries.filter fun entry => !place.isPrefixOf entry.1 }

/-- The entries below a place by the names that lead to them from there. -/
def below (disk : Disk) (place : Place) : List (Place × DiskEntry) :=
  disk.entries.filterMap fun (key, entry) =>
    if place.isPrefixOf key && key != place then some (key.drop place.length, entry) else none

/-- The entries of a directory by name, in the order of names. -/
def children (disk : Disk) (place : Place) : List (String × DiskEntry) :=
  let found := (disk.below place).filterMap fun (names, entry) =>
    match names with
    | [name] => some (name, entry)
    | _ => none
  found.mergeSort fun left right => !decide (right.1 < left.1)

/-- The names of the directories in a directory, in order. -/
def subdirectories (disk : Disk) (place : Place) : List String :=
  (disk.children place).filterMap fun (name, entry) =>
    if entry = .directory then some name else none

/-- The length in bytes that no name may exceed. -/
def nameLimit : Nat := 255

/-- The length in bytes that no path may exceed. -/
def pathLimit : Nat := 4095

/-- How many links are followed at most. -/
def linkLimit : Nat := 40

/-- Whether the steps left are only separators at the end of a path. -/
def isTrailing (steps : List String) : Bool := steps.all (· == "")

/-- The steps of a path: the texts between its separators. -/
def steps (path : String) : List String := (Path.pieces path.toList).map String.ofList

/-- Follow steps from a directory. A path written to must not end in a separator. -/
def follow (disk : Disk) (purpose : Purpose) :
    Nat → Place → List String → Except FileFault Spot
  | _, current, [] => .ok (.taken current .directory)
  | links, current, step :: rest =>
    if step == "" || step == "." then follow disk purpose links current rest
    else if step == ".." then follow disk purpose links current.dropLast rest
    else if purpose == .write && !rest.isEmpty && isTrailing rest then .error .isDirectory
    else if nameLimit < step.utf8ByteSize then .error .nameTooLong
    else
      let place := current ++ [step]
      match disk.entry? place with
      | none => if isTrailing rest then .ok (.free place) else .error .notFound
      | some .directory => follow disk purpose links place rest
      | some (.file content) =>
        if rest.isEmpty then .ok (.taken place (.file content)) else .error .notDirectory
      | some (.link target) =>
        if rest.isEmpty && purpose == .inspect then .ok (.taken place (.link target))
        else
          match links with
          | 0 => .error .tooManyLinks
          | links + 1 =>
            follow disk purpose links (if (Path.mk target).isAbsolute then [] else current)
              (steps target ++ rest)
  termination_by links _ steps => (links, steps.length)

/-- Follow a path. -/
def locate (disk : Disk) (purpose : Purpose) (path : Path) : Except FileFault Spot :=
  let text := path.text
  if text.toList.contains '\x00' then .error .nullInPath
  else if text.isEmpty then .error .notFound
  else if pathLimit < text.utf8ByteSize then .error .nameTooLong
  else follow disk purpose linkLimit (if path.isAbsolute then [] else disk.cwd) (steps text)

/-- The entry that a path leads to, with its place. -/
def find (disk : Disk) (purpose : Purpose) (path : Path) : Except FileFault (Place × DiskEntry) :=
  match disk.locate purpose path with
  | .ok (.taken place entry) => .ok (place, entry)
  | .ok (.free _) => .error .notFound
  | .error fault => .error fault

/-- Whether a path leads to something. -/
def has (disk : Disk) (path : Path) : Bool := (disk.find .use path).toBool

/-- Whether a path leads to a file. -/
def isFile (disk : Disk) (path : Path) : Bool :=
  match disk.find .use path with
  | .ok (_, .file _) => true
  | _ => false

/-- Whether a path leads to a directory. -/
def isDirectory (disk : Disk) (path : Path) : Bool :=
  match disk.find .use path with
  | .ok (_, .directory) => true
  | _ => false

/-- The content of a file. -/
def readContent (disk : Disk) (path : Path) : Except FileFault FileContent :=
  match disk.find .use path with
  | .ok (_, .file content) => .ok content
  | .ok _ => .error .isDirectory
  | .error fault => .error fault

/-- The text of a file. -/
def readText (disk : Disk) (path : Path) : Except FileFault String :=
  match disk.readContent path with
  | .ok (.text content) => .ok content
  | .ok (.binary _) => .error .notText
  | .error fault => .error fault

/-- The disk after a file was given a content, and created if need be. -/
def writeContent (disk : Disk) (path : Path) (content : FileContent) : Except FileFault Disk :=
  match disk.locate .write path with
  | .ok (.free place) => .ok (disk.put place (.file content))
  | .ok (.taken place (.file _)) => .ok (disk.put place (.file content))
  | .ok (.taken _ _) => .error .isDirectory
  | .error fault => .error fault

/-- A path without separators at its end. -/
def withoutTrailing (path : Path) : Path :=
  let chars := (path.text.toList.reverse.dropWhile (· == '/')).reverse
  if chars.isEmpty then path else ⟨String.ofList chars⟩

/-- The disk with a new entry where nothing was. -/
def create (disk : Disk) (path : Path) (entry : DiskEntry) : Except FileFault Disk :=
  match disk.locate .inspect (withoutTrailing path) with
  | .ok (.free place) => .ok (disk.put place entry)
  | .ok (.taken _ _) => .error .alreadyThere
  | .error fault => .error fault

/-- The disk with a new directory. -/
def createDirectory (disk : Disk) (path : Path) : Except FileFault Disk :=
  disk.create path .directory

/-- The disk with a directory unless it is there. -/
def settleDirectory (disk : Disk) (path : Path) : Except FileFault Disk :=
  match disk.createDirectory path with
  | .ok disk => .ok disk
  | .error fault => if disk.isDirectory path then .ok disk else .error fault

/-- Create a directory and whatever directories are missing on the way, at most `depth` of them.
What was created before a failure stays. -/
def createDirectoriesWithin : Nat → Path → EStateM FileFault Disk Unit
  | 0, _ => throw .notFound
  | depth + 1, path => fun disk =>
    match disk.createDirectory path with
    | .ok disk => .ok () disk
    | .error fault =>
      if path.text.isEmpty then .ok () disk
      else if fault = .notFound then
        match (path.parent?.map (createDirectoriesWithin depth · disk)) with
        | some (.ok _ disk) =>
          match disk.settleDirectory path with
          | .ok disk => .ok () disk
          | .error fault => .error fault disk
        | some (.error fault disk) => .error fault disk
        | none => .error fault disk
      else if disk.isDirectory path then .ok () disk
      else .error fault disk

/-- Create a directory and whatever directories are missing on the way. -/
def createDirectories (path : Path) : EStateM FileFault Disk Unit :=
  createDirectoriesWithin (path.components.length + 2) path

end Disk

end Scaffold
