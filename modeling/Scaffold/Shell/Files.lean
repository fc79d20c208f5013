import Scaffold.Shell.State

/-!
# Tools for files

The commands that create, list, copy and remove entries of a disk. Each takes its arguments, works
on the state of the shell and gives a status.
-/

namespace Scaffold.Shell

/-- The words of a tool for a fault. -/
def faultWords : FileFault → String
  | .notFound => "No such file or directory"
  | .alreadyThere => "File exists"
  | .notDirectory => "Not a directory"
  | .isDirectory => "Is a directory"
  | .nameTooLong => "File name too long"
  | .tooManyLinks => "Too many levels of symbolic links"
  | .nullInPath => "Invalid argument"
  | .notText => "Invalid argument"

/-- A name in the quotes of a complaint. -/
def named (name : String) : String := "'" ++ name ++ "'"

/-- The options among arguments, letter by letter, and the other arguments. -/
def splitOptions : List String → List Char × List String
  | [] => ([], [])
  | argument :: rest =>
    if argument == "--" then ([], rest)
    else
      let (options, others) := splitOptions rest
      if argument.startsWith "-" && argument != "-" then
        (argument.toList.tail ++ options, others)
      else (options, argument :: others)

/-- Do something for each argument; the status is one if anything failed. -/
def forEach (act : String → Running Bool) : List String → Running Nat
  | [] => return 0
  | argument :: rest => do
    let went ← act argument
    let status ← forEach act rest
    return if went then status else 1

/-- Complain about an argument. -/
def refuse (words : String) : Running Bool := do
  Running.complain words
  return false

/-- Complain about the arguments of a tool. -/
def misuse (tool words : String) : Running Nat := do
  Running.complain (tool ++ ": " ++ words)
  Running.complain ("Try '" ++ tool ++ " --help' for more information.")
  return 1

/-- Complain that a tool has no operand. -/
def missingOperand (tool : String) : Running Nat := misuse tool "missing operand"

/-- Complain that a tool has no file. -/
def missingFile (tool : String) : Running Nat := misuse tool "missing file operand"

/-- Write lines. -/
def writeLines (lines : List String) : Running Unit :=
  Running.write (String.join (lines.map (· ++ "\n")))

/-- The names in a directory that are shown. -/
def shownNames (options : List Char) (disk : Disk) (place : Place) : List String :=
  let names := (disk.children place).map Prod.fst
  if options.contains 'a' then "." :: ".." :: names
  else if options.contains 'A' then names
  else names.filter fun name => !name.startsWith "."

/-- Texts in their order. -/
def inOrder (texts : List String) : List String :=
  texts.mergeSort fun left right => !decide (right < left)

/-- Print names of files, and the names in directories. -/
def lsTool (arguments : List String) : Running Nat := do
  let (options, paths) := splitOptions arguments
  let paths := if paths.isEmpty then ["."] else inOrder paths
  let disk := (← get).disk
  let status ← forEach (fun path => do
    match disk.find .use ⟨path⟩ with
    | .ok _ => return true
    | .error fault =>
      refuse ("ls: cannot access " ++ named path ++ ": " ++ faultWords fault)) paths
  let directoryAt? (path : String) : Option Place :=
    match disk.find .use ⟨path⟩ with
    | .ok (place, .directory) => if options.contains 'd' then none else some place
    | _ => none
  let files := paths.filter fun path => disk.has ⟨path⟩ && (directoryAt? path).isNone
  let directories := paths.filter fun path => (directoryAt? path).isSome
  writeLines files
  for path in directories do
    if 1 < paths.length then
      if !files.isEmpty || directories.head? != some path then Running.write "\n"
      Running.write (path ++ ":\n")
    match directoryAt? path with
    | some place => writeLines (shownNames options disk place)
    | none => pure ()
  return status * 2

/-- Create files that are missing. -/
def touchTool (arguments : List String) : Running Nat := do
  let (options, paths) := splitOptions arguments
  if paths.isEmpty then missingFile "touch"
  else
    forEach (fun path => do
      if options.contains 'c' || (← get).disk.has ⟨path⟩ then return true
      else
        match ← Running.changeDisk fun disk => disk.writeContent ⟨path⟩ (.text "") with
        | none => return true
        | some fault =>
          refuse ("touch: cannot touch " ++ named path ++ ": " ++ faultWords fault)) paths

/-- Create directories. -/
def mkdirTool (arguments : List String) : Running Nat := do
  let (options, paths) := splitOptions arguments
  let change (path : String) (disk : Disk) : Except FileFault Disk :=
    if options.contains 'p' then
      match Disk.createDirectories ⟨path⟩ disk with
      | .ok _ disk => .ok disk
      | .error fault _ => .error fault
    else disk.createDirectory ⟨path⟩
  if paths.isEmpty then missingOperand "mkdir"
  else
    forEach (fun path => do
      match ← Running.changeDisk (change path) with
      | none => return true
      | some fault =>
        refuse ("mkdir: cannot create directory " ++ named path ++ ": " ++ faultWords fault)) paths

/-- Remove files, and directories if told so. -/
def rmTool (arguments : List String) : Running Nat := do
  let (options, paths) := splitOptions arguments
  let deep := options.contains 'r' || options.contains 'R'
  if paths.isEmpty && !options.contains 'f' then missingOperand "rm"
  else
    forEach (fun path => do
      let state ← get
      match state.disk.find .inspect ⟨path⟩ with
      | .ok (place, entry) =>
        if entry == .directory && !deep then
          refuse ("rm: cannot remove " ++ named path ++ ": Is a directory")
        else if path == "." || path == ".." then
          refuse ("rm: refusing to remove '.' or '..' directory: skipping " ++ named path)
        else
          set { state with disk := state.disk.clear place }
          return true
      | .error fault =>
        if options.contains 'f' then return true
        else refuse ("rm: cannot remove " ++ named path ++ ": " ++ faultWords fault)) paths

/-- Remove empty directories. -/
def rmdirTool (arguments : List String) : Running Nat := do
  let (_, paths) := splitOptions arguments
  let fail (path words : String) :=
    refuse ("rmdir: failed to remove " ++ named path ++ ": " ++ words)
  if paths.isEmpty then missingOperand "rmdir"
  else
    forEach (fun path => do
      let state ← get
      match state.disk.find .inspect ⟨path⟩ with
      | .ok (place, .directory) =>
        if (state.disk.below place).isEmpty then
          set { state with disk := state.disk.clear place }
          return true
        else fail path "Directory not empty"
      | .ok _ => fail path (faultWords .notDirectory)
      | .error fault => fail path (faultWords fault)) paths

/-- The disk with an entry, and what is below it, at another place too. -/
def copyTree (disk : Disk) (source target : Place) (entry : DiskEntry) : Disk :=
  (disk.below source).foldl (fun disk below => disk.put (target ++ below.1) below.2)
    (disk.put target entry)

/-- Copy or move one entry to a path, or into the directory that it leads to. -/
def transfer (tool : String) (moves deep : Bool) (source target : String) : Running Bool := do
  let state ← get
  let purpose := if moves then Purpose.inspect else .use
  match state.disk.find purpose ⟨source⟩ with
  | .error fault => refuse (tool ++ ": cannot stat " ++ named source ++ ": " ++ faultWords fault)
  | .ok (place, entry) =>
    let name := place.getLast?.getD ""
    let target :=
      if state.disk.isDirectory ⟨target⟩ then ((Path.mk target).join ⟨name⟩).text else target
    if entry == .directory && !moves && !deep then
      refuse (tool ++ ": -r not specified; omitting directory " ++ named source)
    else
      let kind := if moves then ": cannot move " ++ named source ++ " to "
        else if entry == .directory then ": cannot create directory "
        else ": cannot create regular file "
      match state.disk.locate .inspect (Disk.withoutTrailing ⟨target⟩) with
      | .error fault => refuse (tool ++ kind ++ named target ++ ": " ++ faultWords fault)
      | .ok spot =>
        let goal :=
          match spot with
          | .free place => place
          | .taken place _ => place
        if goal == place then
          refuse (tool ++ ": " ++ named source ++ " and " ++ named target ++ " are the same file")
        else
          let cleared := if moves then state.disk.clear goal else state.disk
          let copied := copyTree cleared place goal entry
          set { state with disk := if moves then copied.clear place else copied }
          return true

/-- Copy or move entries; the last argument is where they go. -/
def transferTool (tool : String) (moves : Bool) (arguments : List String) : Running Nat := do
  let (options, paths) := splitOptions arguments
  let deep := options.contains 'r' || options.contains 'R' || options.contains 'a'
  match paths.getLast?, paths.dropLast with
  | some target, source :: sources =>
    if !sources.isEmpty && !(← get).disk.isDirectory ⟨target⟩ then
      Running.complain (tool ++ ": target " ++ named target ++ ": " ++
        faultWords (if (← get).disk.has ⟨target⟩ then .notDirectory else .notFound))
      return 1
    else forEach (fun source => transfer tool moves deep source target) (source :: sources)
  | some only, [] => misuse tool ("missing destination file operand after " ++ named only)
  | none, _ => missingFile tool

/-- Create a link, or another file with the content of one. -/
def lnTool (arguments : List String) : Running Nat := do
  let (options, paths) := splitOptions arguments
  match paths with
  | [target, name] =>
    let state ← get
    if options.contains 's' then
      let cleared :=
        match options.contains 'f', state.disk.find .inspect ⟨name⟩ with
        | true, .ok (place, .file _) => state.disk.clear place
        | true, .ok (place, .link _) => state.disk.clear place
        | _, _ => state.disk
      match cleared.create ⟨name⟩ (.link target) with
      | .ok disk =>
        set { state with disk := disk }
        return 0
      | .error fault =>
        Running.complain
          ("ln: failed to create symbolic link " ++ named name ++ ": " ++ faultWords fault)
        return 1
    else return if ← transfer "ln" false false target name then 0 else 1
  | _ => missingFile "ln"

end Scaffold.Shell
