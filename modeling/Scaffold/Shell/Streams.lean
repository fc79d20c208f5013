import Scaffold.Shell.Files
import Scaffold.Shell.Pattern
import Scaffold.Shell.Printing

/-!
# Tools for streams

The commands that read files or the input and print something about them.
-/

namespace Scaffold.Shell

/-- What a tool says before and behind the name of a file that it cannot read. -/
def sourceWords (tool : String) : String × String :=
  if tool == "head" || tool == "tail" then ("cannot open '", "' for reading")
  else if tool == "sort" then ("cannot read: ", "")
  else ("", "")

/-- The bytes of a file by its name, those of the input for a hyphen; complains if there is none. -/
def readSource? (tool name : String) : Running (Option (List UInt8)) := do
  if name == "-" then return some (← Running.takeInput)
  else
    match bytesOf (← get).disk name with
    | .ok bytes => return some bytes
    | .error fault =>
      let (front, back) := sourceWords tool
      Running.complain (tool ++ ": " ++ front ++ name ++ back ++ ": " ++ faultWords fault)
      return none

/-- Do something with the bytes of each file, or with those of the input. -/
def forEachSource (tool : String) (act : String → List UInt8 → Running Unit)
    (names : List String) : Running Nat :=
  forEach (fun name => do
    match ← readSource? tool name with
    | some bytes =>
      act name bytes
      return true
    | none => return false) (if names.isEmpty then ["-"] else names)

/-- Bytes with lines: cut behind each line feed. -/
def linesOf (line : List UInt8) : List UInt8 → List (List UInt8)
  | [] => if line.isEmpty then [] else [line.reverse]
  | byte :: rest =>
    if byte == 10 then (byte :: line).reverse :: linesOf [] rest else linesOf (byte :: line) rest

/-- A line with a line feed at its end. -/
def endLine (line : List UInt8) : List UInt8 :=
  if line.getLast? == some 10 then line else line ++ [10]

/-- Print the contents of files. -/
def catTool (arguments : List String) : Running Nat :=
  forEachSource "cat" (fun _ bytes => Running.writeBytes bytes) (splitOptions arguments).2

/-- Which part of a file is printed: how many lines or bytes, counted from its start or end. -/
structure Portion where
  /-- Whether bytes are counted. -/
  inBytes : Bool
  /-- Whether the count is that of the first one printed. -/
  fromStart : Bool
  count : Nat

/-- The portion that arguments ask for, and the other arguments. -/
def portionOf (portion : Portion) : List String → Portion × List String
  | [] => (portion, [])
  | "-n" :: count :: rest => portionOf (counted { portion with inBytes := false } count) rest
  | "-c" :: count :: rest => portionOf (counted { portion with inBytes := true } count) rest
  | argument :: rest =>
    match argument.toList with
    | '-' :: 'n' :: count =>
      portionOf (counted { portion with inBytes := false } (String.ofList count)) rest
    | '-' :: 'c' :: count =>
      portionOf (counted { portion with inBytes := true } (String.ofList count)) rest
    | '-' :: digit :: count =>
      if digit.isDigit then portionOf (counted portion (String.ofList (digit :: count))) rest
      else portionOf portion rest
    | _ =>
      let (portion, others) := portionOf portion rest
      (portion, argument :: others)
where
  /-- The portion with a count. -/
  counted (portion : Portion) (text : String) : Portion :=
    match text.toList with
    | '+' :: digits =>
      { portion with fromStart := true, count := (natural? (String.ofList digits)).getD 0 }
    | _ => { portion with count := (natural? text).getD 0 }

/-- Print a part of each file. -/
def portionTool (tool : String) (cut : Portion → List (List UInt8) → List (List UInt8))
    (arguments : List String) : Running Nat := do
  let (portion, names) := portionOf ⟨false, false, 10⟩ arguments
  let isNamed := 1 < names.length
  forEachSource tool (fun name bytes => do
    if isNamed then
      Running.write ((if names.head? == some name then "" else "\n") ++ "==> " ++ name ++ " <==\n")
    let bytes := if name == zeroFile then List.replicate portion.count 0 else bytes
    let pieces := if portion.inBytes then bytes.map ([·]) else linesOf [] bytes
    Running.writeBytes (cut portion pieces).flatten) names

/-- Print the first lines or bytes. -/
def headTool (arguments : List String) : Running Nat :=
  portionTool "head" (fun portion pieces => pieces.take portion.count) arguments

/-- Print the last lines or bytes. -/
def tailTool (arguments : List String) : Running Nat :=
  let cut (portion : Portion) (pieces : List (List UInt8)) : List (List UInt8) :=
    if portion.fromStart then pieces.drop (portion.count - 1)
    else pieces.drop (pieces.length - portion.count)
  portionTool "tail" cut arguments

/-- Whether a byte is a blank or ends a line. -/
def isBlankByte (byte : UInt8) : Bool := byte == 32 || (9 ≤ byte && byte ≤ 13)

/-- The number of words; `inWord` tells whether the byte before belongs to one. -/
def countWords (inWord : Bool) : List UInt8 → Nat
  | [] => 0
  | byte :: rest =>
    if isBlankByte byte then countWords false rest
    else (if inWord then 0 else 1) + countWords true rest

/-- Count lines, words, characters and bytes. -/
def wcTool (arguments : List String) : Running Nat := do
  let (options, names) := splitOptions arguments
  let wanted := if options.isEmpty then ['l', 'w', 'c'] else options
  let countOf (bytes : List UInt8) (kind : Char) : Nat :=
    if kind == 'l' then bytes.count 10
    else if kind == 'w' then countWords false bytes
    else if kind == 'm' then (Text.decodeLossy bytes).length
    else bytes.length
  let kinds := ['l', 'w', 'm', 'c'].filter wanted.contains
  let disk := (← get).disk
  let sizes := names.filterMap fun name => ((bytesOf disk name).toOption.map List.length)
  let total := sizes.foldl (· + ·) 0
  let width :=
    if kinds.length == 1 && names.length ≤ 1 then 1
    else if names.isEmpty || names.contains "-" then 7
    else (toString total).length
  let row (counts : List Nat) (name : String) : String :=
    let cells := counts.map fun count =>
      let text := toString count
      String.ofList (List.replicate (width - text.length) ' ') ++ text
    " ".intercalate cells ++ (if name.isEmpty then "" else " " ++ name) ++ "\n"
  let status ← forEachSource "wc" (fun name bytes =>
    Running.write (row (kinds.map (countOf bytes)) (if names.isEmpty then "" else name))) names
  if 1 < names.length then
    let contents := names.filterMap fun name => (bytesOf disk name).toOption
    let sum (kind : Char) := (contents.map fun bytes => countOf bytes kind).foldl (· + ·) 0
    Running.write (row (kinds.map sum) "total")
  return status

/-- Whether a list of bytes stands before another, or is the same. -/
def isOrdered : List UInt8 → List UInt8 → Bool
  | [], _ => true
  | _ :: _, [] => false
  | left :: lefts, right :: rights => left < right || (left == right && isOrdered lefts rights)

/-- The number at the start of a line. -/
def leadingNumber (line : List UInt8) : Int :=
  let chars := ((Text.decodeLossy line).toList).dropWhile (· == ' ')
  let (sign, digits) :=
    match chars with
    | '-' :: rest => ((-1 : Int), rest)
    | _ => (1, chars)
  sign * ((natural? (String.ofList (digits.takeWhile Char.isDigit))).getD 0 : Nat)

/-- The lines of files, or of the input, one after the other; complains about missing files. -/
def gatherLines (tool : String) : List String → Running (List (List UInt8) × Nat)
  | [] => return ([], 0)
  | name :: rest => do
    match ← readSource? tool name with
    | some bytes =>
      let (lines, status) ← gatherLines tool rest
      return ((linesOf [] bytes).map endLine ++ lines, status)
    | none =>
      let (lines, _) ← gatherLines tool rest
      return (lines, 2)

/-- The lines without those that equal the one before. -/
def withoutRepeats : List (List UInt8) → List (List UInt8)
  | first :: second :: rest =>
    if first == second then withoutRepeats (second :: rest)
    else first :: withoutRepeats (second :: rest)
  | lines => lines

/-- Print lines in their order. -/
def sortTool (arguments : List String) : Running Nat := do
  let (options, names) := splitOptions arguments
  let (lines, status) ← gatherLines "sort" (if names.isEmpty then ["-"] else names)
  let before (left right : List UInt8) : Bool :=
    if options.contains 'n' then
      let leftNumber := leadingNumber left
      let rightNumber := leadingNumber right
      leftNumber < rightNumber || (leftNumber == rightNumber && isOrdered left right)
    else isOrdered left right
  let sorted := lines.mergeSort fun left right =>
    if options.contains 'r' then before right left else before left right
  Running.writeBytes (if options.contains 'u' then withoutRepeats sorted else sorted).flatten
  return status

/-- The runs of equal neighbours, with their lengths. -/
def repeatsOf : List (List UInt8) → List (Nat × List UInt8)
  | [] => []
  | line :: rest =>
    match repeatsOf rest with
    | (count, other) :: others =>
      if line == other then (count + 1, other) :: others else (1, line) :: (count, other) :: others
    | [] => [(1, line)]

/-- Print lines without those that equal the one before. -/
def uniqTool (arguments : List String) : Running Nat := do
  let (options, names) := splitOptions arguments
  let (lines, status) ← gatherLines "uniq" (if names.isEmpty then ["-"] else names.take 1)
  for (count, line) in repeatsOf lines do
    if options.contains 'c' then
      let text := toString count
      Running.write (String.ofList (List.replicate (7 - text.length) ' ') ++ text ++ " ")
    Running.writeBytes line
  return status

/-- Print numbers from one to another. -/
def seqTool (arguments : List String) : Running Nat := do
  let range? : Option (Int × Int × Int) := do
    match ← arguments.mapM integer? with
    | [last] => return (1, 1, last)
    | [first, last] => return (first, 1, last)
    | [first, step, last] => if step == 0 then none else return (first, step, last)
    | _ => none
  match range? with
  | some (first, step, last) =>
    let count := if 0 < step then (last - first) / step + 1 else (first - last) / (-step) + 1
    writeLines ((List.range count.toNat).map fun (place : Nat) =>
      toString (first + step * Int.ofNat place))
    return 0
  | none => missingOperand "seq"

/-- Print the input, and write it to files too. -/
def teeTool (arguments : List String) : Running Nat := do
  let (options, paths) := splitOptions arguments
  let bytes ← Running.takeInput
  Running.writeBytes bytes
  forEach (fun path => do
    let state ← get
    let before :=
      if options.contains 'a' then ((bytesOf state.disk path).toOption).getD [] else []
    match state.disk.writeContent ⟨path⟩ (.ofBytes (before ++ bytes)) with
    | .ok disk =>
      set { state with disk := disk }
      return true
    | .error fault => refuse ("tee: " ++ path ++ ": " ++ faultWords fault)) paths

/-- The named classes of characters. -/
def classBytes : List (String × List UInt8) :=
  let range (first last : Nat) := (List.range (last + 1 - first)).map fun n => (first + n).toUInt8
  [("[:lower:]", range 97 122), ("[:upper:]", range 65 90), ("[:digit:]", range 48 57),
    ("[:alpha:]", range 65 90 ++ range 97 122),
    ("[:alnum:]", range 48 57 ++ range 65 90 ++ range 97 122), ("[:space:]", range 9 13 ++ [32])]

/-- The bytes with ranges written out. -/
def rangeBytes : List UInt8 → List UInt8
  | first :: 45 :: last :: rest =>
    (List.range (last.toNat + 1 - first.toNat)).map (fun n => (first.toNat + n).toUInt8) ++
      rangeBytes rest
  | byte :: rest => byte :: rangeBytes rest
  | [] => []

/-- The bytes that characters of a set stand for; `plain` are those before, in reverse, and `skip`
counts characters that were taken already. -/
def setBytesFrom (plain : List Char) (skip : Nat) : List Char → List UInt8
  | [] => plainBytes plain
  | char :: rest =>
    match skip with
    | skip + 1 => setBytesFrom plain skip rest
    | 0 =>
      match classBytes.find? fun entry => entry.1.toList.isPrefixOf (char :: rest) with
      | some (name, bytes) => plainBytes plain ++ bytes ++ setBytesFrom [] (name.length - 1) rest
      | none => setBytesFrom (char :: plain) 0 rest
where
  /-- The bytes of characters given in reverse, without classes. -/
  plainBytes (plain : List Char) : List UInt8 :=
    rangeBytes (unescapeFrom false 0 plain.reverse).bytes

/-- The bytes that a set of characters stands for. -/
def setBytes (set : String) : List UInt8 := setBytesFrom [] 0 set.toList

/-- Bytes without those of a set that equal the one before. -/
def squeeze (set : List UInt8) : List UInt8 → List UInt8
  | first :: second :: rest =>
    if first == second && set.contains first then squeeze set (second :: rest)
    else first :: squeeze set (second :: rest)
  | bytes => bytes

/-- Replace bytes of the input, delete them, or take repeated ones only once. -/
def trTool (arguments : List String) : Running Nat := do
  let (options, sets) := splitOptions arguments
  let inverted := options.contains 'c' || options.contains 'C'
  match sets.map setBytes with
  | [] => missingOperand "tr"
  | first :: others =>
    let bytes ← Running.takeInput
    let isIn (byte : UInt8) : Bool := first.contains byte != inverted
    if options.contains 'd' then Running.writeBytes (bytes.filter fun byte => !isIn byte)
    else
      match others with
      | [] =>
        if options.contains 's' then Running.writeBytes (squeeze first bytes)
        else
          let _ ← misuse "tr" ("missing operand after " ++ named (sets.headD ""))
      | target :: _ =>
        let replace (byte : UInt8) : UInt8 :=
          if inverted then if isIn byte then (target.getLast?).getD byte else byte
          else
            match first.idxOf? byte with
            | some place => (target[place]?.or target.getLast?).getD byte
            | none => byte
        let replaced := bytes.map replace
        Running.writeBytes (if options.contains 's' then squeeze target replaced else replaced)
    return if others.isEmpty && !options.contains 'd' && !options.contains 's' then 1 else 0

/-- The pattern of a line that a regular expression of literals, points and sets is found in. -/
def searchPattern (literal : Bool) (expression : List Char) : List PatternPart :=
  let anchored := !literal && expression.head? == some '^'
  let body := if anchored then expression.tail else expression
  let closed := !literal && body.getLast? == some '$'
  let body := if closed then body.dropLast else body
  let parts := if literal then body.map .literal else parse 0 body
  (if anchored then [] else [.many]) ++ parts ++ (if closed then [] else [.many])
where
  /-- The parts of an expression; `skip` counts characters that were taken already. -/
  parse (skip : Nat) : List Char → List PatternPart
    | [] => []
    | char :: rest =>
      match skip with
      | skip + 1 => parse skip rest
      | 0 =>
        if char == '.' then
          if rest.head? == some '*' then .many :: parse 1 rest else .any :: parse 0 rest
        else if char == '\\' then
          match rest with
          | next :: _ => .literal next :: parse 1 rest
          | [] => [.literal char]
        else if char == '[' then
          match bracket? rest with
          | some (part, length) => part :: parse length rest
          | none => .literal char :: parse 0 rest
        else .literal char :: parse 0 rest

/-- Print the lines that hold a pattern. -/
def grepTool (arguments : List String) : Running Nat := do
  let (options, others) := splitOptions arguments
  match others with
  | [] =>
    Running.complain "Usage: grep [OPTION]... PATTERNS [FILE]..."
    Running.complain "Try 'grep --help' for more information."
    return 2
  | expression :: names =>
    let fold (chars : List Char) : List Char :=
      if options.contains 'i' then chars.map Char.toLower else chars
    let pattern := searchPattern (options.contains 'F') (fold expression.toList)
    let isWanted (line : List UInt8) : Bool :=
      let chars := (Text.decodeLossy line).toList
      fits pattern (fold (if chars.getLast? == some '\n' then chars.dropLast else chars)) !=
        options.contains 'v'
    let (found, status) ← search options isWanted (1 < names.length)
      (if names.isEmpty then ["-"] else names)
    return if status != 0 then status else if found then 0 else 1
where
  /-- Print the wanted lines of files; tells whether there are any, and the status if files are
  missing. -/
  search (options : List Char) (isWanted : List UInt8 → Bool) (isNamed : Bool) :
      List String → Running (Bool × Nat)
    | [] => return (false, 0)
    | name :: rest => do
      match ← readSource? "grep" name with
      | none =>
        let (found, _) ← search options isWanted isNamed rest
        return (found, 2)
      | some bytes =>
        let lines := (linesOf [] bytes).zipIdx.filter fun line => isWanted line.1
        let lead := if isNamed then name ++ ":" else ""
        if options.contains 'q' then pure ()
        else if options.contains 'c' then Running.write (lead ++ toString lines.length ++ "\n")
        else if options.contains 'l' then if !lines.isEmpty then Running.write (name ++ "\n")
        else
          for (line, place) in lines do
            Running.write (lead ++ if options.contains 'n' then toString (place + 1) ++ ":" else "")
            Running.writeBytes (endLine line)
        let (found, status) ← search options isWanted isNamed rest
        return (found || !lines.isEmpty, status)

/-- The last step of a path. -/
def lastStep (path : String) : String :=
  let trimmed := (Disk.withoutTrailing ⟨path⟩).text
  ((Disk.steps trimmed).getLast?.filter (!·.isEmpty)).getD trimmed

/-- Print the last step of a path, without an ending. -/
def basenameTool (arguments : List String) : Running Nat := do
  match arguments with
  | [] => missingOperand "basename"
  | path :: others =>
    let name := lastStep path
    let ending := others.headD ""
    let short :=
      if name != ending && name.endsWith ending then
        String.ofList (name.toList.take (name.length - ending.length))
      else name
    writeLines [short]
    return 0

/-- Print a path without its last step. -/
def dirnameTool (arguments : List String) : Running Nat := do
  match arguments with
  | [] => missingOperand "dirname"
  | path :: _ =>
    let steps := (Disk.steps (Disk.withoutTrailing ⟨path⟩).text).dropLast
    let parent := "/".intercalate steps
    writeLines
      [if steps.isEmpty then "." else if parent.isEmpty then "/"
        else (Disk.withoutTrailing ⟨parent⟩).text]
    return 0

/-- Print a line for ever. -/
def yesTool (arguments : List String) : Running Nat := do
  let line := if arguments.isEmpty then "y" else " ".intercalate arguments
  writeLines (List.replicate endlessCount line)
  throw .endless

end Scaffold.Shell
