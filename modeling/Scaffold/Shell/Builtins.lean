import Scaffold.Shell.Files
import Scaffold.Shell.Printing

/-!
# Builtins

The commands that work on the shell itself: its parameters, working directory and time, and whether
it goes on.
-/

namespace Scaffold.Shell

/-- Print arguments. -/
def echoTool (arguments : List String) : Running Nat := do
  Running.writeBytes (printEcho arguments)
  return 0

/-- Print arguments by a format. -/
def printfTool (arguments : List String) : Running Nat := do
  match arguments with
  | [] =>
    Running.complainHere "printf: usage: printf format [arg ...]"
    return 2
  | "--" :: format :: arguments => print format arguments
  | format :: arguments => print format arguments
where
  /-- Print arguments by a format, and complain about those that should be numbers. -/
  print (format : String) (arguments : List String) : Running Nat := do
    let printed := printFormat format arguments
    Running.writeBytes printed.bytes
    for fault in printed.faults do
      Running.complainHere ("printf: " ++ fault ++ ": expected numeric value")
    return if printed.faults.isEmpty then 0 else 1

/-- The milliseconds of a duration: a decimal number with an optional unit. -/
def milliseconds? (text : String) : Option Nat :=
  let chars := text.toList
  let units := [('s', 1000), ('m', 60000), ('h', 3600000), ('d', 86400000)]
  let (digits, unit) :=
    match chars.getLast?.bind (fun letter => units.lookup letter) with
    | some unit => (chars.dropLast, unit)
    | none => (chars, 1000)
  let whole := digits.takeWhile (· != '.')
  let fraction := (digits.dropWhile (· != '.')).tail
  (natural? (String.ofList (whole ++ fraction))).map fun value =>
    value * unit / Nat.pow 10 fraction.length

/-- Let time pass. -/
def sleepTool (arguments : List String) : Running Nat := do
  match arguments.find? fun argument => (milliseconds? argument).isNone with
  | some argument => misuse "sleep" ("invalid time interval " ++ named argument)
  | none =>
    if arguments.isEmpty then missingOperand "sleep"
    else
      Running.wait ((arguments.filterMap milliseconds?).foldl (· + ·) 0)
      return 0

/-- Go to a directory. -/
def cdTool (arguments : List String) : Running Nat := do
  let path := arguments.headD "."
  let state ← get
  match state.disk.find .use ⟨path⟩ with
  | .ok (place, .directory) =>
    set { state with disk := { state.disk with cwd := place } }
    return 0
  | _ =>
    Running.complainHere ("cd: can't cd to " ++ path)
    return 2

/-- Print the working directory. -/
def pwdTool : Running Nat := do
  writeLines ["/" ++ "/".intercalate (← get).disk.cwd]
  return 0

/-- Whether a comparison of two numbers holds. -/
def comparison? (operator : String) (left right : Int) : Option Bool :=
  match operator with
  | "-eq" => some (left == right)
  | "-ne" => some (left != right)
  | "-lt" => some (left < right)
  | "-le" => some (left ≤ right)
  | "-gt" => some (right < left)
  | "-ge" => some (right ≤ left)
  | _ => none

/-- Whether a condition on one operand holds, if the operator is known. -/
def condition? (disk : Disk) (operator operand : String) : Option Bool :=
  let path : Path := ⟨operand⟩
  match operator with
  | "-e" => some (disk.has path)
  | "-r" => some (disk.has path)
  | "-w" => some (disk.has path)
  | "-x" => some (disk.isDirectory path)
  | "-f" => some (disk.isFile path)
  | "-d" => some (disk.isDirectory path)
  | "-s" => some (((disk.readContent path).toOption.map (!·.bytes.isEmpty)).getD (disk.has path))
  | "-L" => some ((disk.find .inspect path).toOption.any fun found => found.2 matches .link _)
  | "-h" => some ((disk.find .inspect path).toOption.any fun found => found.2 matches .link _)
  | "-n" => some (!operand.isEmpty)
  | "-z" => some operand.isEmpty
  | _ => none

/-- Why a condition cannot be looked at. -/
inductive ConditionFault where
  | illegalNumber (text : String)
  | unexpectedOperator (text : String)
  deriving Repr, DecidableEq

/-- The words for a fault in a condition. -/
def ConditionFault.message : ConditionFault → String
  | illegalNumber text => "Illegal number: " ++ text
  | unexpectedOperator text => text ++ ": unexpected operator"

/-- Whether a condition without connectives holds. -/
def holdsAlone (disk : Disk) : List String → Except ConditionFault Bool
  | [] => .ok false
  | [text] => .ok (!text.isEmpty)
  | "!" :: rest => (holdsAlone disk rest).map (!·)
  | [operator, operand] =>
    match condition? disk operator operand with
    | some value => .ok value
    | none => .error (.unexpectedOperator operator)
  | [left, "=", right] => .ok (left == right)
  | [left, "!=", right] => .ok (left != right)
  | [left, operator, right] =>
    if (comparison? operator 0 0).isNone then .error (.unexpectedOperator left)
    else
      match integer? left, integer? right with
      | some leftValue, some rightValue =>
        .ok ((comparison? operator leftValue rightValue).getD false)
      | none, _ => .error (.illegalNumber left)
      | _, none => .error (.illegalNumber right)
  | left :: _ => .error (.unexpectedOperator left)

/-- The parts of a list around an item. -/
def splitAtItem (item : String) : List String → List (List String)
  | [] => [[]]
  | first :: rest =>
    match splitAtItem item rest with
    | part :: parts => if first == item then [] :: part :: parts else (first :: part) :: parts
    | [] => [[first]]

/-- Whether a condition on texts, numbers and files holds. -/
def holds (disk : Disk) (arguments : List String) : Except ConditionFault Bool :=
  if arguments.length ≤ 3 then holdsAlone disk arguments
  else do
    let parts ← (splitAtItem "-o" arguments).mapM fun part => do
      let values ← (splitAtItem "-a" part).mapM (holdsAlone disk)
      return values.all id
    return parts.any id

/-- Look whether a condition holds. -/
def testTool (tool : String) (arguments : List String) : Running Nat := do
  match holds (← get).disk arguments with
  | .ok value => return if value then 0 else 1
  | .error fault =>
    Running.complainHere (tool ++ ": " ++ fault.message)
    return 2

/-- Look whether a condition between brackets holds. -/
def bracketTool (arguments : List String) : Running Nat := do
  if arguments.getLast? == some "]" then testTool "[" arguments.dropLast
  else
    Running.complainHere "[: missing ]"
    return 2

/-- End a script, or a function of it; without a number with the status of the last command. -/
def leaveTool (tool : String) (ending : Nat → Running Nat) (arguments : List String) :
    Running Nat := do
  match arguments with
  | [] => ending (← get).status
  | text :: _ =>
    match natural? text with
    | some status => ending (status % 256)
    | none =>
      Running.complainHere (tool ++ ": Illegal number: " ++ text)
      throw (.left 2)

/-- End the script. -/
def exitTool : List String → Running Nat := leaveTool "exit" fun status => throw (.left status)

/-- End a function. -/
def returnTool : List String → Running Nat :=
  leaveTool "return" fun status => do
    Running.setStatus status
    throw .returned

/-- The number of loops that an argument tells. -/
def loopsOf (arguments : List String) : Nat := ((arguments.head?.bind natural?).getD 1)

/-- Send a signal; only the shell itself and what runs in its background can be reached. -/
def killTool (arguments : List String) : Running Nat := do
  let isHarmless := arguments.contains "-0"
  if arguments.contains "$" then
    if isHarmless then return 0 else throw .killed
  else if arguments.contains "!" then
    unless isHarmless do modify fun state => { state with lasting := state.elapsed }
    return 0
  else
    Running.complainHere "kill: No such process"
    return 1

/-- Wait for what runs in the background. -/
def waitTool : Running Nat := do
  let state ← get
  Running.wait (state.lasting - state.elapsed)
  return 0

/-- Bind names to the words of a line; the last one takes what is left. -/
def bindWords : List String → List Char → Running Unit
  | [], _ => return ()
  | [name], line =>
    Running.bind name (String.ofList ((line.reverse.dropWhile Char.isWhitespace).reverse))
  | name :: names, line => do
    let word := line.takeWhile fun char => !char.isWhitespace
    Running.bind name (String.ofList word)
    bindWords names ((line.drop word.length).dropWhile Char.isWhitespace)

/-- Read a line of the input into parameters. -/
def readTool (arguments : List String) : Running Nat := do
  let (_, names) := splitOptions arguments
  let state ← get
  let line := state.input.takeWhile (· != 10)
  let rest := state.input.drop line.length
  set { state with input := rest.tail }
  bindWords names ((Text.decodeLossy line).toList.dropWhile Char.isWhitespace)
  return if rest.isEmpty then 1 else 0

/-- A word that sets a parameter: its name and its value. -/
def setting? (text : String) : Option (String × String) :=
  let chars := text.toList
  let name := chars.takeWhile (· != '=')
  if name.length < chars.length then
    some (String.ofList name, String.ofList (chars.drop (name.length + 1)))
  else none

/-- Show parameters to other programs. -/
def exportTool (arguments : List String) : Running Nat := do
  for argument in arguments do
    let name := ((setting? argument).map Prod.fst).getD argument
    match setting? argument with
    | some (name, value) => Running.bind name value
    | none => pure ()
    modify fun state => { state with exported := name :: state.exported }
  return 0

/-- Forget parameters. -/
def unsetTool (arguments : List String) : Running Nat := do
  let (_, names) := splitOptions arguments
  modify fun state =>
    { state with bindings := state.bindings.filter fun entry => !names.contains entry.1 }
  return 0

/-- Set options and arguments. -/
def setTool (arguments : List String) : Running Nat := do
  for argument in arguments.takeWhile (· != "--") do
    if argument.startsWith "-" && argument.toList.contains 'e' then
      modify fun state => { state with strict := true }
    else if argument.startsWith "+" && argument.toList.contains 'e' then
      modify fun state => { state with strict := false }
  if arguments.contains "--" then
    let others := (arguments.dropWhile (· != "--")).tail
    modify fun state => { state with arguments := others }
  return 0

/-- Drop the first arguments. -/
def shiftTool (arguments : List String) : Running Nat := do
  modify fun state => { state with arguments := state.arguments.drop (loopsOf arguments) }
  return 0

end Scaffold.Shell
