import Scaffold.Disk
import Scaffold.Shell.Script

/-!
# Shell states

What a shell works on while it runs a script: the disk, its parameters, the status of the last
command, where its streams lead, and the time that has passed. A script may end early because it
says so, because it is killed, or because its time is up.
-/

namespace Scaffold.Shell

/-- Why a script ended before its last command. -/
inductive Ending where
  /-- It left with a status. -/
  | left (status : Nat)
  /-- It was killed. -/
  | killed
  /-- Its time was up. -/
  | timedOut
  /-- It would go on for ever. -/
  | endless
  /-- A number of loops are left. -/
  | broke (loops : Nat)
  /-- A loop goes on with its next round, and the loops within it are left. -/
  | continued (loops : Nat)
  /-- A function is left. -/
  | returned
  deriving Repr, DecidableEq

/-- Where bytes go. -/
inductive Sink where
  /-- Into one of the buffers of the shell. -/
  | buffer (index : Nat)
  /-- To the end of a file. -/
  | file (path : Path)
  /-- Nowhere. -/
  | nowhere
  deriving Repr, DecidableEq

/-- The state of a shell. -/
structure State where
  /-- The name that complaints start with. -/
  name : String
  /-- The disk. -/
  disk : Disk
  /-- The parameters with names, the latest value first. -/
  bindings : List (String × String)
  /-- The names that other programs see. -/
  exported : List String
  /-- The arguments. -/
  arguments : List String
  /-- The functions, the latest first. -/
  functions : List (String × Script)
  /-- The status of the last command. -/
  status : Nat
  /-- The line of the last command. -/
  line : Nat
  /-- Whether the shell leaves when a command fails. -/
  strict : Bool
  /-- Whether the failure of a command decides about others. -/
  tested : Bool
  /-- What is left of the input. -/
  input : List UInt8
  /-- What was written: to the output, as errors, and to be used within the script. -/
  buffers : Array ByteArray
  /-- Where the output goes. -/
  outputSink : Sink
  /-- Where the errors go. -/
  errorSink : Sink
  /-- The milliseconds that have passed. -/
  elapsed : Nat
  /-- The milliseconds after which everything in the background has ended. -/
  lasting : Nat
  /-- The milliseconds that may pass. -/
  limit? : Option Nat

/-- The state at the start of a script. -/
def State.start (disk : Disk) (limit? : Option Nat) : State where
  name := "sh"
  disk := disk
  bindings := []
  exported := []
  arguments := []
  functions := []
  status := 0
  line := 1
  strict := false
  tested := false
  input := []
  buffers := #[.empty, .empty]
  outputSink := .buffer 0
  errorSink := .buffer 1
  elapsed := 0
  lasting := 0
  limit? := limit?

namespace State

/-- The bytes in a buffer. -/
def bytes (state : State) (index : Nat) : List UInt8 := (state.buffers.getD index .empty).toList

/-- What was written to the output. -/
def output (state : State) : List UInt8 := state.bytes 0

/-- What was written as errors. -/
def errors (state : State) : List UInt8 := state.bytes 1

/-- The state with bytes sent to a sink. -/
def send (bytes : List UInt8) (sink : Sink) (state : State) : State :=
  match sink with
  | .buffer index =>
    { state with
      buffers := state.buffers.modify index fun before => before ++ ⟨bytes.toArray⟩ }
  | .nowhere => state
  | .file path =>
    let before := ((state.disk.readContent path).toOption.map (·.bytes)).getD []
    match state.disk.writeContent path (.ofBytes (before ++ bytes)) with
    | .ok disk => { state with disk := disk }
    | .error _ => state

/-- The sink of a stream. -/
def sink (stream : Nat) (state : State) : Sink :=
  if stream == 2 then state.errorSink else state.outputSink

/-- The state with another sink for a stream. -/
def withSink (stream : Nat) (sink : Sink) (state : State) : State :=
  if stream == 2 then { state with errorSink := sink }
  else if stream == 1 then { state with outputSink := sink }
  else state

end State

/-- Running something in a shell. -/
abbrev Running := EStateM Ending State

namespace Running

/-- Write bytes. -/
def writeBytes (bytes : List UInt8) : Running Unit :=
  modify fun state => state.send bytes state.outputSink

/-- Write a text. -/
def write (text : String) : Running Unit := writeBytes (Text.encode text.toList)

/-- Write a line of errors. -/
def complain (line : String) : Running Unit :=
  modify fun state => state.send (Text.encode (line ++ "\n").toList) state.errorSink

/-- Write a line of errors that tells its line in the script. -/
def complainHere (text : String) : Running Unit := do
  let state ← get
  complain (state.name ++ ": " ++ toString state.line ++ ": " ++ text)

/-- Set the status. -/
def setStatus (status : Nat) : Running Unit := modify fun state => { state with status := status }

/-- Set a parameter. -/
def bind (name value : String) : Running Unit :=
  modify fun state => { state with bindings := (name, value) :: state.bindings }

/-- Let time pass, up to the limit. -/
def wait (milliseconds : Nat) : Running Unit := do
  let state ← get
  let elapsed := state.elapsed + milliseconds
  if state.limit?.any (· ≤ elapsed) then throw .timedOut
  else set { state with elapsed := elapsed }

/-- Change the disk, or tell why it could not be changed. -/
def changeDisk (change : Disk → Except FileFault Disk) : Running (Option FileFault) := do
  let state ← get
  match change state.disk with
  | .ok disk =>
    set { state with disk := disk }
    return none
  | .error fault => return some fault

/-- Take all of the input. -/
def takeInput : Running (List UInt8) := do
  let state ← get
  set { state with input := [] }
  return state.input

/-- Run something and leave its ending, if it ends early, to be looked at. -/
def attempt (running : Running Unit) : Running (Option Ending) := fun state =>
  match running state with
  | .ok _ state => .ok none state
  | .error ending state => .ok (some ending) state

/-- End early if there is an ending. -/
def resume (ending? : Option Ending) : Running Unit :=
  match ending? with
  | some ending => throw ending
  | none => pure ()

/-- Run something in a shell of its own. -/
def isolate (running : Running Unit) : Running Unit := do
  let before ← get
  match ← attempt running with
  | some (.left status) => setStatus status
  | some (.broke _) => pure ()
  | some (.continued _) => pure ()
  | some .returned => pure ()
  | ending? => resume ending?
  modify fun state =>
    { before with
      disk := { state.disk with cwd := before.disk.cwd }
      status := state.status
      input := state.input
      buffers := state.buffers
      elapsed := state.elapsed
      lasting := state.lasting }

/-- Run something and take what it writes to the output. -/
def capture (running : Running Unit) : Running (List UInt8) := do
  let before ← get
  let index := before.buffers.size
  set { before with buffers := before.buffers.push .empty, outputSink := .buffer index }
  let ending? ← attempt running
  let after ← get
  set { after with buffers := after.buffers.take index, outputSink := before.outputSink }
  resume ending?
  return after.bytes index

/-- Run something whose failure decides about others. -/
def test (running : Running Unit) : Running Unit := do
  let before := (← get).tested
  modify fun state => { state with tested := true }
  let ending? ← attempt running
  modify fun state => { state with tested := before }
  resume ending?

end Running

/-- The file that takes everything and gives nothing. -/
def nullFile : String := "/dev/null"

/-- The file that gives zeros without end. -/
def zeroFile : String := "/dev/zero"

/-- How many rounds or bytes stand for what has no end. -/
def endlessCount : Nat := 100000

/-- Open a file to be written, and send a stream to it. -/
def openOutput (stream : Nat) (text : String) (appends : Bool) : Running Bool := do
  let path : Path := ⟨text⟩
  let state ← get
  let before :=
    if appends then (state.disk.readContent path).toOption.getD (.text "") else .text ""
  match ← Running.changeDisk fun disk => disk.writeContent path before with
  | none =>
    modify (·.withSink stream (.file path))
    return true
  | some .isDirectory =>
    Running.complainHere ("cannot create " ++ text ++ ": Is a directory")
    return false
  | some _ =>
    Running.complainHere ("cannot create " ++ text ++ ": Directory nonexistent")
    return false

/-- Send a stream to a file by its name; tells whether that went well. -/
def redirectTo (stream : Nat) (text : String) (appends : Bool) : Running Bool := do
  let state ← get
  let sink? : Option Sink :=
    if text == nullFile then some .nowhere
    else if text == "/dev/stdout" then some (state.sink 1)
    else if text == "/dev/stderr" then some (state.sink 2)
    else none
  match sink? with
  | some sink =>
    modify (·.withSink stream sink)
    return true
  | none => openOutput stream text appends

/-- The bytes of a file by its name, as far as anybody reads them. -/
def bytesOf (disk : Disk) (text : String) : Except FileFault (List UInt8) :=
  if text == nullFile then .ok []
  else if text == zeroFile then .ok (List.replicate endlessCount 0)
  else (disk.readContent ⟨text⟩).map (·.bytes)

/-- Read the input from a file by its name; tells whether that went well. -/
def redirectFrom (text : String) : Running Bool := do
  let state ← get
  match bytesOf state.disk text with
  | .ok bytes =>
    set { state with input := bytes }
    return true
  | .error _ =>
    Running.complainHere ("cannot open " ++ text ++ ": No such file")
    return false

/-- Send one stream where another goes; tells whether that went well. -/
def redirectLike (stream : Nat) (source : String) : Running Bool := do
  if source == "-" then modify (·.withSink stream .nowhere)
  else if source == "1" || source == "2" then
    modify fun state => state.withSink stream (state.sink (if source == "1" then 1 else 2))
  else
    Running.complainHere (source ++ ": Bad file descriptor")
    return false
  return true

/-- Run something that may redirect streams, and lead them back where they went before. -/
def restoringStreams (reads : Bool) (running : Running Unit) : Running Unit := do
  let before ← get
  let ending? ← Running.attempt running
  modify fun state =>
    { state with
      outputSink := before.outputSink
      errorSink := before.errorSink
      input := if reads then before.input else state.input }
  Running.resume ending?

end Scaffold.Shell
