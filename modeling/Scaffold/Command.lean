import Scaffold.Blueprint.Error
import Scaffold.Host.Workspace
import Scaffold.Shell.Run
import Scaffold.Text.Blank

/-!
# Commands

A command line is run by a shell in a directory, for a limited time. A status other than zero is an
error, whose words end in what the command complained about.
-/

namespace Scaffold

/-- What a command printed. -/
structure CommandOutput where
  /-- Its output. -/
  output : String
  /-- Its errors. -/
  errors : String
  deriving Repr, DecidableEq

namespace CommandOutput

/-- The words for a command that failed with a status. -/
def failure (status : Int) (command errors : String) : BlueprintError :=
  .other ("Command failed with exit code " ++ toString status ++ ": " ++ command ++ "\n" ++
    Text.trim errors)

/-- The words for a command whose time was up. -/
def timeout (limit : Nat) (command : String) : BlueprintError :=
  .other ("Command timed out after " ++ toString limit ++ "ms: " ++ command)

/-- What comes of a script that ended. -/
def ofRun (limit? : Option Nat) (command : String) (state : Shell.State)
    (ending? : Option Shell.Ending) : Except BlueprintError CommandOutput :=
  let output := Text.decodeLossy state.output
  let errors := Text.decodeLossy state.errors
  let ofStatus (status : Nat) :=
    if status == 0 then .ok ⟨output, errors⟩ else .error (failure status command errors)
  match ending? with
  | some (.left status) => ofStatus status
  | some .killed => .error (failure (-1) command errors)
  | some .timedOut => .error (timeout (limit?.getD 0) command)
  | some .endless => .error (timeout (limit?.getD 0) command)
  | _ => ofStatus state.status

/-- The words for a command that no shell can be started with. -/
def nullByteMessage : String := "nul byte found in provided data"

/-- The place of the directory that a command is to run in, or why no shell can be started there. -/
def startPlace (directory : Path) (command : String) (disk : Disk) : Except String Place :=
  let hasNull (text : String) : Bool := text.toList.contains '\x00'
  if hasNull command || hasNull directory.text then .error nullByteMessage
  else
    match disk.find .use directory with
    | .ok (place, .directory) => .ok place
    | .ok _ => .error FileFault.notDirectory.message
    | .error fault => .error fault.message

/-- Run a command in a directory. Where there is no time at all the command does nothing. -/
def run (directory : Path) (command : String) (limit? : Option Nat) :
    Task BlueprintError Disk CommandOutput := fun disk =>
  match startPlace directory command disk with
  | .error message => .error (.access message) disk
  | .ok place =>
    if limit? == some 0 then .error (timeout 0 command) disk
    else
      let (state, ending?) := Shell.run { disk with cwd := place } limit? command
      let disk := { state.disk with cwd := disk.cwd }
      match ofRun limit? command state ending? with
      | .ok output => .ok output disk
      | .error error => .error error disk

end CommandOutput

end Scaffold
