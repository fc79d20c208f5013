import Scaffold.CommandLine.Invocation
import Scaffold.Execution
import Scaffold.Product

/-!
# The program

A run of the program: the configuration is loaded, blueprints are registered, the command line is
followed, and the blueprint chosen is executed on the disk. Whoever asked for it unattended gets
the proposals and the output; otherwise questions would have to be asked at a terminal, and there
is none.
-/

namespace Scaffold

/-- Why a run did not start. -/
inductive StartError where
  | config (error : ConfigError)
  | registry (error : RegistryError)
  | usage (error : UsageError)
  deriving Repr, DecidableEq

/-- Why a run failed. -/
inductive RunError where
  /-- No blueprint can be used in the project. -/
  | nothingAvailable
  /-- A blueprint would have to be chosen at a terminal. -/
  | unanswered
  /-- The blueprint chosen is not registered. -/
  | registry (error : RegistryError)
  /-- The blueprint failed. -/
  | blueprint (error : BlueprintError)
  deriving Repr, DecidableEq

/-- The words for an error. -/
def RunError.message : RunError → String
  | .nothingAvailable => "No blueprints are available in this project."
  | .unanswered => Disconnected.failure.message
  | .registry error => error.message
  | .blueprint error => error.message

/-- A run before anything is executed. -/
structure PlannedRun where
  /-- The blueprints to choose from. -/
  registry : Registry ProgramBlueprint
  /-- What was asked for. -/
  invocation : Invocation

/-- A run after its end. -/
structure FinishedRun where
  /-- How it ended. -/
  result : Except RunError ExecutionOutcome
  /-- The disk. -/
  disk : Disk
  /-- What was printed. -/
  output : String

namespace Program

/-- Plan a run on a disk. -/
def plan (disk : Disk) (words : List String) : Except StartError PlannedRun :=
  match ProjectConfig.load disk Product.tools.config with
  | .error error => .error (.config error)
  | .ok config =>
    match Product.tools.discover Product.builtIns config (RootedDisk.mk disk none) with
    | .error error => .error (.registry error)
    | .ok registry =>
      match Invocation.parse registry words Product.tools with
      | .error error => .error (.usage error)
      | .ok invocation => .ok ⟨registry, invocation⟩

/-- Execute a blueprint for a user; `printed` tells what the user printed. -/
def executeFor {ι : Type} [Interaction ι] (user : ι) (printed : ι → String)
    (entry : RegistryEntry ProgramBlueprint) (invocation : Invocation) (disk : Disk) :
    FinishedRun :=
  let start := Execution.start entry.blueprint (RootedDisk.mk disk none) user
  match Execution.execute entry.isActive invocation.dryRun invocation.options start with
  | .ok outcome execution =>
    ⟨.ok outcome, execution.session.host.disk, printed execution.user⟩
  | .error error execution =>
    ⟨.error (.blueprint error), execution.session.host.disk, printed execution.user⟩

/-- Execute a planned run on a disk. -/
def execute (colours : Bool) (planned : PlannedRun) (disk : Disk) : FinishedRun :=
  match planned.invocation.blueprint? with
  | none =>
    ⟨.error (if planned.registry.active.isEmpty then .nothingAvailable else .unanswered), disk, ""⟩
  | some name =>
    match planned.registry.get name with
    | .error error => ⟨.error (.registry error), disk, ""⟩
    | .ok entry =>
      if planned.invocation.yes then
        executeFor (Unattended.start colours) Unattended.output entry planned.invocation disk
      else executeFor (Disconnected.mk colours) (fun _ => "") entry planned.invocation disk

/-- What the program leaves when it exits. -/
structure Exit where
  /-- The exit code. -/
  code : Nat
  /-- What was printed. -/
  output : String
  /-- What was printed apart. -/
  errors : String
  /-- The disk. -/
  disk : Disk

/-- The exit of a run that did not start. Only the version is printed in full. -/
def exitOfStart (error : StartError) (disk : Disk) : Exit :=
  match error with
  | .config error => ⟨1, "", error.message ++ "\n", disk⟩
  | .registry error => ⟨1, "", error.message ++ "\n", disk⟩
  | .usage .versionWanted =>
    ⟨0, Product.tools.name ++ " " ++ fullVersion Product.tools.version ++ "\n", "", disk⟩
  | .usage error => ⟨error.exitCode, "", "", disk⟩

/-- The exit of a finished run. -/
def exitOfRun (run : FinishedRun) : Exit :=
  match run.result with
  | .ok _ => ⟨0, run.output, "", run.disk⟩
  | .error error => ⟨1, run.output, error.message ++ "\n", run.disk⟩

/-- The whole program, without a terminal and without colours; `words` follow its name. -/
def run (disk : Disk) (words : List String) : Exit :=
  match plan disk (Product.tools.name :: words) with
  | .error error => exitOfStart error disk
  | .ok planned => exitOfRun (execute false planned disk)

end Program

end Scaffold
