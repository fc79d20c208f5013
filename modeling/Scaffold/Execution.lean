import Scaffold.Blueprint.Lifecycle
import Scaffold.Diff.Preview
import Scaffold.Execution.Interaction

/-!
# Executions

One blueprint from the options given to the last step. The values missing are asked for, the plan
is confirmed, and only then changes are applied. A dry run shows the plan and every diff instead
and writes nothing.
-/

namespace Scaffold

/-- How an execution ended, when it did not fail. -/
inductive ExecutionOutcome where
  /-- The changes were applied and the last step was made. -/
  | applied
  /-- The user declined. -/
  | aborted
  /-- The requirements were not met. -/
  | rejected
  /-- The plan was shown. -/
  | previewed
  deriving Repr, DecidableEq

/-- A session and its user. -/
structure Execution (β ω ι : Type) where
  /-- The run and the world. -/
  session : Session β ω
  /-- The user. -/
  user : ι
  deriving Repr

namespace Execution

variable {β ω ι : Type}

/-- A new execution of a blueprint. -/
def start (blueprint : β) (host : ω) (user : ι) : Execution β ω ι :=
  ⟨⟨BlueprintRun.start blueprint, host⟩, user⟩

/-- Run a task on the session. -/
def onSession {α : Type} (task : Task BlueprintError (Session β ω) α) :
    Task BlueprintError (Execution β ω ι) α := fun execution =>
  match task execution.session with
  | .ok value session => .ok value { execution with session := session }
  | .error error session => .error error { execution with session := session }

/-- Run a task on the user. -/
def onUser {α : Type} (task : Task BlueprintError ι α) :
    Task BlueprintError (Execution β ω ι) α := fun execution =>
  match task execution.user with
  | .ok value user => .ok value { execution with user := user }
  | .error error user => .error error { execution with user := user }

/-- Fill in missing values. A required value that cannot be asked for must be given; if any other
is missing, everything that may be asked for is asked. -/
def ensureOptions [Declared β] [Interaction ι] (options : Options) :
    Task BlueprintError (Execution β ω ι) Options := do
  let parameters := Declared.parameters (← get).session.run.blueprint
  let missing := (Parameter.missing parameters options).filter (·.default?.isNone)
  match missing.find? (·.isFlagOnly) with
  | some parameter => throw (.validation parameter.unspecified)
  | none =>
    if missing.isEmpty then return options
    else
      let questions := (parameters.filter (·.ask)).map (Question.of · options)
      let answers ← onUser (Interaction.ask questions)
      return options.insertAll answers.entries

/-- Show what happens to a file. -/
def reveal [Interaction ι] [FileHost ω] (cluster : ChangeCluster) (path : Path) :
    Task BlueprintError (Execution β ω ι) Unit := do
  let diff ← onSession (Session.onHost (FileDiff.preview cluster path))
  onUser (Interaction.showDiff diff)

/-- Ask what to do until the user applies or cancels, looking at files at most `looks` times. -/
def decide [Interaction ι] [FileHost ω] (cluster : ChangeCluster) (summary : Summary) :
    Nat → Task BlueprintError (Execution β ω ι) Bool
  | 0 => do return (← onUser (Interaction.confirm summary)) == .apply
  | looks + 1 => do
    match ← onUser (Interaction.confirm summary) with
    | .apply => return true
    | .cancel => return false
    | .reveal path =>
      reveal cluster path
      decide cluster summary looks

/-- Whether the user wants the plan applied. -/
def confirm [Blueprint β ω] [Interaction ι] [FileHost ω] :
    Task BlueprintError (Execution β ω ι) Bool := do
  let cluster ← onSession Session.cluster
  let execution ← get
  let summary := Summary.ofCluster cluster execution.session.host
  decide cluster summary (Interaction.patience execution.user)

/-- Show diffs one after the other. -/
def showDiffs [Interaction ι] : List FileDiff → Task BlueprintError (Execution β ω ι) Unit
  | [] => pure ()
  | diff :: rest => do
    onUser (Interaction.showDiff diff)
    showDiffs rest

/-- Show the plan and what happens to each file, and give the run up. -/
def preview [Blueprint β ω] [Interaction ι] [FileHost ω] :
    Task BlueprintError (Execution β ω ι) ExecutionOutcome := do
  let cluster ← onSession Session.cluster
  let execution ← get
  let summary := Summary.ofCluster cluster execution.session.host
  onUser (Interaction.info
    ("Plan of operation:\n" ++ summary.render (Interaction.colours execution.user)))
  let diffs ← onSession (Session.onHost (FileDiff.previewAll cluster))
  showDiffs diffs
  onSession Session.abort
  onUser (Interaction.info "Dry run, nothing was changed")
  return .previewed

/-- Everything up to the last step. -/
def applyConfirmed [Blueprint β ω] [Interaction ι] [FileHost ω] (active dryRun : Bool)
    (options : Options) : Task BlueprintError (Execution β ω ι) ExecutionOutcome := do
  onSession (Session.checkPrecondition active)
  let options ← ensureOptions options
  onSession (Session.acceptOptions options)
  onSession Session.prepare
  if dryRun then preview
  else if ← confirm then
    onUser (Interaction.info "Applying changes...")
    onSession Session.apply
    return .applied
  else
    onSession Session.abort
    onUser (Interaction.info "Aborted, nothing was changed")
    return .aborted

/-- Tell the user about an error and fail with it. -/
def fail [Interaction ι] {α : Type} (error : BlueprintError) :
    Task BlueprintError (Execution β ω ι) α := fun execution =>
  match Interaction.error error.message execution.user with
  | .ok _ user => .error error { execution with user := user }
  | .error _ user => .error error { execution with user := user }

/-- Execute the blueprint with the options given. A validation error ends the run as rejected;
every other error is told and returned. -/
def execute [Blueprint β ω] [Interaction ι] [FileHost ω] (active dryRun : Bool)
    (options : Options) : Task BlueprintError (Execution β ω ι) ExecutionOutcome :=
  fun execution =>
    match applyConfirmed active dryRun options execution with
    | .error (.validation message) execution =>
      (do
        onUser (Interaction.error ("Cannot proceed: " ++ message))
        return .rejected : Task BlueprintError (Execution β ω ι) ExecutionOutcome) execution
    | .error error execution => fail error execution
    | .ok .applied execution =>
      match onSession Session.postApply execution with
      | .error error execution => fail error execution
      | .ok _ execution =>
        (do
          onUser (Interaction.success "Completed, have a productive day!")
          return .applied : Task BlueprintError (Execution β ω ι) ExecutionOutcome) execution
    | .ok outcome execution => .ok outcome execution

end Execution

end Scaffold
