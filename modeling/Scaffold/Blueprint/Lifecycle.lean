import Scaffold.Blueprint
import Scaffold.Change.Apply
import Scaffold.Change.Cluster

/-!
# The lifecycle of a run

One run of one blueprint passes through fixed states. Each step is allowed in one state only, and
a step that fails leaves the state as it was, except that a failure while changes are applied
leaves the run applying. The changes are generated once and kept.
-/

namespace Scaffold

/-- A blueprint on its way through a run. -/
structure BlueprintRun (β : Type) where
  /-- The blueprint. -/
  blueprint : β
  /-- Where the run stands. -/
  state : LifecycleState
  /-- The options accepted. -/
  options : Options
  /-- The changes, once they were generated. -/
  cluster? : Option ChangeCluster
  deriving Repr

/-- A new run of a blueprint. -/
def BlueprintRun.start {β : Type} (blueprint : β) : BlueprintRun β :=
  ⟨blueprint, .created, Options.empty, none⟩

/-- A run and the world it works on. -/
structure Session (β ω : Type) where
  /-- The run. -/
  run : BlueprintRun β
  /-- The world. -/
  host : ω
  deriving Repr

/-- The options with the default of a parameter that has no value. -/
def Parameter.fillDefault (parameter : Parameter) (options : Options) : Options :=
  match options.find? parameter.name, parameter.default? with
  | none, some value => options.insert parameter.name value
  | _, _ => options

/-- What is wrong with the value of a parameter in the options, if anything. -/
def Parameter.complaint? (parameter : Parameter) (options : Options) : Option String :=
  match options.find? parameter.name with
  | some value => (parameter.fault? value).map (·.message)
  | none => if parameter.require then some parameter.unspecified else none

/-- The options completed by defaults, if every parameter is content with its value. -/
def Options.complete : List Parameter → Options → Except String Options
  | [], options => .ok options
  | parameter :: rest, options =>
    let filled := parameter.fillDefault options
    match parameter.complaint? filled with
    | some complaint => .error complaint
    | none => Options.complete rest filled

namespace Session

variable {β ω : Type}

/-- Run a step of the blueprint. -/
def ofBlueprint {α : Type} (step : Task BlueprintError (β × ω) α) :
    Task BlueprintError (Session β ω) α := fun session =>
  match step (session.run.blueprint, session.host) with
  | .ok value (blueprint, host) => .ok value ⟨{ session.run with blueprint := blueprint }, host⟩
  | .error error (blueprint, host) =>
    .error error ⟨{ session.run with blueprint := blueprint }, host⟩

/-- Run a task on the world. -/
def onHost {α : Type} (task : Task ChangeError ω α) : Task BlueprintError (Session β ω) α :=
  fun session =>
    match task session.host with
    | .ok value host => .ok value { session with host := host }
    | .error error host => .error (.change error) { session with host := host }

/-- Go on only in the given state; otherwise the step to the target is refused. -/
def requireState (state target : LifecycleState) : Task BlueprintError (Session β ω) Unit :=
  fun session =>
    if session.run.state = state then .ok () session
    else .error (.invalidTransition session.run.state target) session

/-- Enter a state. -/
def enter (target : LifecycleState) : Task BlueprintError (Session β ω) Unit := fun session =>
  .ok () { session with run := { session.run with state := target } }

/-- Move from one state to another. -/
def move (source target : LifecycleState) : Task BlueprintError (Session β ω) Unit := do
  requireState source target
  enter target

/-- Accept whether the blueprint can be used. -/
def checkPrecondition [Declared β] (active : Bool) : Task BlueprintError (Session β ω) Unit := do
  let session ← get
  if active then move .created .preconditionChecked
  else
    throw (.validation
      ("Blueprint " ++ Declared.name session.run.blueprint ++ " is not available in this project"))

/-- Accept options: defaults are filled in, every required parameter needs a value, and every
value has to fit. -/
def acceptOptions [Declared β] (options : Options) : Task BlueprintError (Session β ω) Unit := do
  requireState .preconditionChecked .optionsGathered
  let session ← get
  match Options.complete (Declared.parameters session.run.blueprint) options with
  | .error complaint => throw (.validation complaint)
  | .ok completed =>
    set { session with run := { session.run with options := completed } }
    enter .optionsGathered

/-- Let the blueprint prepare itself. -/
def prepare [Blueprint β ω] : Task BlueprintError (Session β ω) Unit := do
  requireState .optionsGathered .prepared
  let session ← get
  ofBlueprint (Blueprint.prepare session.run.options)
  enter .prepared

/-- The changes of the run, generated at the first request. -/
def cluster [Blueprint β ω] : Task BlueprintError (Session β ω) ChangeCluster := do
  let session ← get
  if session.run.state = .prepared ∨ session.run.state = .applying then
    match session.run.cluster? with
    | some cluster => return cluster
    | none =>
      let cluster := ChangeCluster.ofChanges (← ofBlueprint Blueprint.generate)
      modify fun session => { session with run := { session.run with cluster? := some cluster } }
      return cluster
  else throw (.notPrepared session.run.state)

/-- Give the run up. -/
def abort : Task BlueprintError (Session β ω) Unit := move .prepared .aborted

/-- Create files empty, one after the other. -/
def ensureFiles [FileHost ω] : List Path → Task ChangeError ω Unit
  | [] => pure ()
  | path :: rest => do
    FileHost.ensureFile path
    ensureFiles rest

/-- Create the files of a plan and apply its changes. -/
def applyCluster [FileHost ω] (cluster : ChangeCluster) : Task ChangeError ω Unit := do
  ensureFiles cluster.files
  Change.applyAll cluster.changes

/-- Apply the changes. What was applied before a failure stays. -/
def apply [Blueprint β ω] [FileHost ω] : Task BlueprintError (Session β ω) Unit := do
  let _ ← cluster
  move .prepared .applying
  let cluster ← cluster
  onHost (applyCluster cluster)
  move .applying .applied

/-- Give the blueprint its last word. -/
def postApply [Blueprint β ω] : Task BlueprintError (Session β ω) Unit := do
  requireState .applied .postApplied
  ofBlueprint Blueprint.postApply
  enter .postApplied

end Session

end Scaffold
