import Scaffold.Blueprint

/-!
# Fixed blueprints

A blueprint whose answers are laid down beforehand: whether it can be used, what it generates and
with which errors its steps fail.
-/

namespace Scaffold

/-- Something that a fixed blueprint generates. -/
inductive PlannedChange where
  /-- A change as it stands. -/
  | ready (change : Change)
  /-- A new file, refused when there is something at its path. -/
  | newFile (path : Path) (content : String)
  deriving Repr

/-- The change that is meant, on a host. -/
def PlannedChange.realize {ω : Type} [FileHost ω] (host : ω) :
    PlannedChange → Except BlueprintError Change
  | .ready change => .ok change
  | .newFile path content => createFile host path content

/-- A blueprint with answers laid down beforehand. -/
structure FixedBlueprint where
  /-- The name. -/
  name : String
  /-- What it is for. -/
  description : String
  /-- The inputs. -/
  parameters : List Parameter
  /-- Whether it can be used. -/
  active : Bool
  /-- What it generates, in order. -/
  planned : List PlannedChange
  /-- The error with which preparing fails. -/
  prepareError? : Option BlueprintError
  /-- The error with which generating fails. -/
  generateError? : Option BlueprintError
  /-- The error with which the last step fails. -/
  postError? : Option BlueprintError
  deriving Repr

namespace FixedBlueprint

/-- Fail with the error, if there is one. -/
def failIf {σ : Type} (error? : Option BlueprintError) : Task BlueprintError σ Unit :=
  match error? with
  | some error => throw error
  | none => pure ()

instance : Declared FixedBlueprint where
  name := FixedBlueprint.name
  description := FixedBlueprint.description
  parameters := FixedBlueprint.parameters

instance {ω : Type} [FileHost ω] : Blueprint FixedBlueprint ω where
  availability _ blueprint := (blueprint.active, blueprint)
  prepare _ := do failIf (← get).1.prepareError?
  generate := do
    let (blueprint, host) ← get
    failIf blueprint.generateError?
    match blueprint.planned.mapM (·.realize host) with
    | .ok changes => return changes
    | .error error => throw error
  postApply := do failIf (← get).1.postError?

end FixedBlueprint

end Scaffold
