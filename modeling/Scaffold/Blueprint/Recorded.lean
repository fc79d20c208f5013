import Scaffold.Blueprint

/-!
# Recorded blueprints

A blueprint together with the list of the calls made to it.
-/

namespace Scaffold

/-- A call of a step of a blueprint. -/
inductive BlueprintCall where
  /-- The blueprint with this name was asked whether it can be used. -/
  | availability (name : String)
  | prepare (options : Options)
  | generate
  | postApply
  deriving Repr, DecidableEq

/-- A blueprint and the calls made to it, also those that failed. -/
structure Recorded (β : Type) where
  /-- The blueprint. -/
  blueprint : β
  /-- The calls in order. -/
  calls : List BlueprintCall
  deriving Repr

namespace Recorded

variable {β ω : Type}

/-- Note a call and make it. -/
def noting {α : Type} (call : BlueprintCall) (step : Task BlueprintError (β × ω) α) :
    Task BlueprintError (Recorded β × ω) α := fun (recorded, host) =>
  let calls := recorded.calls ++ [call]
  match step (recorded.blueprint, host) with
  | .ok value (blueprint, host) => .ok value (⟨blueprint, calls⟩, host)
  | .error error (blueprint, host) => .error error (⟨blueprint, calls⟩, host)

instance [Declared β] : Declared (Recorded β) where
  name recorded := Declared.name recorded.blueprint
  description recorded := Declared.description recorded.blueprint
  parameters recorded := Declared.parameters recorded.blueprint

instance [Blueprint β ω] : Blueprint (Recorded β) ω where
  availability host recorded :=
    let (active, blueprint) := Blueprint.availability host recorded.blueprint
    (active, ⟨blueprint, recorded.calls ++ [.availability (Declared.name recorded.blueprint)]⟩)
  prepare options := noting (.prepare options) (Blueprint.prepare options)
  generate := noting .generate Blueprint.generate
  postApply := noting .postApply Blueprint.postApply

end Recorded

end Scaffold
