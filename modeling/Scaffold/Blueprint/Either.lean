import Scaffold.Blueprint

/-!
# Blueprints of two kinds

A value that is a blueprint of one kind or of another is itself a blueprint.
-/

namespace Scaffold.EitherBlueprint

variable {β γ ω : Type}

/-- Run a step of the first kind. -/
def onLeft {α : Type} (blueprint : β) (world : ω) (step : Task BlueprintError (β × ω) α) :
    EStateM.Result BlueprintError ((β ⊕ γ) × ω) α :=
  match step (blueprint, world) with
  | .ok value (blueprint, world) => .ok value (.inl blueprint, world)
  | .error error (blueprint, world) => .error error (.inl blueprint, world)

/-- Run a step of the second kind. -/
def onRight {α : Type} (blueprint : γ) (world : ω) (step : Task BlueprintError (γ × ω) α) :
    EStateM.Result BlueprintError ((β ⊕ γ) × ω) α :=
  match step (blueprint, world) with
  | .ok value (blueprint, world) => .ok value (.inr blueprint, world)
  | .error error (blueprint, world) => .error error (.inr blueprint, world)

/-- Run the step of the kind that is there. -/
def step {α : Type} (left : Task BlueprintError (β × ω) α) (right : Task BlueprintError (γ × ω) α) :
    Task BlueprintError ((β ⊕ γ) × ω) α
  | (.inl blueprint, world) => onLeft blueprint world left
  | (.inr blueprint, world) => onRight blueprint world right

instance [Declared β] [Declared γ] : Declared (β ⊕ γ) where
  name := Sum.elim Declared.name Declared.name
  description := Sum.elim Declared.description Declared.description
  parameters := Sum.elim Declared.parameters Declared.parameters

instance [Blueprint β ω] [Blueprint γ ω] : Blueprint (β ⊕ γ) ω where
  availability world
    | .inl blueprint =>
      let (active, blueprint) := Blueprint.availability world blueprint
      (active, .inl blueprint)
    | .inr blueprint =>
      let (active, blueprint) := Blueprint.availability world blueprint
      (active, .inr blueprint)
  prepare options := step (Blueprint.prepare options) (Blueprint.prepare options)
  generate := step Blueprint.generate Blueprint.generate
  postApply := step Blueprint.postApply Blueprint.postApply

end Scaffold.EitherBlueprint
