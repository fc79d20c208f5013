import Scaffold.Blueprint.Fixed
import Scaffold.Blueprint.Recorded
import Scaffold.Proofs.Task

/-!
# Audited blueprints

A blueprint together with the calls made to it and how each of them went. What is required of a
blueprint here is only that its steps leave the world to the changes that it generates.
-/

namespace Scaffold

/-- A call of a step of a blueprint and how it went. -/
structure Attempt where
  /-- The call. -/
  call : BlueprintCall
  /-- Whether the step succeeded. -/
  succeeded : Bool
  deriving Repr, DecidableEq

/-- A blueprint and the calls made to its steps. -/
structure Audited (β : Type) where
  /-- The blueprint. -/
  blueprint : β
  /-- The calls in order. -/
  attempts : List Attempt
  deriving Repr

namespace Audited

variable {β ω : Type}

/-- Make a call and note how it went. -/
def auditing {α : Type} (call : BlueprintCall) (step : Task BlueprintError (β × ω) α) :
    Task BlueprintError (Audited β × ω) α := fun state =>
  match step (state.1.blueprint, state.2) with
  | .ok value left => .ok value (⟨left.1, state.1.attempts ++ [⟨call, true⟩]⟩, left.2)
  | .error error left => .error error (⟨left.1, state.1.attempts ++ [⟨call, false⟩]⟩, left.2)

instance [Declared β] : Declared (Audited β) where
  name audited := Declared.name audited.blueprint
  description audited := Declared.description audited.blueprint
  parameters audited := Declared.parameters audited.blueprint

instance [Blueprint β ω] : Blueprint (Audited β) ω where
  availability host audited :=
    let (active, blueprint) := Blueprint.availability host audited.blueprint
    (active, ⟨blueprint, audited.attempts⟩)
  prepare options := auditing (.prepare options) (Blueprint.prepare options)
  generate := auditing .generate Blueprint.generate
  postApply := auditing .postApply Blueprint.postApply

end Audited

/-- A step of a blueprint leaves the world as it is, whether it succeeds or fails. -/
def LeavesWorld {β ω α : Type} (step : Task BlueprintError (β × ω) α) : Prop :=
  ∀ state, (step.after state).2 = state.2

/-- A blueprint that does not itself write while it prepares and generates. -/
structure PlansQuietly (β ω : Type) [Blueprint β ω] : Prop where
  /-- Preparing leaves the world. -/
  prepare (options : Options) :
    LeavesWorld (Blueprint.prepare options : Task BlueprintError (β × ω) Unit)
  /-- Generating leaves the world. -/
  generate : LeavesWorld (Blueprint.generate : Task BlueprintError (β × ω) (List Change))

/-- A blueprint that never writes itself. -/
structure NeverWrites (β ω : Type) [Blueprint β ω] : Prop extends PlansQuietly β ω where
  /-- The last word leaves the world. -/
  postApply : LeavesWorld (Blueprint.postApply : Task BlueprintError (β × ω) Unit)

section Auditing

variable {β ω α : Type} {call : BlueprintCall} {step : Task BlueprintError (β × ω) α}

/-- A step that leaves the world leaves it where it succeeds. -/
theorem LeavesWorld.of_ok (h : LeavesWorld step) {state left : β × ω} {value : α}
    (hr : step state = .ok value left) : left.2 = state.2 := by
  have hleft := h state
  rw [Task.after_of_ok hr] at hleft
  exact hleft

/-- A step that leaves the world leaves it where it fails. -/
theorem LeavesWorld.of_error (h : LeavesWorld step) {state left : β × ω} {error : BlueprintError}
    (hr : step state = .error error left) : left.2 = state.2 := by
  have hleft := h state
  rw [Task.after_of_error hr] at hleft
  exact hleft

namespace Audited

/-- An audited step succeeds as the step does, and that is noted. -/
theorem auditing_of_ok {state left : Audited β × ω} {value : α}
    (h : auditing call step state = .ok value left) :
    step (state.1.blueprint, state.2) = .ok value (left.1.blueprint, left.2) ∧
      left.1.attempts = state.1.attempts ++ [⟨call, true⟩] := by
  cases hs : step (state.1.blueprint, state.2) with
  | ok value after =>
    simp only [auditing, hs] at h
    cases h
    exact ⟨rfl, rfl⟩
  | error error after =>
    simp only [auditing, hs] at h
    cases h

/-- An audited step fails as the step does, and that is noted. -/
theorem auditing_of_error {state left : Audited β × ω} {error : BlueprintError}
    (h : auditing call step state = .error error left) :
    step (state.1.blueprint, state.2) = .error error (left.1.blueprint, left.2) ∧
      left.1.attempts = state.1.attempts ++ [⟨call, false⟩] := by
  cases hs : step (state.1.blueprint, state.2) with
  | ok value after =>
    simp only [auditing, hs] at h
    cases h
  | error error after =>
    simp only [auditing, hs] at h
    cases h
    exact ⟨rfl, rfl⟩

end Audited

end Auditing

namespace FixedBlueprint

variable {ω : Type}

/-- A check changes nothing. -/
theorem after_failIf {σ : Type} (error? : Option BlueprintError) (state : σ) :
    Task.after (failIf error?) state = state := by
  cases error? <;> rfl

/-- A fixed blueprint never writes. -/
theorem neverWrites [FileHost ω] : NeverWrites FixedBlueprint ω where
  prepare _ state := congrArg Prod.snd (after_failIf state.1.prepareError? state)
  generate := by
    have hkept : ∀ host : ω, Task.Keeps (fun state : FixedBlueprint × ω => state.2 = host)
        (Blueprint.generate : Task BlueprintError (FixedBlueprint × ω) (List Change)) := by
      intro host
      change Task.Keeps _ ((get : Task BlueprintError (FixedBlueprint × ω) _) >>= _)
      apply Task.keeps_bind
      · exact fun _ h => h
      · intro state
        apply Task.keeps_bind
        · intro left h
          rw [after_failIf]
          exact h
        · intro _
          cases state.1.planned.mapM (·.realize state.2) with
          | ok changes => exact Task.keeps_pure _ changes
          | error error => exact Task.keeps_throw _ error
    exact fun state => hkept state.2 state rfl
  postApply state := congrArg Prod.snd (after_failIf state.1.postError? state)

end FixedBlueprint

end Scaffold
