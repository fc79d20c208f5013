import Scaffold.Execution.Interaction
import Scaffold.Proofs.Task

/-!
# Attended users

A user together with the decisions that it took about the plan, and users whose messages of
progress always get through.
-/

namespace Scaffold

/-- A user and the decisions that it took. -/
structure Attended (ι : Type) where
  /-- The user. -/
  user : ι
  /-- The decisions in order. -/
  decisions : List Decision
  deriving Repr

namespace Attended

variable {ι : Type}

/-- Run a task on the user. -/
def withUser {α : Type} (task : Task BlueprintError ι α) : Task BlueprintError (Attended ι) α :=
  fun attended =>
    match task attended.user with
    | .ok value user => .ok value { attended with user := user }
    | .error error user => .error error { attended with user := user }

/-- Ask for a decision and note it. -/
def deciding (task : Task BlueprintError ι Decision) : Task BlueprintError (Attended ι) Decision :=
  fun attended =>
    match task attended.user with
    | .ok decision user => .ok decision ⟨user, attended.decisions ++ [decision]⟩
    | .error error user => .error error { attended with user := user }

instance [Interaction ι] : Interaction (Attended ι) where
  colours attended := Interaction.colours attended.user
  patience attended := Interaction.patience attended.user
  ask questions := withUser (Interaction.ask questions)
  confirm summary := deciding (Interaction.confirm summary)
  showDiff diff := withUser (Interaction.showDiff diff)
  info message := withUser (Interaction.info message)
  success message := withUser (Interaction.success message)
  error message := withUser (Interaction.error message)

/-- Nothing but a decision adds to the decisions. -/
theorem decisions_withUser {α : Type} (task : Task BlueprintError ι α) (attended : Attended ι) :
    (Task.after (withUser task) attended).decisions = attended.decisions := by
  unfold Task.after withUser
  cases task attended.user <;> rfl

/-- A task for the user succeeds beside the decisions as without them. -/
theorem succeeds_withUser {α : Type} (task : Task BlueprintError ι α) (attended : Attended ι) :
    Task.succeeds (withUser task) attended = task.succeeds attended.user := by
  unfold Task.succeeds withUser
  cases task attended.user <;> rfl

/-- A task that always succeeds does so on an attended user, and no decision is noted. -/
theorem ensures_withUser {task : Task BlueprintError ι Unit}
    (h : ∀ user, task.succeeds user = true) (noted : List Decision → Prop) :
    Task.Ensures (fun attended => noted attended.decisions) (withUser task)
      (fun _ attended => noted attended.decisions) (fun _ _ => False) := by
  intro attended hg
  have hkept := decisions_withUser task attended
  have hsucceeds := succeeds_withUser task attended
  rw [h] at hsucceeds
  obtain ⟨_, left, hr⟩ := Task.succeeds_iff.mp hsucceeds
  rw [Task.after_of_ok hr] at hkept
  rw [hr]
  rw [← hkept] at hg
  exact hg

/-- A decision that is answered has been noted. -/
theorem ensures_deciding (task : Task BlueprintError ι Decision) :
    Task.Ensures (fun _ => True) (deciding task)
      (fun decision attended => decision ∈ attended.decisions) (fun _ _ => True) := by
  intro attended _
  cases hr : deciding task attended with
  | error error left => trivial
  | ok decision left =>
    unfold deciding at hr
    cases ht : task attended.user with
    | error error user => rw [ht] at hr; cases hr
    | ok answer user =>
      rw [ht] at hr
      cases hr
      exact List.mem_append_right _ List.mem_cons_self

/-- A decision that is made is remembered. -/
theorem ensures_confirm [Interaction ι] (summary : Summary) :
    Task.Ensures (fun _ : Attended ι => True) (Interaction.confirm summary)
      (fun decision attended => decision ∈ attended.decisions) (fun _ _ => True) :=
  ensures_deciding (Interaction.confirm summary)

end Attended

/-- Users whose messages of progress always get through. -/
class SteadyInteraction (ι : Type) [Interaction ι] : Prop where
  /-- Something can always be told. -/
  info (message : String) (user : ι) : Task.succeeds (Interaction.info message) user = true
  /-- So can success. -/
  success (message : String) (user : ι) : Task.succeeds (Interaction.success message) user = true

instance : SteadyInteraction Unattended := ⟨fun _ _ => rfl, fun _ _ => rfl⟩

instance : SteadyInteraction Scripted := ⟨fun _ _ => rfl, fun _ _ => rfl⟩

instance : SteadyInteraction Disconnected := ⟨fun _ _ => rfl, fun _ _ => rfl⟩

instance {ι : Type} [Interaction ι] [SteadyInteraction ι] : SteadyInteraction (Attended ι) where
  info message attended := by
    rw [← SteadyInteraction.info message attended.user]
    exact Attended.succeeds_withUser _ attended
  success message attended := by
    rw [← SteadyInteraction.success message attended.user]
    exact Attended.succeeds_withUser _ attended

end Scaffold
