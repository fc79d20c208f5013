import Scaffold.Proofs.Blueprint.Audited
import Scaffold.Proofs.Lifecycle.Steps

/-!
# Auditing changes nothing

A run of an audited blueprint does exactly what the run of the blueprint does; it only keeps the
list of the calls besides.
-/

namespace Scaffold.Session

variable {β ω : Type}

/-- The session without the list of calls. -/
def plain (session : Session (Audited β) ω) : Session β ω :=
  ⟨⟨session.run.blueprint.blueprint, session.run.state, session.run.options,
    session.run.cluster?⟩, session.host⟩

/-- Noting an attempt makes no difference to what the blueprint does. -/
theorem mirrors_auditing {α : Type} (call : BlueprintCall)
    (step : Task BlueprintError (β × ω) α) :
    Task.Mirrors plain (ofBlueprint (Audited.auditing call step)) (ofBlueprint step) := by
  intro session
  cases hs : step (session.run.blueprint.blueprint, session.host) with
  | ok value left =>
    have hplain : ofBlueprint step session.plain = .ok value (session.plain.withWorld left) :=
      ofBlueprint_of_ok hs
    have haudited : Audited.auditing call step (session.run.blueprint, session.host) =
        .ok value (⟨left.1, session.run.blueprint.attempts ++ [⟨call, true⟩]⟩, left.2) := by
      simp only [Audited.auditing, hs]
    rw [ofBlueprint_of_ok haudited, hplain]
    rfl
  | error error left =>
    have hplain : ofBlueprint step session.plain = .error error (session.plain.withWorld left) :=
      ofBlueprint_of_error hs
    have haudited : Audited.auditing call step (session.run.blueprint, session.host) =
        .error error (⟨left.1, session.run.blueprint.attempts ++ [⟨call, false⟩]⟩, left.2) := by
      simp only [Audited.auditing, hs]
    rw [ofBlueprint_of_error haudited, hplain]
    rfl

/-- The host does not know of the attempts. -/
theorem mirrors_onHost {α : Type} (task : Task ChangeError ω α) :
    Task.Mirrors (plain : Session (Audited β) ω → Session β ω) (onHost task) (onHost task) := by
  intro session
  cases hr : task session.host with
  | ok value host =>
    have hplain : onHost task session.plain = .ok value (session.plain.withHost host) :=
      onHost_of_ok hr
    rw [onHost_of_ok hr, hplain]
    rfl
  | error error host =>
    have hplain : onHost task session.plain =
        .error (.change error) (session.plain.withHost host) := onHost_of_error hr
    rw [onHost_of_error hr, hplain]
    rfl

theorem mirrors_requireState (state target : LifecycleState) :
    Task.Mirrors (plain : Session (Audited β) ω → Session β ω) (requireState state target)
      (requireState state target) := by
  intro session
  unfold requireState
  change Task.seen plain (if session.run.state = state then _ else _) =
    if session.run.state = state then _ else _
  split <;> rfl

theorem mirrors_move (source target : LifecycleState) :
    Task.Mirrors (plain : Session (Audited β) ω → Session β ω) (move source target)
      (move source target) :=
  Task.mirrors_bind (mirrors_requireState source target) fun _ _ => rfl

section Declaring

variable [Declared β]

theorem mirrors_checkPrecondition (active : Bool) :
    Task.Mirrors (plain : Session (Audited β) ω → Session β ω) (checkPrecondition active)
      (checkPrecondition active) := by
  apply Task.mirrors_get_bind
  intro session
  cases active with
  | true => exact mirrors_move _ _
  | false => exact Task.mirrors_throw _ _

theorem mirrors_acceptOptions (options : Options) :
    Task.Mirrors (plain : Session (Audited β) ω → Session β ω) (acceptOptions options)
      (acceptOptions options) := by
  apply Task.mirrors_bind (mirrors_requireState _ _)
  intro _
  apply Task.mirrors_get_bind
  intro session
  have hparameters : Declared.parameters session.run.blueprint =
      Declared.parameters session.plain.run.blueprint := rfl
  simp only [hparameters]
  cases Options.complete (Declared.parameters session.plain.run.blueprint) options with
  | error complaint => exact Task.mirrors_throw _ _
  | ok completed => exact fun _ => rfl

end Declaring

section Asking

variable [Blueprint β ω]

/-- Preparing does not depend on the attempts. -/
theorem mirrors_prepare :
    Task.Mirrors (plain : Session (Audited β) ω → Session β ω) prepare prepare := by
  apply Task.mirrors_bind (mirrors_requireState _ _)
  intro _
  apply Task.mirrors_get_bind
  intro session
  exact Task.mirrors_bind (mirrors_auditing _ _) fun _ _ => rfl

/-- The plan does not depend on the attempts. -/
theorem mirrors_cluster :
    Task.Mirrors (plain : Session (Audited β) ω → Session β ω) cluster cluster := by
  apply Task.mirrors_get_bind
  intro session
  have hstate : session.plain.run.state = session.run.state := rfl
  have hcluster : session.plain.run.cluster? = session.run.cluster? := rfl
  simp only [hstate, hcluster]
  split
  · cases session.run.cluster? with
    | some cluster => exact Task.mirrors_pure _ cluster
    | none => exact Task.mirrors_bind (mirrors_auditing _ _) fun _ _ => rfl
  · exact Task.mirrors_throw _ _

theorem mirrors_postApply :
    Task.Mirrors (plain : Session (Audited β) ω → Session β ω) postApply postApply := by
  apply Task.mirrors_bind (mirrors_requireState _ _)
  intro _
  exact Task.mirrors_bind (mirrors_auditing _ _) fun _ _ => rfl

/-- Applying does not depend on the attempts. -/
theorem mirrors_apply [FileHost ω] :
    Task.Mirrors (plain : Session (Audited β) ω → Session β ω) apply apply := by
  apply Task.mirrors_bind mirrors_cluster
  intro _
  apply Task.mirrors_bind (mirrors_move _ _)
  intro _
  apply Task.mirrors_bind mirrors_cluster
  intro cluster
  apply Task.mirrors_bind (mirrors_onHost _)
  intro _
  exact mirrors_move _ _

end Asking

end Scaffold.Session
