import Scaffold.Proofs.Blueprint.Audited
import Scaffold.Proofs.Lifecycle.Steps

/-!
# Stages of a run

Where a run stands after the calls that an execution makes in their order: which state it is in,
what the host holds, whether the changes are known and what the blueprint was asked so far.
-/

namespace Scaffold.Session

variable {β ω : Type} [Blueprint β ω] [FileHost ω]

/-- A session of which state, host, changes and attempts are known. -/
structure Stands (host : ω) (state : LifecycleState) (cluster? : Option ChangeCluster)
    (attempts : List Attempt) (session : Session (Audited β) ω) : Prop where
  /-- What the host holds. -/
  host : session.host = host
  /-- The state of the run. -/
  state : session.run.state = state
  /-- The changes, if they are known. -/
  cluster? : session.run.cluster? = cluster?
  /-- What the blueprint was asked. -/
  attempts : session.run.blueprint.attempts = attempts

/-- What a call does follows from the list of all that can happen. -/
theorem ensures_of_performs (call : LifecycleCall) {given done : Session (Audited β) ω → Prop}
    {failed : BlueprintError → Session (Audited β) ω → Prop}
    (hdone : ∀ session answer left, given session →
      Performs call session (.ok answer left) → done left)
    (hfailed : ∀ session error left, given session →
      Performs call session (.error error left) → failed error left) :
    Task.Ensures given call.task (fun _ => done) failed := by
  intro session hg
  have hperforms := call.performs session
  cases hr : (call.task : Task BlueprintError (Session (Audited β) ω) _) session with
  | ok answer left =>
    rw [hr] at hperforms
    exact hdone session answer left hg hperforms
  | error error left =>
    rw [hr] at hperforms
    exact hfailed session error left hg hperforms

variable {host : ω} {attempts : List Attempt}

/-- The precondition is checked first, or nothing happens. -/
theorem ensures_checkPrecondition (active : Bool) :
    Task.Ensures (Stands host .created none attempts)
      (checkPrecondition active : Task BlueprintError (Session (Audited β) ω) Unit)
      (fun _ => Stands host .preconditionChecked none attempts)
      (fun _ => Stands host .created none attempts) := by
  apply Task.ensures_of_map
  apply ensures_of_performs (.checkPrecondition active)
  · intro session answer left h hp
    cases hp with
    | checked created => exact ⟨h.host, rfl, h.cluster?, h.attempts⟩
  · intro session error left h hp
    cases hp with
    | refused => exact h
    | untold asks _ _ => cases asks <;> contradiction

/-- Options are accepted behind the precondition, or nothing happens. -/
theorem ensures_acceptOptions (options : Options) :
    Task.Ensures (Stands host .preconditionChecked none attempts)
      (acceptOptions options : Task BlueprintError (Session (Audited β) ω) Unit)
      (fun _ => Stands host .optionsGathered none attempts)
      (fun _ => Stands host .preconditionChecked none attempts) := by
  apply Task.ensures_of_map
  apply ensures_of_performs (.acceptOptions options)
  · intro session answer left h hp
    cases hp with
    | accepted checked complete => exact ⟨h.host, rfl, h.cluster?, h.attempts⟩
  · intro session error left h hp
    cases hp with
    | refused => exact h
    | untold asks _ _ => cases asks <;> contradiction

/-- Preparing asks the blueprint, which may fail, and leaves the host. -/
theorem ensures_prepare (quiet : PlansQuietly β ω) :
    Task.Ensures (Stands host .optionsGathered none attempts)
      (prepare : Task BlueprintError (Session (Audited β) ω) Unit)
      (fun _ left => ∃ options, Stands host .prepared none
        (attempts ++ [⟨.prepare options, true⟩]) left)
      (fun _ left => Stands host .optionsGathered none attempts left ∨
        ∃ options, Stands host .optionsGathered none
          (attempts ++ [⟨.prepare options, false⟩]) left) := by
  apply Task.ensures_of_map
  apply ensures_of_performs .prepare
  · intro session answer left h hp
    cases hp with
    | prepared gathered called =>
      obtain ⟨hstep, hnoted⟩ := Audited.auditing_of_ok called
      rw [h.attempts] at hnoted
      exact ⟨_, ((quiet.prepare _).of_ok hstep).trans h.host, rfl, h.cluster?, hnoted⟩
  · intro session error left h hp
    cases hp with
    | refused => exact .inl h
    | untold asks _ _ => cases asks <;> contradiction
    | unprepared gathered called =>
      obtain ⟨hstep, hnoted⟩ := Audited.auditing_of_error called
      rw [h.attempts] at hnoted
      exact .inr ⟨_, ((quiet.prepare _).of_error hstep).trans h.host, h.state, h.cluster?, hnoted⟩

omit [FileHost ω] in
/-- The first request for the changes asks the blueprint, which may fail, and leaves the host. -/
theorem ensures_cluster (quiet : PlansQuietly β ω) :
    Task.Ensures (Stands host .prepared none attempts)
      (cluster : Task BlueprintError (Session (Audited β) ω) ChangeCluster)
      (fun cluster => Stands host .prepared (some cluster) (attempts ++ [⟨.generate, true⟩]))
      (fun _ left => Stands host .prepared none attempts left ∨
        Stands host .prepared none (attempts ++ [⟨.generate, false⟩]) left) := by
  intro session h
  obtain ⟨_, htells⟩ | ⟨hnot, _⟩ := cluster_cases session
  · cases hc : cluster session with
    | ok cluster left =>
      rw [hc] at htells
      cases htells with
      | recalled known =>
        rw [h.cluster?] at known
        cases known
      | generated unknown called =>
        obtain ⟨hstep, hnoted⟩ := Audited.auditing_of_ok called
        rw [h.attempts] at hnoted
        exact ⟨(quiet.generate.of_ok hstep).trans h.host, h.state, rfl, hnoted⟩
    | error error left =>
      rw [hc] at htells
      cases htells with
      | failed unknown called =>
        obtain ⟨hstep, hnoted⟩ := Audited.auditing_of_error called
        rw [h.attempts] at hnoted
        exact .inr ⟨(quiet.generate.of_error hstep).trans h.host, h.state, h.cluster?, hnoted⟩
  · exact absurd (.inl h.state) hnot

/-- A prepared run can be aborted. -/
theorem ensures_abort {cluster? : Option ChangeCluster} :
    Task.Ensures (Stands host .prepared cluster? attempts)
      (abort : Task BlueprintError (Session (Audited β) ω) Unit)
      (fun _ => Stands host .aborted cluster? attempts)
      (fun _ => Stands host .prepared cluster? attempts) := by
  apply Task.ensures_of_map
  apply ensures_of_performs .abort
  · intro session answer left h hp
    cases hp with
    | aborted prepared => exact ⟨h.host, rfl, h.cluster?, h.attempts⟩
  · intro session error left h hp
    cases hp with
    | refused => exact h
    | untold asks _ _ => cases asks <;> contradiction

/-- Applying known changes asks the blueprint nothing, and only a change that cannot be applied
leaves the run applying. -/
theorem ensures_apply {cluster : ChangeCluster} :
    Task.Ensures (Stands host .prepared (some cluster) attempts)
      (apply : Task BlueprintError (Session (Audited β) ω) Unit)
      (fun _ left => ∃ applied, applyCluster cluster host = .ok () applied ∧
        Stands applied .applied (some cluster) attempts left)
      (fun error left => Stands host .prepared (some cluster) attempts left ∨
        ∃ stuck reason, error = .change reason ∧
          applyCluster cluster host = .error reason stuck ∧
          Stands stuck .applying (some cluster) attempts left) := by
  apply Task.ensures_of_map
  apply ensures_of_performs .apply
  · intro session answer left h hp
    cases hp with
    | applied prepared tells all =>
      obtain ⟨rfl, rfl⟩ := eq_of_tells h.cluster? tells
      rw [h.host] at all
      exact ⟨_, all, rfl, rfl, h.cluster?, h.attempts⟩
  · intro session error left h hp
    cases hp with
    | refused => exact .inl h
    | untold _ _ tells =>
      cases tells with
      | failed unknown _ =>
        rw [h.cluster?] at unknown
        cases unknown
    | broken prepared tells stuck =>
      obtain ⟨rfl, rfl⟩ := eq_of_tells h.cluster? tells
      rw [h.host] at stuck
      exact .inr ⟨_, _, rfl, stuck, rfl, rfl, h.cluster?, h.attempts⟩
    | reapplied applying _ =>
      rw [h.state] at applying
      cases applying

omit [FileHost ω] in
/-- The last word is had once, on the host as the changes left it. -/
theorem ensures_postApply {cluster? : Option ChangeCluster} :
    Task.Ensures (Stands host .applied cluster? attempts)
      (postApply : Task BlueprintError (Session (Audited β) ω) Unit)
      (fun _ left => ∃ blueprint : β,
        Blueprint.postApply (blueprint, host) =
          .ok () (left.run.blueprint.blueprint, left.host) ∧
        Stands left.host .postApplied cluster? (attempts ++ [⟨.postApply, true⟩]) left)
      (fun error left => ∃ blueprint : β,
        Blueprint.postApply (blueprint, host) =
          .error error (left.run.blueprint.blueprint, left.host) ∧
        Stands left.host .applied cluster? (attempts ++ [⟨.postApply, false⟩]) left) := by
  intro session h
  cases hc : (Blueprint.postApply : Task BlueprintError (Audited β × ω) Unit)
      (session.run.blueprint, session.host) with
  | ok _ left =>
    obtain ⟨hstep, hnoted⟩ := Audited.auditing_of_ok hc
    rw [h.attempts] at hnoted
    rw [h.host] at hstep
    rw [postApply_of_ok h.state hc]
    exact ⟨_, hstep, rfl, rfl, h.cluster?, hnoted⟩
  | error error left =>
    obtain ⟨hstep, hnoted⟩ := Audited.auditing_of_error hc
    rw [h.attempts] at hnoted
    rw [h.host] at hstep
    rw [postApply_of_error h.state hc]
    exact ⟨_, hstep, rfl, h.state, h.cluster?, hnoted⟩

end Scaffold.Session
