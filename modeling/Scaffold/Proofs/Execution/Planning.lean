import Scaffold.Blueprint.Recorded
import Scaffold.Proofs.Execution.Decision

/-!
# Planning and settling

Of a run it matters here whether its changes are known already and whether it counts as applied. A
blueprint that plans quietly leaves the host while it prepares and generates, also if its calls
are recorded, and a run counts as applied only if its changes could be applied to that host.
-/

namespace Scaffold

namespace Recorded

variable {β ω : Type}

/-- Noting a call does not touch the world. -/
theorem leavesWorld_noting {α : Type} (call : BlueprintCall) {step : Task BlueprintError (β × ω) α}
    (h : LeavesWorld step) : LeavesWorld (noting call step) := by
  rintro ⟨recorded, host⟩
  cases hr : step (recorded.blueprint, host) with
  | ok value left =>
    simp only [Task.after, noting, hr]
    exact h.of_ok hr
  | error error left =>
    simp only [Task.after, noting, hr]
    exact h.of_error hr

/-- Recording the calls of a blueprint that plans quietly is as quiet. -/
theorem plansQuietly [Blueprint β ω] (quiet : PlansQuietly β ω) : PlansQuietly (Recorded β) ω where
  prepare options := leavesWorld_noting _ (quiet.prepare options)
  generate := leavesWorld_noting _ quiet.generate

end Recorded

/-- Whether the call belongs to a run before its changes are asked for. -/
def LifecycleCall.isEarly : LifecycleCall → Bool
  | .checkPrecondition _ | .acceptOptions _ | .prepare => true
  | _ => false

namespace Session

variable {β ω : Type}

/-- The changes of the run are not known yet, and nothing was written. -/
structure Unplanned (host : ω) (session : Session β ω) : Prop where
  /-- The host is as it was. -/
  host : session.host = host
  /-- No changes are known. -/
  unknown : session.run.cluster? = none
  /-- Nothing was decided. -/
  state : session.run.state.isOpen = true

/-- The changes that were generated are known, and nothing was written. -/
structure Planned (host : ω) (cluster : ChangeCluster) (session : Session β ω) : Prop where
  /-- The host is as it was. -/
  host : session.host = host
  /-- The changes are known. -/
  known : session.run.cluster? = some cluster
  /-- Nothing was decided. -/
  state : session.run.state = .prepared
  /-- The changes come from a blueprint. -/
  generated : ∃ changes, cluster = ChangeCluster.ofChanges changes

section Calls

variable [Blueprint β ω] {host : ω} {cluster : ChangeCluster}

/-- The first request for the changes leaves the host, and the changes known. -/
theorem ensures_cluster_planned (quiet : PlansQuietly β ω) :
    Task.Ensures (Unplanned host) (Session.cluster : Task BlueprintError (Session β ω) _)
      (Planned host) (fun _ => Unplanned host) := by
  intro session h
  obtain ⟨hs, htells⟩ | ⟨_, hrefused⟩ := cluster_cases session
  · have hprepared : session.run.state = .prepared := by
      refine hs.resolve_right fun happlying => ?_
      have hopen := h.state
      rw [happlying] at hopen
      cases hopen
    cases hc : Session.cluster session with
    | ok cluster left =>
      rw [hc] at htells
      cases htells with
      | recalled known =>
        rw [h.unknown] at known
        cases known
      | generated unknown called =>
        exact ⟨(quiet.generate.of_ok called).trans h.host, rfl, hprepared, _, rfl⟩
    | error error left =>
      rw [hc] at htells
      cases htells with
      | failed unknown called =>
        exact ⟨(quiet.generate.of_error called).trans h.host, h.unknown, h.state⟩
  · rw [hrefused]
    exact h

variable [FileHost ω]

/-- The calls before the changes are asked for leave them unknown and the host as it is. -/
theorem ensures_early (quiet : PlansQuietly β ω) (call : LifecycleCall)
    (early : call.isEarly = true) :
    Task.Ensures (Unplanned host) (call.task : Task BlueprintError (Session β ω) _)
      (fun _ => Unplanned host) (fun _ => Unplanned host) := by
  intro session h
  have hperforms := call.performs session
  cases hr : (call.task : Task BlueprintError (Session β ω) _) session with
  | ok answer left =>
    rw [hr] at hperforms
    cases hperforms with
    | checked created => exact ⟨h.host, h.unknown, rfl⟩
    | accepted checked complete => exact ⟨h.host, h.unknown, rfl⟩
    | prepared gathered called =>
      exact ⟨((quiet.prepare _).of_ok called).trans h.host, h.unknown, rfl⟩
    | _ => cases early
  | error error left =>
    rw [hr] at hperforms
    cases hperforms with
    | refused => exact h
    | unprepared gathered called =>
      exact ⟨((quiet.prepare _).of_error called).trans h.host, h.unknown, h.state⟩
    | untold asks _ _ => obtain rfl | rfl := asks <;> cases early
    | _ => cases early

/-- The changes are known, and the run counts as applied only if they can be applied. -/
structure Settled (host : ω) (cluster : ChangeCluster) (session : Session β ω) : Prop where
  /-- The changes are known. -/
  known : session.run.cluster? = some cluster
  /-- They were applied if the run says so. -/
  applied : session.run.state = .applied ∨ session.run.state = .postApplied →
    (applyCluster cluster).succeeds host = true

omit [Blueprint β ω] in
/-- A run with a plan that was not applied is settled. -/
theorem Settled.of_state {session : Session β ω} (known : session.run.cluster? = some cluster)
    (applied : session.run.state ≠ .applied) (postApplied : session.run.state ≠ .postApplied) :
    session.Settled host cluster :=
  ⟨known, fun h => (h.elim applied postApplied).elim⟩

omit [Blueprint β ω] in
/-- A planned run is settled. -/
theorem Settled.of_planned {session : Session β ω} (h : session.Planned host cluster) :
    session.Settled host cluster :=
  .of_state h.known (fun hs => nomatch h.state.symm.trans hs)
    fun hs => nomatch h.state.symm.trans hs

omit [Blueprint β ω] in
/-- Aborting a planned run settles it. -/
theorem ensures_abort_settled :
    Task.Ensures (Planned host cluster) (abort : Task BlueprintError (Session β ω) Unit)
      (fun _ => Settled host cluster) (fun _ => Settled host cluster) := by
  intro session h
  rw [abort, move_of_eq h.state]
  exact .of_state h.known (fun hs => LifecycleState.noConfusion hs)
    fun hs => LifecycleState.noConfusion hs

/-- Applying a planned run settles it. -/
theorem ensures_apply_settled :
    Task.Ensures (Planned host cluster) (apply : Task BlueprintError (Session β ω) Unit)
      (fun _ => Settled host cluster) (fun _ => Settled host cluster) := by
  intro session h
  rw [apply_of_prepared h.state h.known (cluster_of_known (.inl h.state) h.known), h.host]
  cases ha : (applyCluster cluster : Task ChangeError ω Unit) host with
  | ok _ left => exact ⟨h.known, fun _ => by rw [Task.succeeds, ha]⟩
  | error error left =>
    exact .of_state h.known (fun hs => LifecycleState.noConfusion hs)
      fun hs => LifecycleState.noConfusion hs

omit [FileHost ω] in
/-- Before anything was decided, the blueprint has no last word. -/
theorem keeps_postApply_unplanned :
    Task.Keeps (Unplanned host) (postApply : Task BlueprintError (Session β ω) Unit) := by
  intro session h
  have hs : session.run.state ≠ .applied := by
    intro happlied
    have hopen := h.state
    rw [happlied] at hopen
    cases hopen
  have hrefused : postApply session = .error _ session :=
    Task.bind_of_error (requireState_of_ne hs .postApplied)
  rw [Task.after_of_error hrefused]
  exact h

/-- The last word of the blueprint does not change what was applied. -/
theorem keeps_postApply_settled :
    Task.Keeps (Settled host cluster) (postApply : Task BlueprintError (Session β ω) Unit) := by
  intro session h
  by_cases hs : session.run.state = .applied
  · have hsucceeds := h.applied (.inl hs)
    cases hc : (Blueprint.postApply : Task BlueprintError (β × ω) Unit)
        (session.run.blueprint, session.host) with
    | ok _ left =>
      rw [Task.after_of_ok (postApply_of_ok hs hc)]
      exact ⟨h.known, fun _ => hsucceeds⟩
    | error error left =>
      rw [Task.after_of_error (postApply_of_error hs hc)]
      exact ⟨h.known, fun _ => hsucceeds⟩
  · have hrefused : postApply session = .error _ session :=
      Task.bind_of_error (requireState_of_ne hs .postApplied)
    rw [Task.after_of_error hrefused]
    exact h

end Calls

end Session

end Scaffold
