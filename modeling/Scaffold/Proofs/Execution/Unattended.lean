import Scaffold.Proofs.Execution.Course

/-!
# Unattended executions

A user that is not there takes every proposal. So an execution for such a user that can make a plan
and apply it does so, without a word of anyone.
-/

namespace Scaffold

namespace Execution

variable {β ω : Type} [Blueprint β ω] {blueprint : β} {host : ω} {options : Options}

section Planning

variable {ι : Type} [Interaction ι] {user : ι}

/-- Where a plan can be made, an active blueprint is brought up to the question about it. -/
theorem plan_of_plannedRun (run : PlannedRun blueprint host options user) :
    ∃ asked, plan true options (start blueprint host user) =
      .ok (ChangeCluster.ofChanges run.changes) ⟨run.session, asked⟩ := by
  obtain ⟨completed, asked, hgather, hcomplete⟩ := run.accepts
  refine ⟨asked, ?_⟩
  have haccepts : takeOptions true options (start blueprint host user) =
      .ok () ⟨⟨⟨blueprint, .optionsGathered, run.accepted, none⟩, host⟩, asked⟩ :=
    (takeOptions_of_gather host hgather).trans
      (onSession_of_ok (Session.acceptOptions_of_complete rfl hcomplete))
  have hprepares : onSession Session.prepare
      (⟨⟨⟨blueprint, .optionsGathered, run.accepted, none⟩, host⟩, asked⟩ : Execution β ω ι) =
      .ok () ⟨⟨⟨run.prepared, .prepared, run.accepted, none⟩, host⟩, asked⟩ :=
    onSession_of_ok (@Session.prepare_of_ok β ω _ _ (run.prepared, host) rfl run.prepares)
  have hplans : onSession Session.cluster
      (⟨⟨⟨run.prepared, .prepared, run.accepted, none⟩, host⟩, asked⟩ : Execution β ω ι) =
      .ok (ChangeCluster.ofChanges run.changes) ⟨run.session, asked⟩ :=
    onSession_of_ok (@Session.cluster_of_ok β ω _ _ _ (run.planned, host) (.inl rfl) rfl
      run.generates)
  rw [plan_eq, Task.bind_of_ok haccepts, Task.bind_of_ok hprepares, hplans]

end Planning

variable [FileHost ω] {user : Unattended}

/-- Nobody declines a plan, so that it is applied if it can be. -/
theorem question_of_unattended (run : PlannedRun blueprint host options user) {applied : ω}
    (happly : Session.applyCluster run.cluster host = .ok () applied) (asked : Unattended) :
    ∃ told, question run.cluster ⟨run.session, asked⟩ =
      .ok .applied ⟨(run.session.withHost applied).withState .applied, told⟩ := by
  have hknown : Session.cluster run.session = .ok run.cluster run.session :=
    Session.cluster_of_known (.inl rfl) rfl
  have hstate : run.session.run.state = .prepared := rfl
  have happlies : ∀ told : Unattended, onSession Session.apply ⟨run.session, told⟩ =
      .ok () ⟨(run.session.withHost applied).withState .applied, told⟩ := by
    intro told
    have hcluster : run.session.run.cluster? = some run.cluster := rfl
    have hsession := Session.apply_of_prepared hstate hcluster hknown
    have hhost : run.session.host = host := rfl
    rw [hhost, happly] at hsession
    exact onSession_of_ok hsession
  have hconfirms : ∃ shown, decide run.cluster (Summary.ofCluster run.cluster run.session.host) 0
      (⟨run.session, asked⟩ : Execution β ω Unattended) = .ok true ⟨run.session, shown⟩ := ⟨_, rfl⟩
  obtain ⟨shown, hconfirms⟩ := hconfirms
  have htells : ∃ told, onUser (Interaction.info "Applying changes...")
      (⟨run.session, shown⟩ : Execution β ω Unattended) = .ok () ⟨run.session, told⟩ := ⟨_, rfl⟩
  obtain ⟨told, htells⟩ := htells
  refine ⟨told, ?_⟩
  unfold question
  rw [Task.get_bind_apply]
  refine (Task.bind_of_ok hconfirms).trans ?_
  exact (Task.bind_of_ok htells).trans (Task.bind_of_ok (happlies told))

/-- An unattended execution of an active blueprint that can make a plan and apply it, and that then
has a last word, ends as applied. -/
theorem execute_of_unattended (run : PlannedRun blueprint host options user) {applied final : ω}
    {last : β} (happly : Session.applyCluster run.cluster host = .ok () applied)
    (hlast : Blueprint.postApply (run.planned, applied) = .ok () (last, final)) :
    ∃ left, execute true false options (start blueprint host user) = .ok .applied left ∧
      left.session.host = final := by
  obtain ⟨asked, hplan⟩ := plan_of_plannedRun run
  have hasks : execute true false options (start blueprint host user) =
      close (question run.cluster) ⟨run.session, asked⟩ :=
    execute_of_planned hplan
  obtain ⟨told, hquestion⟩ := question_of_unattended run happly asked
  have hlasts : ∃ ended, Session.postApply ((run.session.withHost applied).withState .applied) =
      .ok () ended ∧ ended.host = final := ⟨_, Session.postApply_of_ok rfl hlast, rfl⟩
  obtain ⟨ended, hended, hfinal⟩ := hlasts
  have hends : onSession Session.postApply
      (⟨(run.session.withHost applied).withState .applied, told⟩ : Execution β ω Unattended) =
      .ok () ⟨ended, told⟩ :=
    onSession_of_ok hended
  have hsays : ∃ content, onUser (Interaction.success "Completed, have a productive day!")
      (⟨ended, told⟩ : Execution β ω Unattended) = .ok () ⟨ended, content⟩ := ⟨_, rfl⟩
  obtain ⟨content, hsays⟩ := hsays
  refine ⟨⟨ended, content⟩, ?_, hfinal⟩
  rw [hasks]
  unfold close
  rw [hquestion]
  dsimp only
  rw [hends]
  dsimp only
  rw [Task.bind_of_ok hsays, Task.pure_apply]

end Execution

end Scaffold
