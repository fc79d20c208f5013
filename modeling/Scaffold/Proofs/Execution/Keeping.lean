import Scaffold.Proofs.Execution.Course

/-!
# What an execution keeps of its blueprint

Once it has prepared itself, a blueprint is asked only for its changes and for its last word,
whatever the user decides and whatever becomes of the host. A property of the blueprint that these
two steps keep therefore lasts to the end of the execution.
-/

namespace Scaffold

/-- A property of a blueprint that its changes and its last word leave. -/
structure KeptOnwards {β : Type} (ω : Type) [Blueprint β ω] (kept : β → Prop) : Prop where
  /-- Generating keeps it. -/
  generate : Task.Keeps (fun state : β × ω => kept state.1)
    (Blueprint.generate : Task BlueprintError (β × ω) (List Change))
  /-- The last word keeps it. -/
  postApply : Task.Keeps (fun state : β × ω => kept state.1)
    (Blueprint.postApply : Task BlueprintError (β × ω) Unit)

namespace Session

variable {β ω : Type} {kept : β → Prop}

/-- The blueprint of the run has a property. -/
def Has (kept : β → Prop) (session : Session β ω) : Prop := kept session.run.blueprint

/-- Nothing done to the host concerns the blueprint. -/
theorem ensures_onHost_has (kept : β → Prop) {α : Type} (task : Task ChangeError ω α) :
    Task.Ensures (Has kept : Session β ω → Prop) (onHost task) (fun _ => Has kept)
      (fun _ => Has kept) := by
  intro session hkept
  unfold onHost
  cases task session.host <;> exact hkept

variable [Blueprint β ω]

/-- A session tells its changes with a blueprint that still has the property. -/
theorem has_of_tells (onwards : KeptOnwards ω kept) {session left : Session β ω}
    {cluster : ChangeCluster} (h : Tells session (.ok cluster left)) (hkept : session.Has kept) :
    left.Has kept := by
  cases h with
  | recalled => exact hkept
  | generated _ called => exact onwards.generate.of_ok called hkept

/-- So it does if it cannot tell them. -/
theorem has_of_untold (onwards : KeptOnwards ω kept) {session left : Session β ω}
    {error : BlueprintError} (h : Tells session (.error error left)) (hkept : session.Has kept) :
    left.Has kept := by
  cases h with
  | failed _ called => exact onwards.generate.of_error called hkept

variable [FileHost ω]

/-- Every call except the one to prepare leaves the property. -/
theorem ensures_call_has (onwards : KeptOnwards ω kept) (call : LifecycleCall)
    (other : call ≠ .prepare) :
    Task.Ensures (Has kept : Session β ω → Prop) call.task (fun _ => Has kept)
      (fun _ => Has kept) := by
  intro session hkept
  have hperforms := call.performs session
  generalize call.task session = result at hperforms ⊢
  cases hperforms with
  | refused => exact hkept
  | checked => exact hkept
  | accepted => exact hkept
  | prepared => exact absurd rfl other
  | unprepared => exact absurd rfl other
  | told _ tells => exact has_of_tells onwards tells hkept
  | untold _ _ tells => exact has_of_untold onwards tells hkept
  | aborted => exact hkept
  | applied _ tells =>
    have hknown := has_of_tells onwards tells hkept
    exact hknown
  | broken _ tells =>
    have hknown := has_of_tells onwards tells hkept
    exact hknown
  | reapplied _ tells => exact has_of_tells onwards tells hkept
  | postApplied _ called => exact onwards.postApply.of_ok called hkept
  | unpostApplied _ called => exact onwards.postApply.of_error called hkept

end Session

namespace Execution

variable {β ω ι : Type} [Blueprint β ω] [FileHost ω] [Interaction ι] {kept : β → Prop}

/-- The execution has a blueprint with the property. -/
def Has (kept : β → Prop) (execution : Execution β ω ι) : Prop := execution.session.Has kept

/-- The execution from the options accepted on, without its end. -/
def onward (dryRun : Bool) : Task BlueprintError (Execution β ω ι) ExecutionOutcome := do
  onSession Session.prepare
  let cluster ← onSession Session.cluster
  if dryRun then rehearse cluster else question cluster

/-- Options are accepted first, and then the execution goes on. -/
theorem execute_eq_close_onward (active dryRun : Bool) (options : Options) :
    (execute active dryRun options : Task BlueprintError (Execution β ω ι) ExecutionOutcome) =
      close (takeOptions active options >>= fun _ => onward dryRun) := by
  have hconfirmed := applyConfirmed_eq (β := β) (ω := ω) (ι := ι) active dryRun options
  rw [plan_eq, bind_assoc] at hconfirmed
  unfold execute
  rw [hconfirmed]
  simp only [bind_assoc]
  rfl

omit [Blueprint β ω] [FileHost ω] [Interaction ι] in
/-- What is the same for every outcome does not depend on it. -/
theorem settles_same_iff {outcome : ExecutionOutcome} {left : Execution β ω ι} :
    Settles (Session.Has kept) (Session.Has kept) outcome left ↔ left.Has kept := by
  cases outcome <;> exact Iff.rfl

variable (onwards : KeptOnwards ω kept)

omit [Blueprint β ω] [FileHost ω] [Interaction ι] in
/-- What is told to the user does not concern the blueprint. -/
theorem ensures_onUser_has (kept : β → Prop) {α : Type} (task : Task BlueprintError ι α) :
    Task.Ensures (Has kept : Execution β ω ι → Prop) (onUser task) (fun _ => Has kept)
      (fun _ => Has kept) :=
  ensures_onUser_kept task (Session.Has kept)

include onwards

/-- The question, its answer and what follows from it leave the property. -/
theorem ensures_question_has (cluster : ChangeCluster) :
    Task.Ensures (Has kept : Execution β ω ι → Prop) (question cluster) (fun _ => Has kept)
      (fun _ => Has kept) := by
  unfold question
  refine Task.ensures_get_bind fun execution => ?_
  have hdecide := ensures_decide_kept (β := β) (ω := ω) (ι := ι)
    (fun path => Session.ensures_onHost_has kept (FileDiff.preview cluster path))
    (Summary.ofCluster cluster execution.session.host) (Interaction.patience execution.user)
  refine Task.ensures_bind (hdecide.of_given fun _ h => h.2) fun decided => ?_
  cases decided with
  | true =>
    have happly := Task.ensures_of_map (Session.ensures_call_has onwards .apply nofun)
    refine Task.ensures_bind (ensures_onUser_has kept _) fun _ => ?_
    refine Task.ensures_bind (ensures_onSession_kept happly) fun _ => ?_
    exact Task.ensures_pure fun _ h => h
  | false =>
    have habort := Task.ensures_of_map (Session.ensures_call_has onwards .abort nofun)
    refine Task.ensures_bind (ensures_onSession_kept habort) fun _ => ?_
    refine Task.ensures_bind (ensures_onUser_has kept _) fun _ => ?_
    exact Task.ensures_pure fun _ h => h

/-- So does a dry run. -/
theorem ensures_rehearse_has (cluster : ChangeCluster) :
    Task.Ensures (Has kept : Execution β ω ι → Prop) (rehearse cluster) (fun _ => Has kept)
      (fun _ => Has kept) := by
  have habort := Task.ensures_of_map (Session.ensures_call_has onwards .abort nofun)
  have hpreviews := Session.ensures_onHost_has (ω := ω) kept (FileDiff.previewAll cluster)
  unfold rehearse
  refine Task.ensures_get_bind fun execution => ?_
  refine Task.ensures_bind ((ensures_onUser_has kept _).imp (fun _ h => h.2)
    (fun _ _ h => h) fun _ _ h => h) fun _ => ?_
  refine Task.ensures_bind (ensures_onSession_kept hpreviews) fun diffs => ?_
  refine Task.ensures_bind (ensures_showDiffs_kept (Session.Has kept) diffs) fun _ => ?_
  refine Task.ensures_bind (ensures_onSession_kept habort) fun _ => ?_
  refine Task.ensures_bind (ensures_onUser_has kept _) fun _ => ?_
  exact Task.ensures_pure fun _ h => h

/-- A property that preparing establishes, also where it fails, holds at the end of the
execution. -/
theorem has_after_close {given : Session β ω → Prop}
    (prepares : Task.Ensures given (Session.prepare : Task BlueprintError (Session β ω) Unit)
      (fun _ => Session.Has kept) (fun _ => Session.Has kept))
    (dryRun : Bool) (execution : Execution β ω ι) (hgiven : given execution.session) :
    ((close (onward dryRun)).after execution).Has kept := by
  have hcluster := Task.ensures_of_map (Session.ensures_call_has onwards .cluster nofun)
  have hlast := Task.ensures_of_map (Session.ensures_call_has onwards .postApply nofun)
  have honward : Task.Ensures (fun execution : Execution β ω ι => given execution.session)
      (onward dryRun) (fun _ => Has kept) (fun _ => Has kept) := by
    refine Task.ensures_bind (ensures_onSession_kept prepares) fun _ => ?_
    refine Task.ensures_bind (ensures_onSession_kept hcluster) fun cluster => ?_
    cases dryRun with
    | true => exact ensures_rehearse_has onwards cluster
    | false => exact ensures_question_has onwards cluster
  have hclose := ensures_close (honward.weaken (fun _ _ h => settles_same_iff.mpr h)
    fun _ _ h => h) hlast
  exact (hclose.weaken (fun _ _ h => settles_same_iff.mp h)
    fun _ _ h => h.elim id id).after hgiven

end Execution

end Scaffold
