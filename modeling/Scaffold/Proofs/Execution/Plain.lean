import Scaffold.Proofs.Execution.Attended
import Scaffold.Proofs.Execution.Filling
import Scaffold.Proofs.Lifecycle.Plain

/-!
# Noting decisions changes nothing

An execution of an audited blueprint with a user whose decisions are noted does exactly what the
execution of the blueprint with the user does.
-/

namespace Scaffold

namespace Attended

variable {ι : Type}

/-- A task for the user does not depend on the decisions. -/
theorem mirrors_withUser {α : Type} (task : Task BlueprintError ι α) :
    Task.Mirrors Attended.user (withUser task) task := by
  intro attended
  unfold withUser
  cases task attended.user <;> rfl

/-- A decision does not depend on those remembered. -/
theorem mirrors_deciding (task : Task BlueprintError ι Decision) :
    Task.Mirrors Attended.user (deciding task) task := by
  intro attended
  unfold deciding
  cases task attended.user <;> rfl

end Attended

namespace Execution

variable {β ω ι : Type}

/-- The execution without the calls and decisions noted. -/
def plain (execution : Execution (Audited β) ω (Attended ι)) : Execution β ω ι :=
  ⟨execution.session.plain, execution.user.user⟩

/-- A call does not depend on what is noted of the blueprint. -/
theorem mirrors_onSession {α : Type} {task : Task BlueprintError (Session (Audited β) ω) α}
    {image : Task BlueprintError (Session β ω) α} (h : Task.Mirrors Session.plain task image) :
    Task.Mirrors (plain (ι := ι)) (onSession task) (onSession image) := by
  intro execution
  unfold onSession
  cases hr : task execution.session with
  | ok value session =>
    have himage : image execution.plain.session = _ := h.of_ok hr
    rw [himage]
    rfl
  | error error session =>
    have himage : image execution.plain.session = _ := h.of_error hr
    rw [himage]
    rfl

/-- A question does not depend on what is noted of the blueprint. -/
theorem mirrors_onUser {α : Type} {task : Task BlueprintError (Attended ι) α}
    {image : Task BlueprintError ι α} (h : Task.Mirrors Attended.user task image) :
    Task.Mirrors (plain (β := β) (ω := ω)) (onUser task) (onUser image) := by
  intro execution
  unfold onUser
  cases hr : task execution.user with
  | ok value user =>
    have himage : image execution.plain.user = _ := h.of_ok hr
    rw [himage]
    rfl
  | error error user =>
    have himage : image execution.plain.user = _ := h.of_error hr
    rw [himage]
    rfl

variable [Interaction ι]

theorem mirrors_ensureOptions [Declared β] (options : Options) :
    Task.Mirrors (plain : Execution (Audited β) ω (Attended ι) → Execution β ω ι)
      (ensureOptions options) (ensureOptions options) := by
  intro execution
  rw [ensureOptions_eq_gather, ensureOptions_eq_gather]
  exact mirrors_onUser (mirrors_gather (fun _ => Attended.mirrors_withUser _) _ options) execution

theorem mirrors_showDiffs (diffs : List FileDiff) :
    Task.Mirrors (plain : Execution (Audited β) ω (Attended ι) → Execution β ω ι)
      (showDiffs diffs) (showDiffs diffs) := by
  induction diffs with
  | nil => exact Task.mirrors_pure _ ()
  | cons diff rest ih =>
    exact Task.mirrors_bind (mirrors_onUser (Attended.mirrors_withUser _)) fun _ => ih

section Deciding

variable [FileHost ω]

theorem mirrors_reveal (cluster : ChangeCluster) (path : Path) :
    Task.Mirrors (plain : Execution (Audited β) ω (Attended ι) → Execution β ω ι)
      (reveal cluster path) (reveal cluster path) := by
  apply Task.mirrors_bind (mirrors_onSession (Session.mirrors_onHost _))
  intro diff
  exact mirrors_onUser (Attended.mirrors_withUser _)

theorem mirrors_decide (cluster : ChangeCluster) (summary : Summary) (looks : Nat) :
    Task.Mirrors (plain : Execution (Audited β) ω (Attended ι) → Execution β ω ι)
      (decide cluster summary looks) (decide cluster summary looks) := by
  have hconfirm : Task.Mirrors (plain : Execution (Audited β) ω (Attended ι) → Execution β ω ι)
      (onUser (Interaction.confirm summary)) (onUser (Interaction.confirm summary)) :=
    mirrors_onUser (Attended.mirrors_deciding _)
  induction looks with
  | zero =>
    apply Task.mirrors_bind hconfirm
    intro decision
    exact Task.mirrors_pure _ _
  | succ looks ih =>
    apply Task.mirrors_bind hconfirm
    intro decision
    cases decision with
    | apply => exact Task.mirrors_pure _ true
    | cancel => exact Task.mirrors_pure _ false
    | reveal path => exact Task.mirrors_bind (mirrors_reveal cluster path) fun _ => ih

variable [Blueprint β ω]

theorem mirrors_confirm :
    Task.Mirrors (plain : Execution (Audited β) ω (Attended ι) → Execution β ω ι) confirm
      confirm := by
  apply Task.mirrors_bind (mirrors_onSession Session.mirrors_cluster)
  intro cluster
  apply Task.mirrors_get_bind
  intro execution
  exact mirrors_decide cluster _ _

theorem mirrors_preview :
    Task.Mirrors (plain : Execution (Audited β) ω (Attended ι) → Execution β ω ι) preview
      preview := by
  apply Task.mirrors_bind (mirrors_onSession Session.mirrors_cluster)
  intro cluster
  apply Task.mirrors_get_bind
  intro execution
  apply Task.mirrors_bind (mirrors_onUser (Attended.mirrors_withUser _))
  intro _
  apply Task.mirrors_bind (mirrors_onSession (Session.mirrors_onHost _))
  intro diffs
  apply Task.mirrors_bind (mirrors_showDiffs diffs)
  intro _
  apply Task.mirrors_bind (mirrors_onSession (Session.mirrors_move _ _))
  intro _
  apply Task.mirrors_bind (mirrors_onUser (Attended.mirrors_withUser _))
  intro _
  exact Task.mirrors_pure _ _

/-- A confirmed run does not depend on what is noted of it. -/
theorem mirrors_applyConfirmed (active dryRun : Bool) (options : Options) :
    Task.Mirrors (plain : Execution (Audited β) ω (Attended ι) → Execution β ω ι)
      (applyConfirmed active dryRun options) (applyConfirmed active dryRun options) := by
  apply Task.mirrors_bind (mirrors_onSession (Session.mirrors_checkPrecondition active))
  intro _
  apply Task.mirrors_bind (mirrors_ensureOptions options)
  intro completed
  apply Task.mirrors_bind (mirrors_onSession (Session.mirrors_acceptOptions completed))
  intro _
  apply Task.mirrors_bind (mirrors_onSession Session.mirrors_prepare)
  intro _
  cases dryRun with
  | true => exact mirrors_preview
  | false =>
    apply Task.mirrors_bind mirrors_confirm
    intro decided
    cases decided with
    | true =>
      apply Task.mirrors_bind (mirrors_onUser (Attended.mirrors_withUser _))
      intro _
      apply Task.mirrors_bind (mirrors_onSession Session.mirrors_apply)
      intro _
      exact Task.mirrors_pure _ _
    | false =>
      apply Task.mirrors_bind (mirrors_onSession (Session.mirrors_move _ _))
      intro _
      apply Task.mirrors_bind (mirrors_onUser (Attended.mirrors_withUser _))
      intro _
      exact Task.mirrors_pure _ _

omit [FileHost ω] [Blueprint β ω] in
theorem mirrors_fail {α : Type} (error : BlueprintError) :
    Task.Mirrors (plain : Execution (Audited β) ω (Attended ι) → Execution β ω ι)
      (fail error : Task BlueprintError _ α) (fail error) := by
  intro execution
  have htold : Task.Mirrors Attended.user
      (Interaction.error error.message : Task BlueprintError (Attended ι) Unit)
      (Interaction.error error.message) := Attended.mirrors_withUser _
  unfold fail
  cases hr : (Interaction.error error.message : Task BlueprintError (Attended ι) Unit)
      execution.user with
  | ok _ user =>
    have himage : Interaction.error error.message execution.plain.user = _ := htold.of_ok hr
    rw [himage]
    rfl
  | error _ user =>
    have himage : Interaction.error error.message execution.plain.user = _ := htold.of_error hr
    rw [himage]
    rfl

/-- Noting what the blueprint was asked and what the user decided changes nothing else. -/
theorem mirrors_execute (active dryRun : Bool) (options : Options) :
    Task.Mirrors (plain : Execution (Audited β) ω (Attended ι) → Execution β ω ι)
      (execute active dryRun options) (execute active dryRun options) := by
  intro execution
  have hconfirmed : Task.Mirrors
      (plain : Execution (Audited β) ω (Attended ι) → Execution β ω ι)
      (applyConfirmed active dryRun options) (applyConfirmed active dryRun options) :=
    mirrors_applyConfirmed active dryRun options
  unfold execute
  cases hr : applyConfirmed active dryRun options execution with
  | error error left =>
    rw [hconfirmed.of_error hr]
    cases error with
    | validation message =>
      exact Task.mirrors_bind (mirrors_onUser (Attended.mirrors_withUser _))
        (fun _ => Task.mirrors_pure _ _) left
    | _ => exact mirrors_fail _ left
  | ok outcome left =>
    rw [hconfirmed.of_ok hr]
    cases outcome with
    | applied =>
      have hlast : Task.Mirrors (plain : Execution (Audited β) ω (Attended ι) → Execution β ω ι)
          (onSession Session.postApply) (onSession Session.postApply) :=
        mirrors_onSession Session.mirrors_postApply
      cases hp : (onSession Session.postApply : Task BlueprintError
          (Execution (Audited β) ω (Attended ι)) Unit) left with
      | error error last =>
        simp only [hp, hlast.of_error hp]
        exact mirrors_fail error last
      | ok _ last =>
        simp only [hp, hlast.of_ok hp]
        exact Task.mirrors_bind (mirrors_onUser (Attended.mirrors_withUser _))
          (fun _ => Task.mirrors_pure _ _) last
    | _ => rfl

end Deciding

end Execution

end Scaffold
