import Scaffold.Proofs.Execution.Attended
import Scaffold.Proofs.Execution.Filling
import Scaffold.Proofs.Lifecycle.Stages
import Scaffold.Proofs.Preview

/-!
# Up to the decision

How an execution comes to a decision about the plan. Whatever fails before it leaves a run that
nothing has touched; with the decision to apply, the changes are applied up to one that cannot be.
-/

namespace Scaffold

/-- The states of a run before anything is decided. -/
def LifecycleState.isOpen : LifecycleState → Bool
  | .created | .preconditionChecked | .optionsGathered | .prepared => true
  | _ => false

namespace Session

variable {β ω : Type}

/-- A task that leaves its host leaves the session. -/
theorem after_onHost {α : Type} {task : Task ChangeError ω α}
    (h : ∀ host, task.after host = host) (session : Session β ω) :
    (onHost task).after session = session := by
  have hhost := h session.host
  cases hr : task session.host with
  | ok value left =>
    rw [Task.after_of_ok hr] at hhost
    rw [Task.after_of_ok (onHost_of_ok hr), hhost]
    rfl
  | error error left =>
    rw [Task.after_of_error hr] at hhost
    rw [Task.after_of_error (onHost_of_error hr), hhost]
    rfl

/-- The run ended before anything was decided, and nothing was written. -/
structure Untouched (host : ω) (session : Session (Audited β) ω) : Prop where
  /-- The host is as it was. -/
  host : session.host = host
  /-- Nothing was decided. -/
  state : session.run.state.isOpen = true
  /-- The blueprint was asked for nothing that comes later. -/
  calls : ∃ options, session.run.blueprint.attempts.map (·.call) <+: [.prepare options, .generate]

/-- An open run that at most prepared and planned is untouched. -/
theorem Stands.untouched {host : ω} {state : LifecycleState} {cluster? : Option ChangeCluster}
    {attempts : List Attempt} {session : Session (Audited β) ω}
    (h : Stands host state cluster? attempts session) (hopen : state.isOpen = true)
    (hcalls : ∃ options, attempts.map (·.call) <+: [.prepare options, .generate]) :
    session.Untouched host := by
  refine ⟨h.host, ?_, ?_⟩
  · rw [h.state]
    exact hopen
  · rw [h.attempts]
    exact hcalls

/-- The blueprint is prepared and was not yet asked for changes. -/
def Prepared (host : ω) (session : Session (Audited β) ω) : Prop :=
  ∃ options, Stands host .prepared none [⟨.prepare options, true⟩] session

/-- The blueprint is prepared and the changes are known. -/
def Ready (host : ω) (session : Session (Audited β) ω) : Prop :=
  ∃ cluster options, Stands host .prepared (some cluster)
    [⟨.prepare options, true⟩, ⟨.generate, true⟩] session

/-- A run that is ready is untouched. -/
theorem Ready.untouched {host : ω} {session : Session (Audited β) ω} (h : session.Ready host) :
    session.Untouched host := by
  obtain ⟨cluster, options, h⟩ := h
  exact h.untouched rfl ⟨options, List.prefix_rfl⟩

/-- The run was given up, and nothing was written. -/
def GivenUp (host : ω) (session : Session (Audited β) ω) : Prop :=
  ∃ cluster options, Stands host .aborted (some cluster)
    [⟨.prepare options, true⟩, ⟨.generate, true⟩] session

section Applying

variable [FileHost ω]

/-- A change could not be applied. -/
def Broken (host : ω) (error : BlueprintError) (session : Session (Audited β) ω) : Prop :=
  ∃ (cluster : ChangeCluster) (reason : ChangeError) (options : Options),
    error = .change reason ∧
    applyCluster cluster host = .error reason session.host ∧
    Stands session.host .applying (some cluster)
      [⟨.prepare options, true⟩, ⟨.generate, true⟩] session

/-- All changes were applied, and the blueprint was not yet asked for its last word. -/
def Applied (host : ω) (session : Session (Audited β) ω) : Prop :=
  ∃ (cluster : ChangeCluster) (options : Options),
    applyCluster cluster host = .ok () session.host ∧
    Stands session.host .applied (some cluster)
      [⟨.prepare options, true⟩, ⟨.generate, true⟩] session

end Applying

end Session

namespace Execution

variable {β ω ι : Type}

/-- A task on the session ensures what it ensures of the session, and leaves the user. -/
theorem ensures_onSession {α : Type} {task : Task BlueprintError (Session β ω) α}
    {given : Session β ω → Prop} {done : α → Session β ω → Prop}
    {failed : BlueprintError → Session β ω → Prop} (h : Task.Ensures given task done failed)
    (kept : ι → Prop) :
    Task.Ensures (fun execution => given execution.session ∧ kept execution.user)
      (onSession task : Task BlueprintError (Execution β ω ι) α)
      (fun value left => done value left.session ∧ kept left.user)
      (fun error left => failed error left.session ∧ kept left.user) := by
  intro execution hg
  unfold onSession
  cases hr : task execution.session with
  | ok value left => exact ⟨h.of_ok hr hg.1, hg.2⟩
  | error error left => exact ⟨h.of_error hr hg.1, hg.2⟩

/-- A task on the user ensures what it ensures of the user, and leaves the session. -/
theorem ensures_onUser {α : Type} {task : Task BlueprintError ι α} {given : ι → Prop}
    {done : α → ι → Prop} {failed : BlueprintError → ι → Prop}
    (h : Task.Ensures given task done failed) (kept : Session β ω → Prop) :
    Task.Ensures (fun execution => kept execution.session ∧ given execution.user)
      (onUser task : Task BlueprintError (Execution β ω ι) α)
      (fun value left => kept left.session ∧ done value left.user)
      (fun error left => kept left.session ∧ failed error left.user) := by
  intro execution hg
  unfold onUser
  cases hr : task execution.user with
  | ok value left => exact ⟨hg.1, h.of_ok hr hg.2⟩
  | error error left => exact ⟨hg.1, h.of_error hr hg.2⟩

/-- The user decided to apply the plan, and the execution was no dry run. -/
structure Consented (dryRun : Bool) (user : Attended ι) : Prop where
  /-- It was no dry run. -/
  real : dryRun = false
  /-- The answer was to apply. -/
  answered : .apply ∈ user.decisions

variable [FileHost ω]

/-- The execution failed before anything was decided, or at a change. -/
def Stopped (host : ω) (dryRun : Bool) (error : BlueprintError)
    (execution : Execution (Audited β) ω (Attended ι)) : Prop :=
  execution.session.Untouched host ∨
    Consented dryRun execution.user ∧ execution.session.Broken host error

/-- Where an execution stands before the last word of its blueprint. -/
def Decided (host : ω) (dryRun : Bool) (outcome : ExecutionOutcome)
    (execution : Execution (Audited β) ω (Attended ι)) : Prop :=
  match outcome with
  | .applied => Consented dryRun execution.user ∧ execution.session.Applied host
  | .aborted | .previewed => execution.session.GivenUp host
  | .rejected => False

variable {host : ω} {dryRun : Bool}

/-- A step before the decision, which may fail as long as nothing is touched. -/
theorem ensures_step {α : Type} {task : Task BlueprintError (Session (Audited β) ω) α}
    {given : Session (Audited β) ω → Prop} {done : α → Session (Audited β) ω → Prop}
    {failed : BlueprintError → Session (Audited β) ω → Prop}
    (h : Task.Ensures given task done failed)
    (hfailed : ∀ error left, failed error left → left.Untouched host) :
    Task.Ensures (fun execution : Execution (Audited β) ω (Attended ι) => given execution.session)
      (onSession task) (fun value left => done value left.session) (Stopped host dryRun) :=
  (ensures_onSession h fun _ => True).imp (fun _ hg => ⟨hg, trivial⟩) (fun _ _ hd => hd.1)
    fun error left hf => .inl (hfailed error left.session hf.1)

/-- Whatever is asked of the user before the decision leaves the session. -/
theorem ensures_asking {α : Type} {given : Session (Audited β) ω → Prop}
    (task : Task BlueprintError (Attended ι) α)
    (hfailed : ∀ session, given session → session.Untouched host) :
    Task.Ensures (fun execution : Execution (Audited β) ω (Attended ι) => given execution.session)
      (onUser task) (fun _ left => given left.session) (Stopped host dryRun) := by
  have hanything : Task.Ensures (fun _ => True) task (fun _ _ => True) (fun _ _ => True) := by
    intro user _
    cases task user <;> trivial
  exact (ensures_onUser hanything given).imp (fun _ hg => ⟨hg, trivial⟩) (fun _ _ hd => hd.1)
    fun _ left hf => .inl (hfailed left.session hf.1)

/-- What is told about the progress of an execution changes nothing else. -/
theorem ensures_told [Interaction ι] [SteadyInteraction ι] (message : String)
    (kept : Session (Audited β) ω → Prop) (noted : List Decision → Prop) :
    Task.Ensures
      (fun execution : Execution (Audited β) ω (Attended ι) =>
        kept execution.session ∧ noted execution.user.decisions)
      (onUser (Interaction.info message))
      (fun _ left => kept left.session ∧ noted left.user.decisions) (Stopped host dryRun) :=
  (ensures_onUser (Attended.ensures_withUser (SteadyInteraction.info message) noted)
    kept).weaken_failed fun _ _ hf => hf.2.elim

/-- A user who decided to apply the plan, and is told so, has consented. -/
theorem ensures_agreed [Interaction ι] [SteadyInteraction ι] (message : String) :
    Task.Ensures
      (fun execution : Execution (Audited β) ω (Attended ι) => execution.session.Ready host ∧
        (true = true → Decision.apply ∈ execution.user.decisions))
      (onUser (Interaction.info message))
      (fun _ left => left.session.Ready host ∧ Consented false left.user)
      (Stopped host false) :=
  (ensures_told message (Session.Ready host) (Decision.apply ∈ ·)).imp
    (fun _ hg => ⟨hg.1, hg.2 rfl⟩) (fun _ _ hd => ⟨hd.1, rfl, hd.2⟩) fun _ _ hf => hf

/-- A message changes nothing in the session. -/
theorem ensures_progress [Interaction ι] [SteadyInteraction ι] (message : String)
    (kept : Session (Audited β) ω → Prop) :
    Task.Ensures (fun execution : Execution (Audited β) ω (Attended ι) => kept execution.session)
      (onUser (Interaction.info message)) (fun _ left => kept left.session)
      (Stopped host dryRun) :=
  (ensures_told message kept fun _ => True).imp (fun _ hg => ⟨hg, trivial⟩) (fun _ _ hd => hd.1)
    fun _ _ hf => hf

variable [Interaction ι]

/-- Questions about options change nothing in the session. -/
theorem ensures_ensureOptions [Declared β] {given : Session (Audited β) ω → Prop}
    (options : Options) (hfailed : ∀ session, given session → session.Untouched host) :
    Task.Ensures (fun execution : Execution (Audited β) ω (Attended ι) => given execution.session)
      (ensureOptions options) (fun _ left => given left.session) (Stopped host dryRun) := by
  intro execution hgiven
  rw [ensureOptions_eq_gather]
  exact ensures_asking _ hfailed execution hgiven

/-- Showing diffs leaves the run ready. -/
theorem ensures_showDiffs (diffs : List FileDiff) :
    Task.Ensures
      (fun execution : Execution (Audited β) ω (Attended ι) => execution.session.Ready host)
      (showDiffs diffs) (fun _ left => left.session.Ready host) (Stopped host dryRun) := by
  induction diffs with
  | nil => exact Task.ensures_pure fun _ h => h
  | cons diff rest ih =>
    apply Task.ensures_bind (ensures_asking (Interaction.showDiff diff) fun _ h => h.untouched)
    intro _
    exact ih

section Looking

variable [QuietReads ω]

/-- Looking at a file leaves the session. -/
theorem ensures_reveal {given : Session (Audited β) ω → Prop} (cluster : ChangeCluster)
    (path : Path) (hfailed : ∀ session, given session → session.Untouched host) :
    Task.Ensures (fun execution : Execution (Audited β) ω (Attended ι) => given execution.session)
      (reveal cluster path) (fun _ left => given left.session) (Stopped host dryRun) := by
  unfold reveal
  have hpreview : Task.Ensures given (Session.onHost (FileDiff.preview cluster path))
      (fun _ => given) (fun _ => given) :=
    Task.ensures_of_after (Session.after_onHost (FileDiff.after_preview cluster path))
  apply Task.ensures_bind (ensures_step hpreview fun _ left hg => hfailed left hg)
  intro diff
  exact ensures_asking (Interaction.showDiff diff) hfailed

/-- However often the user looks at files, the session stays as it is until the decision, and a
decision to apply has been noted. -/
theorem ensures_decide {given : Session (Audited β) ω → Prop} (cluster : ChangeCluster)
    (summary : Summary) (looks : Nat)
    (hfailed : ∀ session, given session → session.Untouched host) :
    Task.Ensures (fun execution : Execution (Audited β) ω (Attended ι) => given execution.session)
      (decide cluster summary looks)
      (fun decided left => given left.session ∧
        (decided = true → Decision.apply ∈ left.user.decisions))
      (Stopped host dryRun) := by
  have hconfirm : Task.Ensures
      (fun execution : Execution (Audited β) ω (Attended ι) => given execution.session)
      (onUser (Interaction.confirm summary))
      (fun decision left => given left.session ∧ decision ∈ left.user.decisions)
      (Stopped host dryRun) :=
    (ensures_onUser (Attended.ensures_confirm summary) given).imp (fun _ hg => ⟨hg, trivial⟩)
      (fun _ _ hd => hd) fun _ left hf => .inl (hfailed left.session hf.1)
  induction looks with
  | zero =>
    apply Task.ensures_bind hconfirm
    intro decision
    apply Task.ensures_pure
    intro left h
    refine ⟨h.1, fun hd => ?_⟩
    rw [← beq_iff_eq.mp hd]
    exact h.2
  | succ looks ih =>
    apply Task.ensures_bind hconfirm
    intro decision
    cases decision with
    | apply => exact Task.ensures_pure fun left h => ⟨h.1, fun _ => h.2⟩
    | cancel => exact Task.ensures_pure fun left h => ⟨h.1, fun hd => nomatch hd⟩
    | reveal path =>
      have hlook : Task.Ensures
          (fun execution : Execution (Audited β) ω (Attended ι) =>
            given execution.session ∧ Decision.reveal path ∈ execution.user.decisions)
          (reveal cluster path) (fun _ left => given left.session) (Stopped host dryRun) :=
        (ensures_reveal cluster path hfailed).of_given fun _ hg => hg.1
      exact Task.ensures_bind hlook fun _ => ih

end Looking

section Deciding

variable [Blueprint β ω]

omit [Interaction ι] in
/-- A run that is prepared was not asked for changes, and one that is not is untouched. -/
theorem ensures_prepare (quiet : PlansQuietly β ω) :
    Task.Ensures
      (fun execution : Execution (Audited β) ω (Attended ι) =>
        Session.Stands host .optionsGathered none [] execution.session)
      (onSession Session.prepare) (fun _ left => left.session.Prepared host)
      (Stopped host dryRun) := by
  have hprepare : Task.Ensures (Session.Stands host .optionsGathered none [])
      (Session.prepare : Task BlueprintError (Session (Audited β) ω) Unit)
      (fun _ => Session.Prepared host) (fun _ => Session.Untouched host) := by
    apply (Session.ensures_prepare quiet).weaken_failed
    rintro error left (hf | ⟨accepted, hf⟩)
    · exact hf.untouched rfl ⟨Options.empty, List.nil_prefix⟩
    · exact hf.untouched rfl ⟨accepted, ⟨_, rfl⟩⟩
  exact ensures_step hprepare fun _ _ hf => hf

omit [Interaction ι] in
/-- The first request for the changes makes a prepared run ready. -/
theorem ensures_cluster (quiet : PlansQuietly β ω) :
    Task.Ensures
      (fun execution : Execution (Audited β) ω (Attended ι) => execution.session.Prepared host)
      (onSession Session.cluster) (fun _ left => left.session.Ready host)
      (Stopped host dryRun) := by
  intro execution h
  obtain ⟨options, h⟩ := h
  have hcluster : Task.Ensures (Session.Stands host .prepared none [⟨.prepare options, true⟩])
      (Session.cluster : Task BlueprintError (Session (Audited β) ω) ChangeCluster)
      (fun _ => Session.Ready host) (fun _ => Session.Untouched host) := by
    apply (Session.ensures_cluster quiet).weaken
    · intro cluster left hd
      exact ⟨cluster, options, hd⟩
    · rintro error left (hf | hf)
      · exact hf.untouched rfl ⟨options, ⟨_, rfl⟩⟩
      · exact hf.untouched rfl ⟨options, List.prefix_rfl⟩
  exact ensures_step hcluster (fun _ _ hf => hf) execution h

omit [Interaction ι] in
/-- A run that is ready can be given up. -/
theorem ensures_abort :
    Task.Ensures
      (fun execution : Execution (Audited β) ω (Attended ι) => execution.session.Ready host)
      (onSession Session.abort) (fun _ left => left.session.GivenUp host)
      (Stopped host dryRun) := by
  intro execution h
  obtain ⟨cluster, options, h⟩ := h
  have habort : Task.Ensures
      (Session.Stands host .prepared (some cluster)
        [⟨.prepare options, true⟩, ⟨.generate, true⟩])
      (Session.abort : Task BlueprintError (Session (Audited β) ω) Unit)
      (fun _ => Session.GivenUp host) (fun _ => Session.Untouched host) := by
    apply Session.ensures_abort.weaken
    · intro _ left hd
      exact ⟨cluster, options, hd⟩
    · intro error left hf
      exact hf.untouched rfl ⟨options, List.prefix_rfl⟩
  exact ensures_step habort (fun _ _ hf => hf) execution h

omit [Interaction ι] in
/-- With consent, a run that is ready is applied, up to a change that cannot be. -/
theorem ensures_apply :
    Task.Ensures
      (fun execution : Execution (Audited β) ω (Attended ι) =>
        execution.session.Ready host ∧ Consented dryRun execution.user)
      (onSession Session.apply)
      (fun _ left => Consented dryRun left.user ∧ left.session.Applied host)
      (Stopped host dryRun) := by
  rintro execution ⟨⟨cluster, options, h⟩, hconsented⟩
  have happly : Task.Ensures
      (Session.Stands host .prepared (some cluster)
        [⟨.prepare options, true⟩, ⟨.generate, true⟩])
      (Session.apply : Task BlueprintError (Session (Audited β) ω) Unit)
      (fun _ => Session.Applied host)
      (fun error left => left.Untouched host ∨ left.Broken host error) := by
    apply Session.ensures_apply.weaken
    · rintro _ left ⟨applied, happlied, hd⟩
      rw [← hd.host] at happlied hd
      exact ⟨cluster, options, happlied, hd⟩
    · rintro error left (hf | ⟨stuck, reason, herror, hstuck, hf⟩)
      · exact .inl (hf.untouched rfl ⟨options, List.prefix_rfl⟩)
      · rw [← hf.host] at hstuck hf
        exact .inr ⟨cluster, reason, options, herror, hstuck, hf⟩
  have hlifted := ensures_onSession happly (Consented dryRun : Attended ι → Prop)
  have hstopped : Task.Ensures _ _
      (fun _ (left : Execution (Audited β) ω (Attended ι)) =>
        Consented dryRun left.user ∧ left.session.Applied host)
      (Stopped host dryRun) :=
    hlifted.weaken (fun _ _ hd => ⟨hd.2, hd.1⟩) fun _ _ hf =>
      hf.1.imp id fun hbroken => ⟨hf.2, hbroken⟩
  exact hstopped execution ⟨h, hconsented⟩

variable [QuietReads ω]

/-- The question leaves the run ready, and a decision to apply the plan has been noted. -/
theorem ensures_confirm (quiet : PlansQuietly β ω) :
    Task.Ensures
      (fun execution : Execution (Audited β) ω (Attended ι) => execution.session.Prepared host)
      confirm
      (fun decided left => left.session.Ready host ∧
        (decided = true → Decision.apply ∈ left.user.decisions))
      (Stopped host dryRun) := by
  unfold confirm
  apply Task.ensures_bind (ensures_cluster quiet)
  intro cluster
  apply Task.ensures_get_bind
  intro execution
  exact (ensures_decide cluster _ _ fun _ h => h.untouched).of_given fun _ hg => hg.2

variable [SteadyInteraction ι]

/-- A dry run ends given up, whatever it shows. -/
theorem ensures_preview (quiet : PlansQuietly β ω) :
    Task.Ensures
      (fun execution : Execution (Audited β) ω (Attended ι) => execution.session.Prepared host)
      preview (Decided host dryRun) (Stopped host dryRun) := by
  unfold preview
  apply Task.ensures_bind (ensures_cluster quiet)
  intro cluster
  apply Task.ensures_get_bind
  intro execution
  apply Task.ensures_bind ((ensures_asking _ fun _ h => h.untouched).of_given fun _ hg => hg.2)
  intro _
  have hpreviews : Task.Ensures (Session.Ready host)
      (Session.onHost (FileDiff.previewAll cluster) : Task BlueprintError (Session (Audited β) ω) _)
      (fun _ => Session.Ready host) (fun _ => Session.Ready host) :=
    Task.ensures_of_after (Session.after_onHost (FileDiff.after_previewEach cluster cluster.files))
  apply Task.ensures_bind (ensures_step hpreviews fun _ _ hf => hf.untouched)
  intro diffs
  apply Task.ensures_bind (ensures_showDiffs diffs)
  intro _
  apply Task.ensures_bind ensures_abort
  intro _
  apply Task.ensures_bind (ensures_progress _ (Session.GivenUp host))
  intro _
  exact Task.ensures_pure fun _ h => h

/-- Up to the last word of the blueprint, an execution ends as decided or stops. -/
theorem ensures_applyConfirmed (quiet : PlansQuietly β ω) (active : Bool) (options : Options) :
    Task.Ensures
      (fun execution : Execution (Audited β) ω (Attended ι) =>
        Session.Stands host .created none [] execution.session)
      (applyConfirmed active dryRun options) (Decided host dryRun) (Stopped host dryRun) := by
  have hnothing : ∀ options, ([] : List Attempt).map (·.call) <+:
      [BlueprintCall.prepare options, .generate] := fun _ => List.nil_prefix
  unfold applyConfirmed
  apply Task.ensures_bind (ensures_step (Session.ensures_checkPrecondition active)
    fun _ _ hf => hf.untouched rfl ⟨options, hnothing options⟩)
  intro _
  apply Task.ensures_bind (ensures_ensureOptions options
    fun _ h => h.untouched rfl ⟨options, hnothing options⟩)
  intro completed
  apply Task.ensures_bind (ensures_step (Session.ensures_acceptOptions completed)
    fun _ _ hf => hf.untouched rfl ⟨options, hnothing options⟩)
  intro _
  apply Task.ensures_bind (ensures_prepare quiet)
  intro _
  cases hdry : dryRun with
  | true => exact ensures_preview quiet
  | false =>
    rw [if_neg Bool.false_ne_true]
    apply Task.ensures_bind (ensures_confirm quiet)
    intro decided
    cases decided with
    | true =>
      rw [if_pos rfl]
      apply Task.ensures_bind (ensures_agreed _)
      intro _
      apply Task.ensures_bind ensures_apply
      intro _
      exact Task.ensures_pure fun _ h => h
    | false =>
      rw [if_neg Bool.false_ne_true]
      apply Task.ensures_bind (ensures_abort.of_given fun _ hg => hg.1)
      intro _
      apply Task.ensures_bind (ensures_progress _ (Session.GivenUp host))
      intro _
      exact Task.ensures_pure fun _ h => h

end Deciding

end Execution

end Scaffold
