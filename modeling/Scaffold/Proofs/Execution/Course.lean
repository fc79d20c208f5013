import Scaffold.Proofs.Execution.Script

/-!
# The course of an execution

What an execution can have done when it ends, also in vain, told by what its blueprint was asked
and answered. The options accepted depend on those given and on the answers of the user only. If
the plan was made and is to be applied, then it is applied to the host as it was at the start.
-/

namespace Scaffold

/-- A session that has checked its requirements and waits for options. -/
def Session.checked {β ω : Type} (blueprint : β) (host : ω) : Session β ω :=
  ⟨⟨blueprint, .preconditionChecked, Options.empty, none⟩, host⟩

namespace Execution

variable {β ω ι : Type}

section Parts

variable {α : Type} {execution : Execution β ω ι} {value : α} {error : BlueprintError}

/-- A call that succeeds leaves the user as it was. -/
theorem onSession_of_ok {task : Task BlueprintError (Session β ω) α} {session : Session β ω}
    (h : task execution.session = .ok value session) :
    onSession task execution = .ok value ⟨session, execution.user⟩ := by
  simp only [onSession, h]

theorem onSession_of_error {task : Task BlueprintError (Session β ω) α} {session : Session β ω}
    (h : task execution.session = .error error session) :
    onSession task execution = .error error ⟨session, execution.user⟩ := by
  simp only [onSession, h]

/-- A question that is answered leaves the session as it was. -/
theorem onUser_of_ok {task : Task BlueprintError ι α} {user : ι}
    (h : task execution.user = .ok value user) :
    onUser task execution = .ok value ⟨execution.session, user⟩ := by
  simp only [onUser, h]

theorem onUser_of_error {task : Task BlueprintError ι α} {user : ι}
    (h : task execution.user = .error error user) :
    onUser task execution = .error error ⟨execution.session, user⟩ := by
  simp only [onUser, h]

end Parts

section Keeping

/-- A task on the user leaves the session. -/
theorem ensures_onUser_kept {α : Type} (task : Task BlueprintError ι α)
    (kept : Session β ω → Prop) :
    Task.Ensures (fun execution : Execution β ω ι => kept execution.session) (onUser task)
      (fun _ left => kept left.session) (fun _ left => kept left.session) := by
  intro execution hkept
  unfold onUser
  cases task execution.user <;> exact hkept

/-- Last words to the user leave the session. -/
theorem ensures_lastWords (task : Task BlueprintError ι Unit) (outcome : ExecutionOutcome)
    {kept : Session β ω → Prop} {done : ExecutionOutcome → Execution β ω ι → Prop}
    {failed : BlueprintError → Execution β ω ι → Prop}
    (hdone : ∀ left, kept left.session → done outcome left)
    (hfailed : ∀ error left, kept left.session → failed error left) :
    Task.Ensures (fun execution : Execution β ω ι => kept execution.session)
      (do
        onUser task
        return outcome)
      done failed :=
  Task.ensures_bind ((ensures_onUser_kept task kept).weaken_failed hfailed)
    fun _ => Task.ensures_pure hdone

/-- A task on the session ensures what it ensures of the session. -/
theorem ensures_onSession_kept {α : Type} {task : Task BlueprintError (Session β ω) α}
    {given : Session β ω → Prop} {done : α → Session β ω → Prop}
    {failed : BlueprintError → Session β ω → Prop} (h : Task.Ensures given task done failed) :
    Task.Ensures (fun execution : Execution β ω ι => given execution.session) (onSession task)
      (fun value left => done value left.session) (fun error left => failed error left.session) :=
  (ensures_onSession h fun _ => True).imp (fun _ hg => ⟨hg, trivial⟩) (fun _ _ hd => hd.1)
    fun _ _ hf => hf.1

variable [Interaction ι]

/-- Diffs are shown to the user only. -/
theorem ensures_showDiffs_kept (kept : Session β ω → Prop) (diffs : List FileDiff) :
    Task.Ensures (fun execution : Execution β ω ι => kept execution.session) (showDiffs diffs)
      (fun _ left => kept left.session) (fun _ left => kept left.session) := by
  induction diffs with
  | nil => exact Task.ensures_pure fun _ h => h
  | cons diff rest ih =>
    exact Task.ensures_bind (ensures_onUser_kept (Interaction.showDiff diff) kept) fun _ => ih

variable [FileHost ω]

/-- However often the user looks at files, what the previews keep of the session holds at the
decision. -/
theorem ensures_decide_kept {kept : Session β ω → Prop} {cluster : ChangeCluster}
    (shows : ∀ path, Task.Ensures kept (Session.onHost (FileDiff.preview cluster path))
      (fun _ => kept) (fun _ => kept))
    (summary : Summary) (looks : Nat) :
    Task.Ensures (fun execution : Execution β ω ι => kept execution.session)
      (decide cluster summary looks) (fun _ left => kept left.session)
      (fun _ left => kept left.session) := by
  have hconfirm := ensures_onUser_kept (ι := ι) (Interaction.confirm summary) kept
  induction looks with
  | zero => exact Task.ensures_bind hconfirm fun _ => Task.ensures_pure fun _ h => h
  | succ looks ih =>
    refine Task.ensures_bind hconfirm fun decision => ?_
    cases decision with
    | apply => exact Task.ensures_pure fun _ h => h
    | cancel => exact Task.ensures_pure fun _ h => h
    | reveal path =>
      refine Task.ensures_bind (Task.ensures_bind (ensures_onSession_kept (shows path)) ?_)
        fun _ => ih
      exact fun diff => ensures_onUser_kept (Interaction.showDiff diff) kept

end Keeping

section Gathering

variable [Interaction ι]

/-- The options that a run of the blueprint accepts, from those given and from its user. -/
def Accepts [Declared β] (blueprint : β) (options : Options) (user : ι) (accepted : Options) :
    Prop :=
  ∃ completed asked, gather (Declared.parameters blueprint) options user = .ok completed asked ∧
    Options.complete (Declared.parameters blueprint) completed = .ok accepted

/-- With the same parameters, options and user, the same options are accepted. -/
theorem Accepts.unique [Declared β] {blueprint other : β} {options accepted again : Options}
    {user : ι} (hfirst : Accepts blueprint options user accepted)
    (hsecond : Accepts other options user again)
    (hparameters : Declared.parameters other = (Declared.parameters blueprint : List Parameter)) :
    again = accepted := by
  obtain ⟨completed, asked, hgather, hcomplete⟩ := hfirst
  obtain ⟨completed', asked', hgather', hcomplete'⟩ := hsecond
  rw [hparameters, hgather] at hgather'
  cases hgather'
  rw [hparameters, hcomplete] at hcomplete'
  exact (Except.ok.inj hcomplete').symm

/-- The execution up to the options that its run accepts. -/
def takeOptions [Declared β] (active : Bool) (options : Options) :
    Task BlueprintError (Execution β ω ι) Unit := do
  onSession (Session.checkPrecondition active)
  let options ← ensureOptions options
  onSession (Session.acceptOptions options)

section Taking

variable [Declared β] {blueprint : β} {options : Options} {user asked : ι}

/-- Behind the precondition, options are gathered from the user. -/
theorem ensureOptions_checked (blueprint : β) (host : ω) (options : Options)
    (user : ι) :
    ensureOptions options (⟨Session.checked blueprint host, user⟩ : Execution β ω ι) =
      onUser (gather (Declared.parameters blueprint) options)
        ⟨Session.checked blueprint host, user⟩ :=
  ensureOptions_eq_gather options _

/-- The options gathered are those that the run is told to accept. -/
theorem takeOptions_of_gather (host : ω) {handed : Options}
    (h : gather (Declared.parameters blueprint) options user = .ok handed asked) :
    takeOptions true options (start blueprint host user) =
      onSession (Session.acceptOptions handed) ⟨Session.checked blueprint host, asked⟩ := by
  have hchecks : onSession (Session.checkPrecondition true) (start blueprint host user) =
      .ok () ⟨Session.checked blueprint host, user⟩ := rfl
  have hasks : ensureOptions options
      (⟨Session.checked blueprint host, user⟩ : Execution β ω ι) =
      .ok handed ⟨Session.checked blueprint host, asked⟩ :=
    (ensureOptions_checked blueprint host options user).trans (onUser_of_ok h)
  unfold takeOptions
  rw [Task.bind_of_ok hchecks, Task.bind_of_ok hasks]

/-- An execution that cannot gather options has only checked its requirements. -/
theorem takeOptions_of_gather_error (host : ω) {error : BlueprintError}
    (h : gather (Declared.parameters blueprint) options user = .error error asked) :
    takeOptions true options (start blueprint host user) =
      .error error ⟨Session.checked blueprint host, asked⟩ := by
  have hchecks : onSession (Session.checkPrecondition true) (start blueprint host user) =
      .ok () ⟨Session.checked blueprint host, user⟩ := rfl
  have hasks : ensureOptions options
      (⟨Session.checked blueprint host, user⟩ : Execution β ω ι) =
      .error error ⟨Session.checked blueprint host, asked⟩ :=
    (ensureOptions_checked blueprint host options user).trans (onUser_of_error h)
  unfold takeOptions
  rw [Task.bind_of_ok hchecks, Task.bind_of_error hasks]

end Taking

end Gathering

variable [Blueprint β ω] [Interaction ι]

/-- The options are accepted before the blueprint prepares itself and tells its changes. -/
theorem plan_eq (active : Bool) (options : Options) :
    (plan active options : Task BlueprintError (Execution β ω ι) ChangeCluster) =
      takeOptions active options >>= fun _ => onSession Session.prepare >>= fun _ =>
        onSession Session.cluster := by
  simp only [plan, takeOptions, bind_assoc]

/-- A plan that a blueprint makes for a host, with what it was made from. -/
structure PlannedRun (blueprint : β) (host : ω) (options : Options) (user : ι) where
  /-- The options accepted. -/
  accepted : Options
  /-- The blueprint once it has prepared itself. -/
  prepared : β
  /-- The changes that it generates. -/
  changes : List Change
  /-- The blueprint once it has generated them. -/
  planned : β
  /-- The options come from those given and from the user. -/
  accepts : Accepts blueprint options user accepted
  /-- The blueprint prepares itself for the options. -/
  prepares : Blueprint.prepare accepted (blueprint, host) = .ok () (prepared, host)
  /-- Then it generates the changes. -/
  generates : Blueprint.generate (prepared, host) = .ok changes (planned, host)

/-- The session of a run whose plan is made. -/
def PlannedRun.session {blueprint : β} {host : ω} {options : Options} {user : ι}
    (run : PlannedRun blueprint host options user) : Session β ω :=
  ⟨⟨run.planned, .prepared, run.accepted, some (ChangeCluster.ofChanges run.changes)⟩, host⟩

end Execution

namespace Session

variable {β ω : Type}

/-- Nothing was written, and the run has not begun to. -/
structure Idle (host : ω) (session : Session β ω) : Prop where
  /-- The host is as it was. -/
  host : session.host = host
  /-- No changes were to be applied. -/
  state : session.run.state.isOpen = true ∨ session.run.state = .aborted

end Session

namespace Execution

variable {β ω ι : Type} [Blueprint β ω] [Interaction ι]
  {blueprint : β} {host : ω} {options : Options} {user : ι}

section Planning

/-- The check of the requirements begins the run or leaves it idle. -/
theorem ensures_checked (blueprint : β) (host : ω) (active : Bool) :
    Task.Ensures (· = ⟨BlueprintRun.start blueprint, host⟩)
      (Session.checkPrecondition active : Task BlueprintError (Session β ω) Unit)
      (fun _ => (· = Session.checked blueprint host))
      (fun _ => Session.Idle host) := by
  rintro session rfl
  cases active with
  | true => exact rfl
  | false => exact ⟨rfl, .inl rfl⟩

/-- Options that can be completed are accepted. -/
theorem ensures_accepted (blueprint : β) (host : ω) (completed : Options) :
    Task.Ensures (· = Session.checked blueprint host)
      (Session.acceptOptions completed : Task BlueprintError (Session β ω) Unit)
      (fun _ session => ∃ accepted,
        Options.complete (Declared.parameters blueprint) completed = .ok accepted ∧
          session = ⟨⟨blueprint, .optionsGathered, accepted, none⟩, host⟩)
      (fun _ => Session.Idle host) := by
  rintro session rfl
  cases hcomplete : Options.complete (Declared.parameters blueprint) completed with
  | error complaint =>
    rw [Session.acceptOptions_of_complaint rfl hcomplete]
    exact ⟨rfl, .inl rfl⟩
  | ok accepted =>
    rw [Session.acceptOptions_of_complete rfl hcomplete]
    exact ⟨accepted, rfl, rfl⟩

/-- A blueprint that plans quietly prepares itself and leaves the host. -/
theorem ensures_prepared (quiet : PlansQuietly β ω) (blueprint : β) (host : ω)
    (accepted : Options) :
    Task.Ensures (· = ⟨⟨blueprint, .optionsGathered, accepted, none⟩, host⟩)
      (Session.prepare : Task BlueprintError (Session β ω) Unit)
      (fun _ session => ∃ prepared,
        Blueprint.prepare accepted (blueprint, host) = .ok () (prepared, host) ∧
          session = ⟨⟨prepared, .prepared, accepted, none⟩, host⟩)
      (fun _ => Session.Idle host) := by
  rintro session rfl
  cases hprepare : (Blueprint.prepare accepted : Task BlueprintError (β × ω) Unit)
      (blueprint, host) with
  | error error left =>
    rw [Session.prepare_of_error rfl hprepare]
    exact ⟨(quiet.prepare accepted).of_error hprepare, .inl rfl⟩
  | ok _ left =>
    obtain ⟨prepared, kept⟩ := left
    have hhost : kept = host := (quiet.prepare accepted).of_ok hprepare
    subst hhost
    rw [Session.prepare_of_ok rfl hprepare]
    exact ⟨prepared, rfl, rfl⟩

/-- A prepared blueprint that plans quietly generates its changes and leaves the host. -/
theorem ensures_generated (quiet : PlansQuietly β ω) (prepared : β) (host : ω)
    (accepted : Options) :
    Task.Ensures (· = ⟨⟨prepared, .prepared, accepted, none⟩, host⟩)
      (Session.cluster : Task BlueprintError (Session β ω) ChangeCluster)
      (fun cluster session => ∃ changes planned,
        Blueprint.generate (prepared, host) = .ok changes (planned, host) ∧
          cluster = ChangeCluster.ofChanges changes ∧
            session = ⟨⟨planned, .prepared, accepted, some cluster⟩, host⟩)
      (fun _ => Session.Idle host) := by
  rintro session rfl
  obtain ⟨-, htells⟩ | ⟨hstate, -⟩ :=
    Session.cluster_cases (⟨⟨prepared, .prepared, accepted, none⟩, host⟩ : Session β ω)
  · cases hcluster : (Session.cluster : Task BlueprintError (Session β ω) ChangeCluster)
        ⟨⟨prepared, .prepared, accepted, none⟩, host⟩ with
    | error error left =>
      rw [hcluster] at htells
      cases htells with
      | failed _ called => exact ⟨quiet.generate.of_error called, .inl rfl⟩
    | ok cluster left =>
      rw [hcluster] at htells
      cases htells with
      | recalled known => cases known
      | @generated changes kept _ called =>
        obtain ⟨planned, last⟩ := kept
        have hhost : last = host := quiet.generate.of_ok called
        subst hhost
        exact ⟨changes, planned, called, rfl, rfl⟩
  · exact absurd (.inl rfl) hstate

/-- Up to the question, a fresh execution makes a plan or stays idle. -/
theorem ensures_plannedRun (quiet : PlansQuietly β ω) (active : Bool) :
    Task.Ensures (· = start blueprint host user)
      (plan active options : Task BlueprintError (Execution β ω ι) ChangeCluster)
      (fun cluster left => ∃ run : PlannedRun blueprint host options user,
        cluster = ChangeCluster.ofChanges run.changes ∧ left.session = run.session)
      (fun _ left => left.session.Idle host) := by
  have hcheck : Task.Ensures (· = start blueprint host user)
      (onSession (Session.checkPrecondition active))
      (fun _ left =>
        left.session = Session.checked blueprint host ∧
          left.user = user)
      (fun _ left => left.session.Idle host) := by
    refine (ensures_onSession (ensures_checked blueprint host active) (· = user)).imp ?_
      (fun _ _ hd => hd) fun _ left hf => hf.1
    rintro _ rfl
    exact ⟨rfl, rfl⟩
  refine Task.ensures_bind hcheck fun _ => ?_
  have hgather : Task.Ensures
      (fun execution : Execution β ω ι =>
        execution.session = Session.checked blueprint host ∧
          execution.user = user)
      (ensureOptions options)
      (fun completed left =>
        left.session = Session.checked blueprint host ∧
          ∃ asked, gather (Declared.parameters blueprint) options user = .ok completed asked)
      (fun _ left => left.session.Idle host) := by
    rintro ⟨session, someone⟩ ⟨rfl, rfl⟩
    rw [ensureOptions_checked]
    cases hr : gather (Declared.parameters blueprint) options someone with
    | ok completed asked =>
      rw [onUser_of_ok hr]
      exact ⟨rfl, asked, rfl⟩
    | error error asked =>
      rw [onUser_of_error hr]
      exact ⟨rfl, .inl rfl⟩
  refine Task.ensures_bind hgather fun completed => ?_
  intro execution hexecution
  obtain ⟨hsession, asked, hasked⟩ := hexecution
  have haccept := ensures_onSession_kept (ι := ι) (ensures_accepted blueprint host completed)
  refine Task.ensures_bind haccept (fun _ => ?_) execution hsession
  rintro execution ⟨accepted, hcomplete, hsession⟩
  have hprepare := ensures_onSession_kept (ι := ι)
    (ensures_prepared quiet blueprint host accepted)
  refine Task.ensures_bind hprepare (fun _ => ?_) execution hsession
  rintro execution ⟨prepared, hprepares, hsession⟩
  have hgenerate := ensures_onSession_kept (ι := ι)
    (ensures_generated quiet prepared host accepted)
  refine hgenerate.weaken ?_ (fun _ _ h => h) execution hsession
  rintro _ left ⟨changes, planned, hgenerates, rfl, hleft⟩
  exact ⟨⟨accepted, prepared, changes, planned, ⟨completed, asked, hasked, hcomplete⟩, hprepares,
    hgenerates⟩, rfl, hleft⟩

end Planning

section Deciding

variable [FileHost ω]

namespace PlannedRun

variable (run : PlannedRun blueprint host options user)

/-- The changes in the order of application. -/
def cluster : ChangeCluster := ChangeCluster.ofChanges run.changes

/-- A change of the plan could not be applied. -/
structure Broke (session : Session β ω) : Prop where
  /-- What was applied before it stays. -/
  fails : ∃ error, Session.applyCluster run.cluster host = .error error session.host
  /-- The run is still applying. -/
  state : session.run.state = .applying

/-- The plan was applied, and the blueprint was not yet asked for its last word. -/
def Applied (session : Session β ω) : Prop :=
  ∃ applied, Session.applyCluster run.cluster host = .ok () applied ∧
    session = (run.session.withHost applied).withState .applied

/-- The plan was applied, and the blueprint had its last word. -/
structure Finished (session : Session β ω) : Prop where
  /-- The last word was said where the plan was applied. -/
  applies : ∃ applied, Session.applyCluster run.cluster host = .ok () applied ∧
    Task.after Blueprint.postApply (run.planned, applied) =
      (session.run.blueprint, session.host)
  /-- The options are those accepted. -/
  accepted : session.run.options = run.accepted
  /-- The run counts as applied. -/
  state : session.run.state = .applied ∨ session.run.state = .postApplied

omit [FileHost ω] in
/-- A run with a plan alone is idle. -/
theorem idle : run.session.Idle host := ⟨rfl, .inl rfl⟩

/-- A plan is applied to the host as it was, and only a change can fail. -/
theorem ensures_apply :
    Task.Ensures (· = run.session) (Session.apply : Task BlueprintError (Session β ω) Unit)
      (fun _ => run.Applied) (fun _ => run.Broke) := by
  rintro session rfl
  have hknown : Session.cluster run.session = .ok run.cluster run.session :=
    Session.cluster_of_known (.inl rfl) rfl
  have hstate : run.session.run.state = .prepared := rfl
  have hcluster : run.session.run.cluster? = some run.cluster := rfl
  have happly := Session.apply_of_prepared hstate hcluster hknown
  have hhost : run.session.host = host := rfl
  rw [hhost] at happly
  rw [happly]
  cases hc : (Session.applyCluster run.cluster : Task ChangeError ω Unit) host with
  | ok _ applied => exact ⟨applied, hc, rfl⟩
  | error error left => exact ⟨⟨error, hc⟩, rfl⟩

omit [FileHost ω] in
/-- To give the run up writes nothing. -/
theorem ensures_abort :
    Task.Ensures (· = run.session) (Session.abort : Task BlueprintError (Session β ω) Unit)
      (fun _ => Session.Idle host) (fun _ => Session.Idle host) := by
  rintro session rfl
  have hstate : run.session.run.state = .prepared := rfl
  have habort := Session.move_of_eq hstate .aborted
  rw [Session.abort, habort]
  exact ⟨rfl, .inr rfl⟩

/-- The last word is said where the plan was applied. -/
theorem ensures_postApply :
    Task.Ensures run.Applied (Session.postApply : Task BlueprintError (Session β ω) Unit)
      (fun _ => run.Finished) (fun _ => run.Finished) := by
  rintro session ⟨applied, happlies, rfl⟩
  have hstate : ((run.session.withHost applied).withState .applied).run.state = .applied := rfl
  cases hlast : (Blueprint.postApply : Task BlueprintError (β × ω) Unit)
      (run.planned, applied) with
  | ok _ left =>
    rw [Session.postApply_of_ok hstate hlast]
    exact ⟨⟨applied, happlies, Task.after_of_ok hlast⟩, rfl, .inr rfl⟩
  | error error left =>
    rw [Session.postApply_of_error hstate hlast]
    exact ⟨⟨applied, happlies, Task.after_of_error hlast⟩, rfl, .inl rfl⟩

end PlannedRun

/-- What an execution can have done to its session: nothing, or something of a plan that was made
before. -/
inductive Course (blueprint : β) (host : ω) (options : Options) (user : ι) :
    Session β ω → Prop
  /-- Nothing was written. -/
  | idle {session : Session β ω} (idle : session.Idle host) :
    Course blueprint host options user session
  /-- The plan was applied up to a change that failed. -/
  | broke {session : Session β ω} (run : PlannedRun blueprint host options user)
      (broke : run.Broke session) : Course blueprint host options user session
  /-- The plan was applied. -/
  | finished {session : Session β ω} (run : PlannedRun blueprint host options user)
      (finished : run.Finished session) : Course blueprint host options user session

section Ending

variable [QuietReads ω] (run : PlannedRun blueprint host options user)

/-- What holds of the session that an execution leaves, by its outcome. -/
def Settles (applied other : Session β ω → Prop) (outcome : ExecutionOutcome)
    (left : Execution β ω ι) : Prop :=
  match outcome with
  | .applied => applied left.session
  | _ => other left.session

/-- The question is answered before anything is written, and then the plan is applied or not. -/
theorem ensures_question :
    Task.Ensures (fun execution : Execution β ω ι => execution.session = run.session)
      (question run.cluster)
      (Settles run.Applied (Session.Idle host))
      (fun _ left => left.session.Idle host ∨ run.Broke left.session) := by
  have hidle : ∀ left : Execution β ω ι, left.session = run.session → left.session.Idle host :=
    fun left hleft => hleft ▸ run.idle
  have hinfo : ∀ message, Task.Ensures
      (fun execution : Execution β ω ι => execution.session = run.session)
      (onUser (Interaction.info message)) (fun _ left => left.session = run.session)
      (fun _ left => left.session.Idle host ∨ run.Broke left.session) := fun message =>
    (ensures_onUser_kept (Interaction.info message) (· = run.session)).weaken_failed
      fun _ left h => .inl (hidle left h)
  unfold question
  refine Task.ensures_get_bind fun execution => ?_
  have hshows : ∀ path, Task.Ensures (· = run.session)
      (Session.onHost (FileDiff.preview run.cluster path)) (fun _ => (· = run.session))
      (fun _ => (· = run.session)) := fun path =>
    Task.ensures_of_after (Session.after_onHost (FileDiff.after_preview run.cluster path))
  refine Task.ensures_bind ((ensures_decide_kept hshows _ _).imp
    (fun _ h => h.2) (fun _ _ h => h) fun _ left h => .inl (hidle left h)) fun decided => ?_
  cases decided with
  | true =>
    refine Task.ensures_bind (hinfo _) fun _ => ?_
    refine Task.ensures_bind ((ensures_onSession_kept run.ensures_apply).weaken_failed
      fun _ _ h => .inr h) fun _ => ?_
    exact Task.ensures_pure fun _ h => h
  | false =>
    refine Task.ensures_bind ((ensures_onSession_kept run.ensures_abort).weaken_failed
      fun _ _ h => .inl h) fun _ => ?_
    exact ensures_lastWords _ .aborted (fun _ h => h) fun _ _ h => .inl h

/-- What a dry run does with the plan: it is shown, and the run is given up. -/
def rehearse (cluster : ChangeCluster) :
    Task BlueprintError (Execution β ω ι) ExecutionOutcome := do
  let execution ← get
  let summary := Summary.ofCluster cluster execution.session.host
  onUser (Interaction.info
    ("Plan of operation:\n" ++ summary.render (Interaction.colours execution.user)))
  let diffs ← onSession (Session.onHost (FileDiff.previewAll cluster))
  showDiffs diffs
  onSession Session.abort
  onUser (Interaction.info "Dry run, nothing was changed")
  return .previewed

omit [QuietReads ω] in
/-- With the plan made, a dry run shows it and any other asks about it. -/
theorem applyConfirmed_eq (active dryRun : Bool) (options : Options) :
    (applyConfirmed active dryRun options :
        Task BlueprintError (Execution β ω ι) ExecutionOutcome) =
      plan active options >>= fun cluster =>
        if dryRun then rehearse cluster else question cluster := by
  cases dryRun
  all_goals
    simp only [applyConfirmed, confirm, preview, plan, bind_assoc, Bool.false_eq_true, if_false,
      if_true]
    rfl

/-- A dry run stays idle. -/
theorem ensures_rehearse :
    Task.Ensures (fun execution : Execution β ω ι => execution.session = run.session)
      (rehearse run.cluster)
      (Settles (fun _ => False) (Session.Idle host))
      (fun _ left => left.session.Idle host) := by
  have hidle : ∀ left : Execution β ω ι, left.session = run.session → left.session.Idle host :=
    fun left hleft => hleft ▸ run.idle
  have hpreviews : Task.Ensures (· = run.session)
      (Session.onHost (FileDiff.previewAll run.cluster)) (fun _ => (· = run.session))
      (fun _ => (· = run.session)) :=
    Task.ensures_of_after
      (Session.after_onHost (FileDiff.after_previewEach run.cluster run.cluster.files))
  unfold rehearse
  refine Task.ensures_get_bind fun execution => ?_
  refine Task.ensures_bind ((ensures_onUser_kept (Interaction.info _) (· = run.session)).imp
    (fun _ h => h.2) (fun _ _ h => h) fun _ left h => hidle left h) fun _ => ?_
  refine Task.ensures_bind ((ensures_onSession_kept hpreviews).weaken_failed
    fun _ left h => hidle left h) fun diffs => ?_
  refine Task.ensures_bind ((ensures_showDiffs_kept (· = run.session) diffs).weaken_failed
    fun _ left h => hidle left h) fun _ => ?_
  refine Task.ensures_bind (ensures_onSession_kept run.ensures_abort) fun _ => ?_
  exact ensures_lastWords _ .previewed (fun _ h => h) fun _ _ h => h

/-- Before its last word, an execution has applied its plan or done nothing that succeeded. -/
theorem ensures_applyConfirmed_course (quiet : PlansQuietly β ω) (active dryRun : Bool) :
    Task.Ensures (· = start blueprint host user)
      (applyConfirmed active dryRun options : Task BlueprintError (Execution β ω ι) _)
      (Settles
        (fun left => ∃ run : PlannedRun blueprint host options user, run.Applied left)
        fun left => left.Idle host ∨
          ∃ run : PlannedRun blueprint host options user, run.Broke left)
      (fun _ left => left.session.Idle host ∨
        ∃ run : PlannedRun blueprint host options user, run.Broke left.session) := by
  rw [applyConfirmed_eq]
  refine Task.ensures_bind ((ensures_plannedRun quiet active).weaken_failed
    fun _ _ h => .inl h) fun cluster => ?_
  rintro execution ⟨run, rfl, hsession⟩
  cases dryRun with
  | true =>
    refine (ensures_rehearse run).weaken ?_ (fun _ _ h => .inl h) execution hsession
    intro outcome left h
    cases outcome with
    | applied => exact h.elim
    | _ => exact .inl h
  | false =>
    refine (ensures_question run).weaken ?_
      (fun _ _ h => h.imp id fun hbroke => ⟨run, hbroke⟩) execution hsession
    intro outcome left h
    cases outcome with
    | applied => exact ⟨run, h⟩
    | _ => exact .inl h

omit [Blueprint β ω] [FileHost ω] [QuietReads ω] in
/-- An error that is told leaves the session. -/
theorem ensures_fail_kept (error : BlueprintError) (kept : Session β ω → Prop)
    (done : ExecutionOutcome → Execution β ω ι → Prop) :
    Task.Ensures (fun execution : Execution β ω ι => kept execution.session) (fail error) done
      (fun _ left => kept left.session) := by
  intro execution hkept
  unfold fail
  cases (Interaction.error error.message : Task BlueprintError ι Unit) execution.user <;>
    exact hkept

omit [FileHost ω] [QuietReads ω] in
/-- The end of an execution adds the last word to what was applied, and tells the user. -/
theorem ensures_close {given : Execution β ω ι → Prop} {applied other ended : Session β ω → Prop}
    {task : Task BlueprintError (Execution β ω ι) ExecutionOutcome}
    (h : Task.Ensures given task (Settles applied other) (fun _ left => other left.session))
    (last : Task.Ensures applied (Session.postApply : Task BlueprintError (Session β ω) Unit)
      (fun _ => ended) (fun _ => ended)) :
    Task.Ensures given (close task) (Settles ended other)
      (fun _ left => other left.session ∨ ended left.session) := by
  intro execution hgiven
  generalize hclose : close task execution = result
  unfold close at hclose
  split at hclose
  case h_1 message left hr =>
    subst hclose
    exact ensures_lastWords _ .rejected (fun _ h => h) (fun _ _ h => .inl h) left
      (h.of_error hr hgiven)
  case h_2 error left _ hr =>
    subst hclose
    exact (ensures_fail_kept error other _).weaken_failed (fun _ _ h => .inl h) left
      (h.of_error hr hgiven)
  case h_3 left hr =>
    have hlast := ensures_onSession_kept (ι := ι) last
    have happlied := h.of_ok hr hgiven
    split at hclose
    case h_1 error reached hended =>
      subst hclose
      exact (ensures_fail_kept error ended _).weaken_failed (fun _ _ h => .inr h) reached
        (hlast.of_error hended happlied)
    case h_2 reached hended =>
      subst hclose
      exact ensures_lastWords _ .applied (fun _ h => h) (fun _ _ h => .inr h) reached
        (hlast.of_ok hended happlied)
  case h_4 outcome left hother hr =>
    subst hclose
    have hleft := h.of_ok hr hgiven
    cases outcome with
    | applied => exact absurd rfl hother
    | _ => exact hleft

/-- Whatever an execution of a blueprint that plans quietly does to its session, it has done
nothing or applied its plan to the host as it was, and it ends as applied only if the whole plan
was applied. -/
theorem ensures_course (quiet : PlansQuietly β ω) (active dryRun : Bool) :
    Task.Ensures (· = start blueprint host user)
      (execute active dryRun options : Task BlueprintError (Execution β ω ι) _)
      (fun outcome left => Course blueprint host options user left.session ∧
        (outcome = .applied →
          ∃ run : PlannedRun blueprint host options user, run.Finished left.session))
      (fun _ left => Course blueprint host options user left.session) := by
  have hlast : Task.Ensures
      (fun left => ∃ run : PlannedRun blueprint host options user, run.Applied left)
      (Session.postApply : Task BlueprintError (Session β ω) Unit)
      (fun _ left => ∃ run : PlannedRun blueprint host options user, run.Finished left)
      (fun _ left => ∃ run : PlannedRun blueprint host options user, run.Finished left) := by
    rintro session ⟨run, happlied⟩
    exact run.ensures_postApply.weaken (fun _ _ h => ⟨run, h⟩) (fun _ _ h => ⟨run, h⟩) session
      happlied
  have hclose := ensures_close (ensures_applyConfirmed_course quiet active dryRun) hlast
  refine hclose.weaken ?_ ?_
  · intro outcome left h
    cases outcome with
    | applied =>
      obtain ⟨run, hfinished⟩ := h
      exact ⟨.finished run hfinished, fun _ => ⟨run, hfinished⟩⟩
    | _ => exact ⟨h.elim .idle fun ⟨run, hbroke⟩ => .broke run hbroke, nofun⟩
  · rintro error left ((hidle | ⟨run, hbroke⟩) | ⟨run, hfinished⟩)
    · exact .idle hidle
    · exact .broke run hbroke
    · exact .finished run hfinished

end Ending

end Deciding

end Execution

end Scaffold
