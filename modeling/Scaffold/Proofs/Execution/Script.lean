import Scaffold.Proofs.Execution.Planning

/-!
# Scripted executions

An execution that is no dry run plans, asks and is brought to its end. What a scripted user has
still to decide does not matter to the plan, and what it was shown does not matter to the end; of
both only the question makes something.
-/

namespace Scaffold

namespace Scripted

/-- The user with decisions to take before its own, and with plans and diffs that it was shown
besides. -/
def alongside (decisions : List Decision) (summaries : List Summary) (diffs : List FileDiff)
    (user : Scripted) : Scripted :=
  { user with
    decisions := decisions ++ user.decisions
    summaries := user.summaries ++ summaries
    diffs := user.diffs ++ diffs }

/-- What the user has still to decide and what it was shown. -/
def record (user : Scripted) : List Decision × List Summary × List FileDiff :=
  (user.decisions, user.summaries, user.diffs)

section Alongside

variable (decisions : List Decision) (summaries : List Summary) (diffs : List FileDiff)

/-- A message does not depend on what the user will decide. -/
theorem mirrors_tell (message : String) :
    Task.Mirrors (alongside decisions summaries diffs) (tell message) (tell message) :=
  fun _ => rfl

/-- An answer does not depend on what the user will decide. -/
theorem mirrors_ask (questions : List Question) :
    Task.Mirrors (alongside decisions summaries diffs)
      (Interaction.ask questions : Task BlueprintError Scripted Options)
      (Interaction.ask questions) :=
  fun _ => rfl

end Alongside

/-- Without looks to come and looks behind it, a user is itself. -/
theorem alongside_nil (user : Scripted) : user.alongside [] [] [] = user := by
  simp only [alongside, List.nil_append, List.append_nil]

/-- What the user decides next; without a decision everything is cancelled. -/
def next (user : Scripted) : Decision := user.decisions.head?.getD .cancel

/-- The user once it was shown the plan and has decided. -/
def having (summary : Summary) (user : Scripted) : Scripted :=
  { user with summaries := user.summaries ++ [summary], decisions := user.decisions.tail }

/-- A summary takes one decision of the script. -/
theorem record_having {user : Scripted} {decisions : List Decision} {summary : Summary}
    (h : user.record = (decisions, [], [])) :
    (user.having summary).record = (decisions.tail, [summary], []) := by
  obtain ⟨answers, own, asked, summaries, diffs, messages⟩ := user
  cases h
  rfl

/-- A user whose script does not go on with a diff is shown none. -/
theorem next_ne_reveal {user : Scripted}
    (h : ∀ path, user.decisions.head? ≠ some (.reveal path)) (path : Path) :
    user.next ≠ .reveal path := by
  intro hn
  cases hd : user.decisions.head? with
  | none =>
    rw [next, hd] at hn
    cases hn
  | some decision =>
    rw [next, hd, Option.getD_some] at hn
    rw [hn] at hd
    exact h path hd

/-- The user decides what comes next in the script. -/
theorem confirm_apply (summary : Summary) (user : Scripted) :
    (Interaction.confirm summary : Task BlueprintError Scripted Decision) user =
      .ok user.next (user.having summary) := by
  obtain ⟨answers, decisions, asked, summaries, diffs, messages⟩ := user
  cases decisions <;> rfl

end Scripted

namespace Execution

variable {β ω : Type}

/-- The execution of a user with more decisions to take and more plans and diffs seen. -/
def alongside (decisions : List Decision) (summaries : List Summary) (diffs : List FileDiff)
    (execution : Execution β ω Scripted) : Execution β ω Scripted :=
  { execution with user := execution.user.alongside decisions summaries diffs }

/-- The execution once the user was shown the plan and has decided. -/
def having (summary : Summary) (execution : Execution β ω Scripted) : Execution β ω Scripted :=
  { execution with user := execution.user.having summary }

section Parts

variable {ι : Type} [Blueprint β ω] [Interaction ι]

/-- The execution up to the question about the plan. -/
def plan (active : Bool) (options : Options) :
    Task BlueprintError (Execution β ω ι) ChangeCluster := do
  onSession (Session.checkPrecondition active)
  let options ← ensureOptions options
  onSession (Session.acceptOptions options)
  onSession Session.prepare
  onSession Session.cluster

/-- The end of an execution after all but its last step. -/
def close (task : Task BlueprintError (Execution β ω ι) ExecutionOutcome) :
    Task BlueprintError (Execution β ω ι) ExecutionOutcome := fun execution =>
  match task execution with
  | .error (.validation message) execution =>
    (do
      onUser (Interaction.error ("Cannot proceed: " ++ message))
      return .rejected : Task BlueprintError (Execution β ω ι) ExecutionOutcome) execution
  | .error error execution => fail error execution
  | .ok .applied execution =>
    match onSession Session.postApply execution with
    | .error error execution => fail error execution
    | .ok _ execution =>
      (do
        onUser (Interaction.success "Completed, have a productive day!")
        return .applied : Task BlueprintError (Execution β ω ι) ExecutionOutcome) execution
  | .ok outcome execution => .ok outcome execution

/-- How an execution ends depends on its state before the end only. -/
theorem close_congr {task other : Task BlueprintError (Execution β ω ι) ExecutionOutcome}
    {execution left : Execution β ω ι} (h : task execution = other left) :
    close task execution = close other left := by
  unfold close
  rw [h]

variable [FileHost ω]

/-- The execution once it is decided whether the plan is applied. -/
def settle (decided : Bool) : Task BlueprintError (Execution β ω ι) ExecutionOutcome :=
  if decided then do
    onUser (Interaction.info "Applying changes...")
    onSession Session.apply
    return .applied
  else do
    onSession Session.abort
    onUser (Interaction.info "Aborted, nothing was changed")
    return .aborted

/-- The question about the plan and what follows from its answer. -/
def question (cluster : ChangeCluster) :
    Task BlueprintError (Execution β ω ι) ExecutionOutcome := do
  let execution ← get
  let decided ← decide cluster (Summary.ofCluster cluster execution.session.host)
    (Interaction.patience execution.user)
  settle decided

/-- An execution that is no dry run plans, asks and is brought to its end. -/
theorem execute_eq_close (active : Bool) (options : Options) :
    (execute active false options : Task BlueprintError (Execution β ω ι) ExecutionOutcome) =
      close (plan active options >>= question) := by
  have hconfirmed : (applyConfirmed active false options :
      Task BlueprintError (Execution β ω ι) ExecutionOutcome) =
        plan active options >>= question := by
    simp only [applyConfirmed, confirm, plan, bind_assoc, Bool.false_eq_true, if_false]
    rfl
  unfold execute
  rw [hconfirmed]
  rfl

variable {active : Bool} {options : Options} {execution left : Execution β ω ι}

/-- An execution that cannot make its plan ends with the error. -/
theorem execute_of_unplanned {error : BlueprintError}
    (h : plan active options execution = .error error left) :
    execute active false options execution = close (throw error) left := by
  rw [execute_eq_close]
  exact close_congr (Task.bind_of_error h)

/-- An execution that has made its plan ends with what follows from the question. -/
theorem execute_of_planned {cluster : ChangeCluster}
    (h : plan active options execution = .ok cluster left) :
    execute active false options execution = close (question cluster) left := by
  rw [execute_eq_close]
  exact close_congr (Task.bind_of_ok h)

end Parts

/-- The session is the same, whatever the user will decide. -/
theorem seen_alongside {ε α : Type} {decisions : List Decision} {summaries : List Summary}
    {diffs : List FileDiff} (result : EStateM.Result ε (Execution β ω Scripted) α) :
    Task.seen session (Task.seen (alongside decisions summaries diffs) result) =
      Task.seen session result := by
  cases result <;> rfl

section Mirroring

variable (decisions : List Decision) (summaries : List Summary) (diffs : List FileDiff)

/-- A call does not depend on what the user will decide. -/
theorem alongside_onSession {α : Type} (task : Task BlueprintError (Session β ω) α) :
    Task.Mirrors (alongside decisions summaries diffs) (onSession task) (onSession task) := by
  intro execution
  have hsame : (execution.alongside decisions summaries diffs).session = execution.session := rfl
  unfold onSession
  rw [hsame]
  cases task execution.session <;> rfl

/-- A question that does not depend on decisions does not do so in an execution. -/
theorem alongside_onUser {α : Type} {task : Task BlueprintError Scripted α}
    (h : Task.Mirrors (Scripted.alongside decisions summaries diffs) task task) :
    Task.Mirrors (alongside decisions summaries diffs : Execution β ω Scripted → _)
      (onUser task) (onUser task) := by
  intro execution
  unfold onUser
  cases hr : task execution.user with
  | ok value user =>
    have himage : task (execution.alongside decisions summaries diffs).user = _ := h.of_ok hr
    rw [himage]
    rfl
  | error error user =>
    have himage : task (execution.alongside decisions summaries diffs).user = _ := h.of_error hr
    rw [himage]
    rfl

variable [Blueprint β ω]

/-- Gathering options does not depend on what the user will decide. -/
theorem alongside_ensureOptions (options : Options) :
    Task.Mirrors (alongside decisions summaries diffs : Execution β ω Scripted → _)
      (ensureOptions options) (ensureOptions options) := by
  intro execution
  rw [ensureOptions_eq_gather, ensureOptions_eq_gather]
  exact alongside_onUser _ _ _
    (mirrors_gather (Scripted.mirrors_ask decisions summaries diffs) _ options) execution

/-- What the user has still to decide does not matter up to the question. -/
theorem alongside_plan (active : Bool) (options : Options) :
    Task.Mirrors (alongside decisions summaries diffs : Execution β ω Scripted → _)
      (plan active options) (plan active options) := by
  apply Task.mirrors_bind (alongside_onSession _ _ _ _)
  intro _
  apply Task.mirrors_bind (alongside_ensureOptions _ _ _ options)
  intro completed
  apply Task.mirrors_bind (alongside_onSession _ _ _ _)
  intro _
  apply Task.mirrors_bind (alongside_onSession _ _ _ _)
  intro _
  exact alongside_onSession _ _ _ _

/-- Nor does what the user has still to decide or has seen matter at the end. -/
theorem alongside_close {task image : Task BlueprintError (Execution β ω Scripted) ExecutionOutcome}
    (h : Task.Mirrors (alongside decisions summaries diffs) task image) :
    Task.Mirrors (alongside decisions summaries diffs) (close task) (close image) := by
  intro execution
  unfold close
  cases hr : task execution with
  | error error left =>
    rw [h.of_error hr]
    cases error <;> rfl
  | ok outcome left =>
    rw [h.of_ok hr]
    cases outcome with
    | applied =>
      have hlast : Task.Mirrors (alongside decisions summaries diffs) _ _ :=
        alongside_onSession _ _ _ (Session.postApply : Task BlueprintError (Session β ω) Unit)
      cases hp : (onSession Session.postApply :
          Task BlueprintError (Execution β ω Scripted) Unit) left with
      | error error last =>
        simp only [hp, hlast.of_error hp]
        rfl
      | ok _ last =>
        simp only [hp, hlast.of_ok hp]
        rfl
    | _ => rfl

variable [FileHost ω]

/-- What the user has seen does not matter after the decision. -/
theorem alongside_settle (decided : Bool) :
    Task.Mirrors (alongside decisions summaries diffs : Execution β ω Scripted → _)
      (settle decided) (settle decided) := by
  cases decided with
  | true =>
    apply Task.mirrors_bind (alongside_onUser _ _ _ (Scripted.mirrors_tell _ _ _ _))
    intro _
    apply Task.mirrors_bind (alongside_onSession _ _ _ _)
    intro _
    exact Task.mirrors_pure _ _
  | false =>
    apply Task.mirrors_bind (alongside_onSession _ _ _ _)
    intro _
    apply Task.mirrors_bind (alongside_onUser _ _ _ (Scripted.mirrors_tell _ _ _ _))
    intro _
    exact Task.mirrors_pure _ _

end Mirroring

section Ending

variable {host : ω} {cluster : ChangeCluster}
  {record : List Decision × List Summary × List FileDiff}

/-- A session that the user may watch, with what the user was shown. -/
def Watched (kept : Session β ω → Prop) (record : List Decision × List Summary × List FileDiff)
    (execution : Execution β ω Scripted) : Prop :=
  kept execution.session ∧ execution.user.record = record

/-- A call leaves the record of the user as it was. -/
theorem ensures_onSession_watched {α : Type} {task : Task BlueprintError (Session β ω) α}
    {given : Session β ω → Prop} {done : α → Session β ω → Prop}
    {failed : BlueprintError → Session β ω → Prop} (h : Task.Ensures given task done failed) :
    Task.Ensures (Watched given record) (onSession task) (fun value => Watched (done value) record)
      (fun error => Watched (failed error) record) :=
  ensures_onSession h (Scripted.record · = record)

/-- Nothing that is told or asked besides the plan changes what the user has still to decide and
was shown. -/
theorem ensures_onUser_watched {α : Type} {task : Task BlueprintError Scripted α}
    {kept : Session β ω → Prop} (h : ∀ user, (task.after user).record = user.record) :
    Task.Ensures (Watched kept record) (onUser task) (fun _ => Watched kept record)
      (fun _ => Watched kept record) := by
  have htask : Task.Ensures (Scripted.record · = record) task
      (fun _ => (Scripted.record · = record)) (fun _ => (Scripted.record · = record)) := by
    intro user hu
    have hleft := (h user).trans hu
    cases hr : task user with
    | ok value left => rwa [Task.after_of_ok hr] at hleft
    | error error left => rwa [Task.after_of_error hr] at hleft
  exact ensures_onUser htask kept

/-- Gathering values shows no plan and takes no decision. -/
theorem record_after_gather (parameters : List Parameter) (options : Options) (user : Scripted) :
    ((gather parameters options).after user).record = user.record := by
  obtain ⟨-, hgather⟩ | ⟨parameter, -, -, hgather | hgather⟩ := gather_cases parameters options
  all_goals
    rw [hgather]
    rfl

variable [Blueprint β ω]

/-- Gathering options leaves the record of decisions as it was. -/
theorem ensures_ensureOptions_watched {kept : Session β ω → Prop} (options : Options) :
    Task.Ensures (Watched kept record) (ensureOptions options) (fun _ => Watched kept record)
      (fun _ => Watched kept record) := by
  intro execution hgiven
  rw [ensureOptions_eq_gather]
  exact ensures_onUser_watched (record_after_gather _ options) execution hgiven

/-- The end of an execution keeps what the last word of the blueprint keeps. -/
theorem watched_close {kept : Session β ω → Prop}
    {task : Task BlueprintError (Execution β ω Scripted) ExecutionOutcome}
    {execution : Execution β ω Scripted}
    (last : Task.Keeps kept (Session.postApply : Task BlueprintError (Session β ω) Unit))
    (h : Watched kept record (task.after execution)) :
    Watched kept record ((close task).after execution) := by
  cases hr : task execution with
  | error error left =>
    rw [Task.after_of_error hr] at h
    simp only [Task.after, close, hr]
    cases error <;> exact h
  | ok outcome left =>
    rw [Task.after_of_ok hr] at h
    cases outcome with
    | applied =>
      have hlast := last left.session h.1
      cases hp : (Session.postApply : Task BlueprintError (Session β ω) Unit) left.session with
      | error error session =>
        rw [Task.after_of_error hp] at hlast
        simp only [Task.after, close, hr, onSession, hp]
        exact ⟨hlast, h.2⟩
      | ok _ session =>
        rw [Task.after_of_ok hp] at hlast
        simp only [Task.after, close, hr, onSession, hp]
        exact ⟨hlast, h.2⟩
    | _ =>
      simp only [Task.after, close, hr]
      exact h

variable [FileHost ω]

/-- Up to the question nothing is written, and the user is shown nothing. -/
theorem ensures_plan (quiet : PlansQuietly β ω) (active : Bool) (options : Options) :
    Task.Ensures (Watched (Session.Unplanned host) record)
      (plan active options : Task BlueprintError (Execution β ω Scripted) ChangeCluster)
      (fun cluster => Watched (Session.Planned host cluster) record)
      (fun _ => Watched (Session.Unplanned host) record) := by
  have hcheck : Task.Ensures (Session.Unplanned host)
      (Session.checkPrecondition active : Task BlueprintError (Session β ω) Unit)
      (fun _ => Session.Unplanned host) (fun _ => Session.Unplanned host) :=
    Task.ensures_of_map (@Session.ensures_early β ω _ host _ quiet (.checkPrecondition active) rfl)
  have haccept : ∀ completed, Task.Ensures (Session.Unplanned host)
      (Session.acceptOptions completed : Task BlueprintError (Session β ω) Unit)
      (fun _ => Session.Unplanned host) (fun _ => Session.Unplanned host) := fun completed =>
    Task.ensures_of_map (@Session.ensures_early β ω _ host _ quiet (.acceptOptions completed) rfl)
  have hprepare : Task.Ensures (Session.Unplanned host)
      (Session.prepare : Task BlueprintError (Session β ω) Unit)
      (fun _ => Session.Unplanned host) (fun _ => Session.Unplanned host) :=
    Task.ensures_of_map (@Session.ensures_early β ω _ host _ quiet .prepare rfl)
  apply Task.ensures_bind (ensures_onSession_watched hcheck)
  intro _
  apply Task.ensures_bind (ensures_ensureOptions_watched options)
  intro completed
  apply Task.ensures_bind (ensures_onSession_watched (haccept completed))
  intro _
  apply Task.ensures_bind (ensures_onSession_watched hprepare)
  intro _
  exact ensures_onSession_watched (Session.ensures_cluster_planned quiet)

/-- Whatever is decided, the run counts as applied only if the plan can be applied. -/
theorem ensures_settle (decided : Bool) :
    Task.Ensures (Watched (Session.Planned host cluster) record)
      (settle decided : Task BlueprintError (Execution β ω Scripted) ExecutionOutcome)
      (fun _ => Watched (Session.Settled host cluster) record)
      (fun _ => Watched (Session.Settled host cluster) record) := by
  cases decided with
  | true =>
    apply Task.ensures_bind ((ensures_onUser_watched fun _ => rfl).weaken_failed
      fun _ left hf => ⟨.of_planned hf.1, hf.2⟩)
    intro _
    apply Task.ensures_bind (ensures_onSession_watched Session.ensures_apply_settled)
    intro _
    exact Task.ensures_pure fun _ h => h
  | false =>
    apply Task.ensures_bind (ensures_onSession_watched Session.ensures_abort_settled)
    intro _
    apply Task.ensures_bind (ensures_onUser_watched fun _ => rfl)
    intro _
    exact Task.ensures_pure fun _ h => h

end Ending

end Execution

end Scaffold
