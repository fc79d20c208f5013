import Scaffold.Proofs.Execution.Decision
import Scaffold.Proofs.Execution.Plain

/-!
# Consent

An execution writes nothing unless the user decided to apply the plan, and its outcome tells where
the run stands. Each early end leaves the run before anything was applied; after the decision only
a change that cannot be applied or the last word of the blueprint can fail.
-/

namespace Scaffold

namespace Session

variable {β ω : Type} [FileHost ω] [Blueprint β ω]

/-- All changes were applied, and the blueprint had its last word. -/
def Finished (host : ω) (session : Session (Audited β) ω) : Prop :=
  ∃ (cluster : ChangeCluster) (applied : ω) (blueprint : β) (options : Options),
    applyCluster cluster host = .ok () applied ∧
    Blueprint.postApply (blueprint, applied) =
      .ok () (session.run.blueprint.blueprint, session.host) ∧
    Stands session.host .postApplied (some cluster)
      [⟨.prepare options, true⟩, ⟨.generate, true⟩, ⟨.postApply, true⟩] session

/-- All changes were applied, and the last word of the blueprint failed. -/
def Unfinished (host : ω) (error : BlueprintError) (session : Session (Audited β) ω) : Prop :=
  ∃ (cluster : ChangeCluster) (applied : ω) (blueprint : β) (options : Options),
    applyCluster cluster host = .ok () applied ∧
    Blueprint.postApply (blueprint, applied) =
      .error error (session.run.blueprint.blueprint, session.host) ∧
    Stands session.host .applied (some cluster)
      [⟨.prepare options, true⟩, ⟨.generate, true⟩, ⟨.postApply, false⟩] session

end Session

namespace Execution

variable {β ω ι : Type}

/-- An audited run of a blueprint, with a user whose decisions are noted, before its first step. -/
def audited (blueprint : β) (host : ω) (user : ι) : Execution (Audited β) ω (Attended ι) :=
  start ⟨blueprint, []⟩ host ⟨user, []⟩

/-- The host is as it was unless the user consented, and the blueprint was asked in order. -/
structure Bounded (host : ω) (dryRun : Bool)
    (execution : Execution (Audited β) ω (Attended ι)) : Prop where
  /-- Nothing was written without consent. -/
  host : execution.session.host = host ∨ Consented dryRun execution.user
  /-- Each step of the blueprint was called at most once. -/
  calls : ∃ options, execution.session.run.blueprint.attempts.map (·.call) <+:
    [.prepare options, .generate, .postApply]

variable {host : ω} {dryRun : Bool}

/-- A run that touched nothing is bounded. -/
theorem bounded_of_untouched {left : Execution (Audited β) ω (Attended ι)}
    (h : left.session.Untouched host) : left.Bounded host dryRun := by
  obtain ⟨options, hcalls⟩ := h.calls
  exact ⟨.inl h.host, options, hcalls.trans ⟨[.postApply], rfl⟩⟩

/-- A run that was given up is bounded. -/
theorem bounded_of_givenUp {left : Execution (Audited β) ω (Attended ι)}
    (h : left.session.GivenUp host) : left.Bounded host dryRun := by
  obtain ⟨cluster, options, hstands⟩ := h
  refine ⟨.inl hstands.host, options, ?_⟩
  rw [hstands.attempts]
  exact ⟨[.postApply], rfl⟩

variable [FileHost ω] [Blueprint β ω]

/-- What the outcome of an execution tells about the run and the host. -/
def OutcomeTells (host : ω) (dryRun : Bool) : EStateM.Result BlueprintError
    (Execution (Audited β) ω (Attended ι)) ExecutionOutcome → Prop
  | .ok .applied left => Consented dryRun left.user ∧ left.session.Finished host
  | .ok .aborted left => left.session.GivenUp host
  | .ok .previewed left => left.session.GivenUp host
  | .ok .rejected left => left.session.Untouched host
  | .error error left => left.session.Untouched host ∨
      Consented dryRun left.user ∧
        (left.session.Broken host error ∨ left.session.Unfinished host error)

/-- An execution that stopped tells so by its error. -/
theorem tells_of_stopped {error : BlueprintError} {left : Execution (Audited β) ω (Attended ι)}
    (h : Stopped host dryRun error left) : OutcomeTells host dryRun (.error error left) :=
  h.imp id fun ⟨hconsented, hbroken⟩ => ⟨hconsented, .inl hbroken⟩

/-- Every outcome tells of an end within these bounds. -/
theorem bounded_of_ok {outcome : ExecutionOutcome} {left : Execution (Audited β) ω (Attended ι)}
    (h : OutcomeTells host dryRun (.ok outcome left)) : left.Bounded host dryRun := by
  cases outcome with
  | aborted => exact bounded_of_givenUp h
  | previewed => exact bounded_of_givenUp h
  | rejected => exact bounded_of_untouched h
  | applied =>
    obtain ⟨hconsented, _, _, _, options, _, _, hstands⟩ := h
    refine ⟨.inr hconsented, options, ?_⟩
    rw [hstands.attempts]
    exact List.prefix_rfl

/-- So does every error. -/
theorem bounded_of_error {error : BlueprintError} {left : Execution (Audited β) ω (Attended ι)}
    (h : OutcomeTells host dryRun (.error error left)) : left.Bounded host dryRun := by
  obtain huntouched | ⟨hconsented, hend⟩ := h
  · exact bounded_of_untouched huntouched
  · obtain ⟨_, _, options, _, _, hstands⟩ | ⟨_, _, _, options, _, _, hstands⟩ := hend
    · refine ⟨.inr hconsented, options, ?_⟩
      rw [hstands.attempts]
      exact ⟨[.postApply], rfl⟩
    · refine ⟨.inr hconsented, options, ?_⟩
      rw [hstands.attempts]
      exact List.prefix_rfl

variable [Interaction ι]

/-- A user who is told about an error takes no decision, and the error is returned. -/
theorem tells_fail {error : BlueprintError} {execution : Execution (Audited β) ω (Attended ι)}
    (h : OutcomeTells host dryRun (.error error execution)) :
    OutcomeTells host dryRun (fail error execution) := by
  have hkept := Attended.decisions_withUser
    (Interaction.error error.message : Task BlueprintError ι Unit) execution.user
  have hsame : ∀ user : Attended ι, user.decisions = execution.user.decisions →
      OutcomeTells host dryRun (.error error { execution with user := user }) := by
    intro user hu
    refine h.imp id fun ⟨hconsented, hend⟩ => ⟨⟨hconsented.real, ?_⟩, hend⟩
    rw [hu]
    exact hconsented.answered
  unfold fail
  cases hr : (Interaction.error error.message : Task BlueprintError (Attended ι) Unit)
      execution.user with
  | ok _ user =>
    have hleft := congrArg Attended.decisions (Task.after_of_ok hr)
    exact hsame user (hleft.symm.trans hkept)
  | error _ user =>
    have hleft := congrArg Attended.decisions (Task.after_of_error hr)
    exact hsame user (hleft.symm.trans hkept)

/-- A user who is told that the requirements are not met is left with a run untouched. -/
theorem tells_rejected (message : String) {left : Execution (Audited β) ω (Attended ι)}
    (h : left.session.Untouched host) :
    OutcomeTells host dryRun
      ((do
        onUser (Interaction.error message)
        return .rejected :
          Task BlueprintError (Execution (Audited β) ω (Attended ι)) ExecutionOutcome) left) := by
  have htold : Task.Ensures _ _ _ (Stopped host dryRun) :=
    ensures_asking (Interaction.error message : Task BlueprintError (Attended ι) Unit)
      fun (session : Session (Audited β) ω) hs => hs
  cases hr : (onUser (Interaction.error message) :
      Task BlueprintError (Execution (Audited β) ω (Attended ι)) Unit) left with
  | ok _ last =>
    rw [Task.bind_of_ok hr]
    exact htold.of_ok hr h
  | error error last =>
    rw [Task.bind_of_error hr]
    exact tells_of_stopped (htold.of_error hr h)

/-- An error that is no complaint about options fails the execution. -/
theorem execute_of_error {active : Bool} {options : Options} {error : BlueprintError}
    {execution left : Execution (Audited β) ω (Attended ι)}
    (hr : applyConfirmed active dryRun options execution = .error error left)
    (hn : ∀ message, error ≠ .validation message) :
    execute active dryRun options execution = fail error left := by
  unfold execute
  rw [hr]
  cases error with
  | validation message => exact absurd rfl (hn message)
  | _ => rfl

variable [SteadyInteraction ι]

/-- A user who is told that all went well takes no decision. -/
theorem tells_success (message : String) {left : Execution (Audited β) ω (Attended ι)}
    (hconsented : Consented dryRun left.user) (hfinished : left.session.Finished host) :
    OutcomeTells host dryRun
      ((do
        onUser (Interaction.success message)
        return .applied :
          Task BlueprintError (Execution (Audited β) ω (Attended ι)) ExecutionOutcome) left) := by
  have htold : Task.Ensures
      (fun execution : Execution (Audited β) ω (Attended ι) =>
        execution.session.Finished host ∧ Decision.apply ∈ execution.user.decisions)
      (onUser (Interaction.success message))
      (fun _ last => last.session.Finished host ∧ Decision.apply ∈ last.user.decisions)
      (fun _ last => last.session.Finished host ∧ False) :=
    ensures_onUser (Attended.ensures_withUser (SteadyInteraction.success message)
      (Decision.apply ∈ ·)) (Session.Finished host)
  cases hr : (onUser (Interaction.success message) :
      Task BlueprintError (Execution (Audited β) ω (Attended ι)) Unit) left with
  | ok _ last =>
    rw [Task.bind_of_ok hr]
    obtain ⟨hlast, hanswered⟩ := htold.of_ok hr ⟨hfinished, hconsented.answered⟩
    exact ⟨⟨hconsented.real, hanswered⟩, hlast⟩
  | error error last =>
    exact (htold.of_error hr ⟨hfinished, hconsented.answered⟩).2.elim

/-- After changes that were applied with consent, the last word of the blueprint decides. -/
theorem tells_of_applied {active : Bool} {options : Options}
    {execution left : Execution (Audited β) ω (Attended ι)}
    (hr : applyConfirmed active dryRun options execution = .ok .applied left)
    (hconsented : Consented dryRun left.user) (happlied : left.session.Applied host) :
    OutcomeTells host dryRun (execute active dryRun options execution) := by
  obtain ⟨cluster, accepted, hall, hstands⟩ := happlied
  have hpost := @Session.ensures_postApply β ω _ left.session.host
    [⟨.prepare accepted, true⟩, ⟨.generate, true⟩] (some cluster)
  have hlifted := ensures_onSession hpost (Consented dryRun : Attended ι → Prop)
  unfold execute
  rw [hr]
  cases hp : (onSession Session.postApply :
      Task BlueprintError (Execution (Audited β) ω (Attended ι)) Unit) left with
  | error error last =>
    obtain ⟨⟨blueprint, hcalled, hlast⟩, hstill⟩ := hlifted.of_error hp ⟨hstands, hconsented⟩
    simp only [hp]
    exact tells_fail (.inr ⟨hstill, .inr ⟨cluster, _, blueprint, accepted, hall, hcalled, hlast⟩⟩)
  | ok _ last =>
    obtain ⟨⟨blueprint, hcalled, hlast⟩, hstill⟩ := hlifted.of_ok hp ⟨hstands, hconsented⟩
    have hfinished : last.session.Finished host :=
      ⟨cluster, _, blueprint, accepted, hall, hcalled, hlast⟩
    simp only [hp]
    exact tells_success _ hstill hfinished

/-- Where an execution ends, and what its outcome tells. -/
theorem tells_execute [QuietReads ω] (quiet : PlansQuietly β ω) (blueprint : β) (host : ω)
    (user : ι) (active dryRun : Bool) (options : Options) :
    OutcomeTells host dryRun (execute active dryRun options (audited blueprint host user)) := by
  have hstart : Session.Stands host .created none [] (audited blueprint host user).session :=
    ⟨rfl, rfl, rfl, rfl⟩
  have hconfirmed : Task.Ensures _ _ (Decided host dryRun) (Stopped host dryRun) :=
    @ensures_applyConfirmed β ω ι _ host dryRun _ _ _ _ quiet active options
  cases hr : applyConfirmed active dryRun options (audited blueprint host user) with
  | error error left =>
    have hstopped := hconfirmed.of_error hr hstart
    cases error with
    | validation message =>
      have huntouched : left.session.Untouched host := by
        obtain huntouched | ⟨_, _, _, _, herror, _⟩ := hstopped
        · exact huntouched
        · cases herror
      unfold execute
      rw [hr]
      exact tells_rejected _ huntouched
    | _ =>
      rw [execute_of_error hr (fun _ => nofun)]
      exact tells_fail (tells_of_stopped hstopped)
  | ok outcome left =>
    have hdecided := hconfirmed.of_ok hr hstart
    cases outcome with
    | applied => exact tells_of_applied hr hdecided.1 hdecided.2
    | rejected => exact hdecided.elim
    | _ =>
      unfold execute
      rw [hr]
      exact hdecided

/-- Nothing is written without consent, and the outcome tells what happened. Of a blueprint that
writes nothing itself while it prepares and generates, for every user whose messages get through,
an execution ends as its outcome tells: the host is as it was unless the user answered to apply in
a run that is no dry run, and the blueprint was asked to prepare, to generate and for its last
word in this order, each at most once. The list of calls and decisions by which this is said
changes nothing of the execution itself. -/
theorem execute_writes_only_with_consent [QuietReads ω] (quiet : PlansQuietly β ω)
    (blueprint : β) (host : ω) (user : ι) (active dryRun : Bool) (options : Options) :
    Task.seen plain (execute active dryRun options (audited blueprint host user)) =
        execute active dryRun options (start blueprint host user) ∧
      OutcomeTells host dryRun (execute active dryRun options (audited blueprint host user)) ∧
      (Task.after (execute active dryRun options) (audited blueprint host user)).Bounded
        host dryRun := by
  have htells := tells_execute quiet blueprint host user active dryRun options
  refine ⟨mirrors_execute active dryRun options _, htells, ?_⟩
  cases hr : execute active dryRun options (audited blueprint host user) with
  | ok outcome left =>
    rw [hr] at htells
    rw [Task.after_of_ok hr]
    exact bounded_of_ok htells
  | error error left =>
    rw [hr] at htells
    rw [Task.after_of_error hr]
    exact bounded_of_error htells

/-- A blueprint of one new file, shown and then applied by a script. -/
def greeting : FixedBlueprint :=
  ⟨"greeting", "", [], true, [.newFile ⟨"hello"⟩ "Hello"], none, none, some (.other "tired")⟩

/-- The script looks at the file, applies the plan, and the last word of the blueprint fails. -/
theorem greeting_writes_only_with_consent :
    OutcomeTells (MemoryHost.withFiles []) false
        (execute true false Options.empty (audited greeting (MemoryHost.withFiles [])
          (Scripted.start Options.empty [.reveal ⟨"hello"⟩, .apply]))) ∧
      (Task.after (execute true false Options.empty) (audited greeting (MemoryHost.withFiles [])
        (Scripted.start Options.empty [.reveal ⟨"hello"⟩, .apply]))).Bounded
          (MemoryHost.withFiles []) false :=
  (execute_writes_only_with_consent FixedBlueprint.neverWrites.toPlansQuietly greeting
    (MemoryHost.withFiles []) (Scripted.start Options.empty [.reveal ⟨"hello"⟩, .apply])
    true false Options.empty).2

end Execution

end Scaffold
