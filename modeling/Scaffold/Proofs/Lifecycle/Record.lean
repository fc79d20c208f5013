import Scaffold.Proofs.Blueprint.Audited
import Scaffold.Proofs.Lifecycle.Steps

/-!
# Records of calls

A record keeps one call to a run with the run before it and its result. Two short lists say what
a record of a blueprint that never writes can show. The run stays as it was, goes one state
further, or enters the applying of its changes; and meanwhile the blueprint is asked nothing or
one of its steps.
-/

namespace Scaffold

/-- How far a run has come in a state. -/
def LifecycleState.rank : LifecycleState → Nat
  | .created => 0
  | .preconditionChecked => 1
  | .optionsGathered => 2
  | .prepared => 3
  | .aborted => 4
  | .applying => 4
  | .applied => 5
  | .postApplied => 6

/-- A call to a run, the run before it, and the result. -/
structure CallRecord (β ω : Type) where
  /-- The call. -/
  call : LifecycleCall
  /-- The run before the call. -/
  before : Session β ω
  /-- What the call answered, and the run after it. -/
  result : EStateM.Result BlueprintError (Session β ω) (Option ChangeCluster)

namespace CallRecord

variable {β ω : Type}

/-- The run after the call, also when the call failed. -/
def after (record : CallRecord β ω) : Session β ω :=
  match record.result with
  | .ok _ left => left
  | .error _ left => left

/-- Whether the call succeeded. -/
def succeeded (record : CallRecord β ω) : Bool :=
  match record.result with
  | .ok _ _ => true
  | .error _ _ => false

/-- The changes that the call told. -/
def answer? (record : CallRecord β ω) : Option ChangeCluster :=
  match record.result with
  | .ok answer _ => answer
  | .error _ _ => none

/-- The attempts at steps of the blueprint that the call made. -/
def made (record : CallRecord (Audited β) ω) : List Attempt :=
  record.after.run.blueprint.attempts.drop record.before.run.blueprint.attempts.length

/-- The call left the state, the accepted options and the host as they were. -/
structure Stayed (record : CallRecord β ω) : Prop where
  /-- The state is the same. -/
  state : record.after.run.state = record.before.run.state
  /-- The options are the same. -/
  options : record.after.run.options = record.before.run.options
  /-- The host is the same. -/
  host : record.after.host = record.before.host

/-- The call began to apply the changes. -/
structure Entered (record : CallRecord β ω) : Prop where
  /-- The changes were to be applied. -/
  call : record.call = .apply
  /-- The run was prepared. -/
  before : record.before.run.state = .prepared
  /-- The run is applying, or already done with it. -/
  after : record.after.run.state = .applying ∨ record.after.run.state = .applied

/-- The call applied every change. -/
structure AppliedAll [FileHost ω] (record : CallRecord β ω) : Prop where
  /-- The changes were to be applied. -/
  call : record.call = .apply
  /-- The call succeeded. -/
  succeeded : record.succeeded = true
  /-- The host is left by all changes of the run. -/
  all : ∃ cluster, record.after.run.cluster? = some cluster ∧
    Session.applyCluster cluster record.before.host = .ok () record.after.host

end CallRecord

/-- The calls that lead from one state right to the next one. -/
inductive LifecycleCall.Leads : LifecycleCall → LifecycleState → LifecycleState → Prop
  | checked : Leads (.checkPrecondition true) .created .preconditionChecked
  | accepted {options : Options} :
      Leads (.acceptOptions options) .preconditionChecked .optionsGathered
  | prepared : Leads .prepare .optionsGathered .prepared
  | aborted : Leads .abort .prepared .aborted
  | postApplied : Leads .postApply .applied .postApplied

namespace CallRecord

variable {β ω : Type}

/-- What a call does to the state, the accepted options and the host. -/
inductive Turn [FileHost ω] (record : CallRecord β ω) : Prop
  /-- Nothing; then it failed or only told the changes. -/
  | stayed (stays : record.Stayed) (tells : record.succeeded = true → record.call = .cluster)
  /-- It leads to the next state and leaves the host. -/
  | moved (succeeded : record.succeeded = true)
      (leads : record.call.Leads record.before.run.state record.after.run.state)
      (options : record.before.run.state = .preconditionChecked ∨
        record.after.run.options = record.before.run.options)
      (host : record.after.host = record.before.host)
  /-- It applies all changes. -/
  | applied (all : record.AppliedAll) (prepared : record.before.run.state = .prepared)
      (state : record.after.run.state = .applied)
      (options : record.after.run.options = record.before.run.options)
  /-- It enters the applying of the changes and is stuck there. -/
  | broken (call : record.call = .apply) (failed : record.succeeded = false)
      (prepared : record.before.run.state = .prepared)
      (state : record.after.run.state = .applying)
      (options : record.after.run.options = record.before.run.options)

end CallRecord

namespace Session

variable {β ω : Type}

/-- What the blueprint is asked between two points of a run, and what is known from it. -/
inductive Asks (before after : Session (Audited β) ω) : Prop
  /-- Nothing; then a run that was not prepared is not prepared yet. -/
  | nothing (log : after.run.blueprint.attempts = before.run.blueprint.attempts)
      (cluster? : after.run.cluster? = before.run.cluster?)
      (state : before.run.state.rank < 3 → after.run.state.rank < 3)
  /-- To prepare itself. -/
  | prepare {options : Options} {succeeded : Bool} (gathered : before.run.state = .optionsGathered)
      (log : after.run.blueprint.attempts =
        before.run.blueprint.attempts ++ [⟨.prepare options, succeeded⟩])
      (cluster? : after.run.cluster? = before.run.cluster?)
      (state : after.run.state = if succeeded then .prepared else .optionsGathered)
  /-- To generate the changes. -/
  | generate {succeeded : Bool}
      (ready : before.run.state = .prepared ∨ before.run.state = .applying)
      (log : after.run.blueprint.attempts =
        before.run.blueprint.attempts ++ [⟨.generate, succeeded⟩])
      (unknown : before.run.cluster? = none) (known : after.run.cluster?.isSome = succeeded)
  /-- To have its last word. -/
  | postApply {succeeded : Bool} (applied : before.run.state = .applied)
      (log : after.run.blueprint.attempts =
        before.run.blueprint.attempts ++ [⟨.postApply, succeeded⟩])
      (cluster? : after.run.cluster? = before.run.cluster?)
      (state : after.run.state = if succeeded then .postApplied else .applied)

variable [Blueprint β ω]

/-- Telling the changes leaves the state, the options and the host. -/
theorem host_of_tells (quiet : PlansQuietly β ω) {session known : Session (Audited β) ω}
    {cluster : ChangeCluster} (h : Tells session (.ok cluster known)) :
    known.host = session.host := by
  cases h with
  | recalled _ => rfl
  | generated _ called => exact quiet.generate.of_ok (Audited.auditing_of_ok called).1

/-- The changes are asked for once; what moves the run afterwards asks for nothing. -/
theorem asks_of_tells {session known after : Session (Audited β) ω} {cluster : ChangeCluster}
    (ready : session.run.state = .prepared ∨ session.run.state = .applying)
    (h : Tells session (.ok cluster known))
    (log : after.run.blueprint.attempts = known.run.blueprint.attempts)
    (hcluster : after.run.cluster? = known.run.cluster?) : Asks session after := by
  cases h with
  | recalled _ =>
    refine .nothing log hcluster fun hearly => absurd hearly ?_
    cases ready with
    | inl hprepared => exact hprepared ▸ by decide
    | inr happlying => exact happlying ▸ by decide
  | generated unknown called =>
    refine .generate ready (log.trans (Audited.auditing_of_ok called).2) unknown ?_
    rw [hcluster]
    rfl

end Session

namespace CallRecord

variable {β ω : Type} [Blueprint β ω] [FileHost ω]

/-- The call as it is made in a run. -/
def of (call : LifecycleCall) (session : Session β ω) : CallRecord β ω :=
  ⟨call, session, call.task session⟩

/-- Whatever happens to a run whose blueprint never writes is one of the four turns. -/
theorem turn_of (writes : NeverWrites β ω) (call : LifecycleCall)
    (session : Session (Audited β) ω) : (of call session).Turn := by
  have hperforms := call.performs session
  unfold of
  generalize call.task session = result at hperforms ⊢
  cases hperforms with
  | refused => exact .stayed ⟨rfl, rfl, rfl⟩ nofun
  | checked created =>
    refine .moved rfl ?_ (.inr rfl) rfl
    rw [created]
    exact .checked
  | accepted checked _ =>
    refine .moved rfl ?_ (.inl checked) rfl
    rw [checked]
    exact .accepted
  | prepared gathered called =>
    refine .moved rfl ?_ (.inr rfl) ((writes.prepare _).of_ok (Audited.auditing_of_ok called).1)
    rw [gathered]
    exact .prepared
  | unprepared _ called =>
    have hhost := (writes.prepare _).of_error (Audited.auditing_of_error called).1
    exact .stayed ⟨rfl, rfl, hhost⟩ nofun
  | told _ tells =>
    obtain ⟨hstate, hoptions, _⟩ := Session.state_of_tells tells
    exact .stayed ⟨hstate, hoptions, Session.host_of_tells writes.toPlansQuietly tells⟩ fun _ => rfl
  | untold _ _ tells =>
    cases tells with
    | failed _ called =>
      have hhost := writes.generate.of_error (Audited.auditing_of_error called).1
      exact .stayed ⟨rfl, rfl, hhost⟩ nofun
  | aborted prepared =>
    refine .moved rfl ?_ (.inr rfl) rfl
    rw [prepared]
    exact .aborted
  | applied prepared tells all =>
    obtain ⟨_, hoptions, hknown⟩ := Session.state_of_tells tells
    rw [Session.host_of_tells writes.toPlansQuietly tells] at all
    exact .applied ⟨rfl, rfl, _, hknown, all⟩ prepared rfl hoptions
  | broken prepared tells _ =>
    exact .broken rfl rfl prepared rfl (Session.state_of_tells tells).2.1
  | reapplied _ tells =>
    obtain ⟨hstate, hoptions, _⟩ := Session.state_of_tells tells
    exact .stayed ⟨hstate, hoptions, Session.host_of_tells writes.toPlansQuietly tells⟩ nofun
  | postApplied applied called =>
    refine .moved rfl ?_ (.inr rfl) (writes.postApply.of_ok (Audited.auditing_of_ok called).1)
    rw [applied]
    exact .postApplied
  | unpostApplied _ called =>
    have hhost := writes.postApply.of_error (Audited.auditing_of_error called).1
    exact .stayed ⟨rfl, rfl, hhost⟩ nofun

/-- Whatever happens to a run, the blueprint is asked at most one thing. -/
theorem asks_of (call : LifecycleCall) (session : Session (Audited β) ω) :
    Session.Asks session (of call session).after := by
  have hperforms := call.performs session
  unfold of
  generalize call.task session = result at hperforms ⊢
  cases hperforms with
  | refused => exact .nothing rfl rfl id
  | checked _ =>
    have hearly : LifecycleState.preconditionChecked.rank < 3 := by decide
    exact .nothing rfl rfl fun _ => hearly
  | accepted _ _ =>
    have hearly : LifecycleState.optionsGathered.rank < 3 := by decide
    exact .nothing rfl rfl fun _ => hearly
  | prepared gathered called =>
    exact .prepare gathered (Audited.auditing_of_ok called).2 rfl rfl
  | unprepared gathered called =>
    exact .prepare gathered (Audited.auditing_of_error called).2 rfl gathered
  | told ready tells => exact Session.asks_of_tells ready tells rfl rfl
  | untold _ ready tells =>
    cases tells with
    | failed unknown called =>
      refine .generate ready (Audited.auditing_of_error called).2 unknown ?_
      exact congrArg Option.isSome unknown
  | aborted prepared =>
    refine .nothing rfl rfl fun hearly => absurd hearly ?_
    rw [prepared]
    decide
  | applied prepared tells _ => exact Session.asks_of_tells (.inl prepared) tells rfl rfl
  | broken prepared tells _ => exact Session.asks_of_tells (.inl prepared) tells rfl rfl
  | reapplied applying tells => exact Session.asks_of_tells (.inr applying) tells rfl rfl
  | postApplied applied called =>
    exact .postApply applied (Audited.auditing_of_ok called).2 rfl rfl
  | unpostApplied applied called =>
    exact .postApply applied (Audited.auditing_of_error called).2 rfl applied

/-- Changes that a call told are known from then on. -/
theorem known_of_answer {call : LifecycleCall} {session : Session (Audited β) ω}
    {cluster : ChangeCluster} (h : (of call session).answer? = some cluster) :
    (of call session).after.run.cluster? = some cluster := by
  have hperforms := call.performs session
  unfold of at h ⊢
  generalize call.task session = result at hperforms h ⊢
  cases hperforms with
  | told _ tells =>
    cases h
    exact (Session.state_of_tells tells).2.2
  | _ => cases h

end CallRecord

end Scaffold
