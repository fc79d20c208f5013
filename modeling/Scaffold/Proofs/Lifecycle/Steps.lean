import Scaffold.Blueprint.Lifecycle
import Scaffold.Proofs.Task

/-!
# What a call of the lifecycle can do

The calls that a run understands, and for each of them everything that can happen: it is refused
and nothing changes, the blueprint is asked and fails, or the run moves on. A relation lists these
happenings with their guards; whatever holds along every happening holds along every run.
-/

namespace Scaffold

namespace Session

variable {β ω : Type}

/-- The session in another state of its run. -/
def withState (session : Session β ω) (state : LifecycleState) : Session β ω :=
  { session with run := { session.run with state := state } }

/-- The session with what a step of its blueprint left of the blueprint and the world. -/
def withWorld (session : Session β ω) (left : β × ω) : Session β ω :=
  ⟨{ session.run with blueprint := left.1 }, left.2⟩

/-- The session with other options accepted. -/
def withOptions (session : Session β ω) (options : Options) : Session β ω :=
  { session with run := { session.run with options := options } }

/-- The session with its changes known. -/
def withCluster (session : Session β ω) (cluster : ChangeCluster) : Session β ω :=
  { session with run := { session.run with cluster? := some cluster } }

/-- The session with another host. -/
def withHost (session : Session β ω) (host : ω) : Session β ω := { session with host := host }

/-- A step of the blueprint that succeeds is one of the session. -/
theorem ofBlueprint_of_ok {α : Type} {step : Task BlueprintError (β × ω) α}
    {session : Session β ω} {value : α} {left : β × ω}
    (h : step (session.run.blueprint, session.host) = .ok value left) :
    ofBlueprint step session = .ok value (session.withWorld left) := by
  rw [ofBlueprint, h]
  rfl

/-- A step of the blueprint that fails fails in the session with the same error. -/
theorem ofBlueprint_of_error {α : Type} {step : Task BlueprintError (β × ω) α}
    {session : Session β ω} {error : BlueprintError} {left : β × ω}
    (h : step (session.run.blueprint, session.host) = .error error left) :
    ofBlueprint step session = .error error (session.withWorld left) := by
  rw [ofBlueprint, h]
  rfl

/-- A task of the host that succeeds is one of the session. -/
theorem onHost_of_ok {α : Type} {task : Task ChangeError ω α} {session : Session β ω} {host : ω}
    {value : α} (h : task session.host = .ok value host) :
    onHost task session = .ok value (session.withHost host) := by
  rw [onHost, h]
  rfl

/-- A change that fails on the host fails in the session. -/
theorem onHost_of_error {α : Type} {task : Task ChangeError ω α} {session : Session β ω}
    {host : ω} {error : ChangeError} (h : task session.host = .error error host) :
    onHost task session = .error (.change error) (session.withHost host) := by
  rw [onHost, h]
  rfl

/-- In the state required, nothing happens. -/
theorem requireState_of_eq {session : Session β ω} {state : LifecycleState}
    (h : session.run.state = state) (target : LifecycleState) :
    requireState state target session = .ok () session := by
  rw [requireState, if_pos h]

/-- In any other state, the transition is refused. -/
theorem requireState_of_ne {session : Session β ω} {state : LifecycleState}
    (h : session.run.state ≠ state) (target : LifecycleState) :
    requireState state target session =
      .error (.invalidTransition session.run.state target) session := by
  rw [requireState, if_neg h]

/-- In its source state, a session moves to the target. -/
theorem move_of_eq {session : Session β ω} {source : LifecycleState}
    (h : session.run.state = source) (target : LifecycleState) :
    move source target session = .ok () (session.withState target) := by
  rw [move, Task.bind_of_ok (requireState_of_eq h target)]
  rfl

/-- In any other state, a session does not move. -/
theorem move_of_ne {session : Session β ω} {source : LifecycleState}
    (h : session.run.state ≠ source) (target : LifecycleState) :
    move source target session =
      .error (.invalidTransition session.run.state target) session := by
  rw [move, Task.bind_of_error (requireState_of_ne h target)]

/-- Options that can be completed are accepted as completed. -/
theorem acceptOptions_of_complete [Declared β] {session : Session β ω}
    {options completed : Options} (hs : session.run.state = .preconditionChecked)
    (h : Options.complete (Declared.parameters session.run.blueprint) options = .ok completed) :
    acceptOptions options session =
      .ok () ((session.withOptions completed).withState .optionsGathered) := by
  rw [acceptOptions, Task.bind_of_ok (requireState_of_eq hs .optionsGathered),
    Task.get_bind_apply, h]
  rfl

/-- Options that cannot be completed are refused with the complaint. -/
theorem acceptOptions_of_complaint [Declared β] {session : Session β ω} {options : Options}
    {complaint : String} (hs : session.run.state = .preconditionChecked)
    (h : Options.complete (Declared.parameters session.run.blueprint) options =
      .error complaint) :
    acceptOptions options session = .error (.validation complaint) session := by
  rw [acceptOptions, Task.bind_of_ok (requireState_of_eq hs .optionsGathered),
    Task.get_bind_apply, h]
  rfl

end Session

/-- Something that a run is told to do. -/
inductive LifecycleCall where
  /-- Take over whether the blueprint can be used. -/
  | checkPrecondition (active : Bool)
  /-- Take over options. -/
  | acceptOptions (options : Options)
  | prepare
  /-- Tell the changes. -/
  | cluster
  | abort
  | apply
  | postApply
  deriving Repr, DecidableEq

/-- The call as a task, which answers with the changes if it was asked for them. -/
def LifecycleCall.task {β ω : Type} [Blueprint β ω] [FileHost ω] :
    LifecycleCall → Task BlueprintError (Session β ω) (Option ChangeCluster)
  | .checkPrecondition active => (fun _ => none) <$> Session.checkPrecondition active
  | .acceptOptions options => (fun _ => none) <$> Session.acceptOptions options
  | .prepare => (fun _ => none) <$> Session.prepare
  | .cluster => some <$> Session.cluster
  | .abort => (fun _ => none) <$> Session.abort
  | .apply => (fun _ => none) <$> Session.apply
  | .postApply => (fun _ => none) <$> Session.postApply

variable {β ω : Type} [Blueprint β ω]

/-- The changes of a session that knows or can generate them. -/
inductive Tells : Session β ω → EStateM.Result BlueprintError (Session β ω) ChangeCluster → Prop
  /-- The changes were known. -/
  | recalled {session : Session β ω} {cluster : ChangeCluster}
      (known : session.run.cluster? = some cluster) : Tells session (.ok cluster session)
  /-- The blueprint generated them. -/
  | generated {session : Session β ω} {changes : List Change} {left : β × ω}
      (unknown : session.run.cluster? = none)
      (called : Blueprint.generate (session.run.blueprint, session.host) = .ok changes left) :
      Tells session (.ok (ChangeCluster.ofChanges changes)
        ((session.withWorld left).withCluster (ChangeCluster.ofChanges changes)))
  /-- The blueprint failed. -/
  | failed {session : Session β ω} {error : BlueprintError} {left : β × ω}
      (unknown : session.run.cluster? = none)
      (called : Blueprint.generate (session.run.blueprint, session.host) = .error error left) :
      Tells session (.error error (session.withWorld left))

/-- Asked in one of two states, a session tells its changes; in any other it refuses. -/
theorem Session.cluster_cases (session : Session β ω) :
    ((session.run.state = .prepared ∨ session.run.state = .applying) ∧
        Tells session (Session.cluster session)) ∨
      (¬(session.run.state = .prepared ∨ session.run.state = .applying) ∧
        Session.cluster session = .error (.notPrepared session.run.state) session) := by
  by_cases hs : session.run.state = .prepared ∨ session.run.state = .applying
  · left
    refine ⟨hs, ?_⟩
    unfold Session.cluster
    rw [Task.get_bind_apply, if_pos hs]
    cases hc : session.run.cluster? with
    | some cluster => exact .recalled hc
    | none =>
      simp only
      cases hg : (Blueprint.generate : Task BlueprintError (β × ω) (List Change))
          (session.run.blueprint, session.host) with
      | ok changes left =>
        rw [Task.bind_of_ok (Session.ofBlueprint_of_ok hg)]
        exact .generated hc hg
      | error error left =>
        rw [Task.bind_of_error (Session.ofBlueprint_of_error hg)]
        exact .failed hc hg
  · right
    refine ⟨hs, ?_⟩
    unfold Session.cluster
    rw [Task.get_bind_apply, if_neg hs]
    rfl

namespace Session

/-- Telling the changes leaves the state and the options, and then the changes are known. -/
theorem state_of_tells {session known : Session β ω} {cluster : ChangeCluster}
    (h : Tells session (.ok cluster known)) :
    known.run.state = session.run.state ∧ known.run.options = session.run.options ∧
      known.run.cluster? = some cluster := by
  cases h with
  | recalled hk => exact ⟨rfl, rfl, hk⟩
  | generated _ _ => exact ⟨rfl, rfl, rfl⟩

/-- Changes that are known are told without asking for them again. -/
theorem eq_of_tells {session left : Session β ω} {cluster told : ChangeCluster}
    (known : session.run.cluster? = some cluster) (h : Tells session (.ok told left)) :
    told = cluster ∧ left = session := by
  cases h with
  | recalled recalled =>
    rw [known] at recalled
    cases recalled
    exact ⟨rfl, rfl⟩
  | generated unknown _ =>
    rw [known] at unknown
    cases unknown

/-- A session that told its changes knows them, in the state that it was in. -/
theorem knows_of_cluster {session known : Session β ω} {cluster : ChangeCluster}
    (told : Session.cluster session = .ok cluster known) :
    (known.run.state = .prepared ∨ known.run.state = .applying) ∧
      known.run.state = session.run.state ∧ known.run.cluster? = some cluster := by
  obtain ⟨hs, htells⟩ | ⟨-, hrefused⟩ := Session.cluster_cases session
  · rw [told] at htells
    obtain ⟨hstate, -, hknown⟩ := state_of_tells htells
    exact ⟨hstate ▸ hs, hstate, hknown⟩
  · rw [told] at hrefused
    cases hrefused

/-- A plan that is known is told again. -/
theorem cluster_of_known {session : Session β ω} {cluster : ChangeCluster}
    (hs : session.run.state = .prepared ∨ session.run.state = .applying)
    (hk : session.run.cluster? = some cluster) : Session.cluster session = .ok cluster session := by
  unfold Session.cluster
  rw [Task.get_bind_apply, if_pos hs, hk]
  rfl

/-- Changes that are not known are generated, and then they are known. -/
theorem cluster_of_ok {session : Session β ω} {changes : List Change} {left : β × ω}
    (hs : session.run.state = .prepared ∨ session.run.state = .applying)
    (hu : session.run.cluster? = none)
    (h : Blueprint.generate (session.run.blueprint, session.host) = .ok changes left) :
    Session.cluster session = .ok (ChangeCluster.ofChanges changes)
      ((session.withWorld left).withCluster (ChangeCluster.ofChanges changes)) := by
  unfold Session.cluster
  rw [Task.get_bind_apply, if_pos hs, hu]
  exact Task.bind_of_ok (ofBlueprint_of_ok h)

/-- A blueprint that prepares leaves the session prepared. -/
theorem prepare_of_ok {session : Session β ω} {left : β × ω}
    (hs : session.run.state = .optionsGathered)
    (h : Blueprint.prepare session.run.options (session.run.blueprint, session.host) =
      .ok () left) :
    prepare session = .ok () ((session.withWorld left).withState .prepared) := by
  rw [prepare, Task.bind_of_ok (requireState_of_eq hs .prepared), Task.get_bind_apply,
    Task.bind_of_ok (ofBlueprint_of_ok h)]
  rfl

/-- A blueprint that fails to prepare leaves the state as it was. -/
theorem prepare_of_error {session : Session β ω} {left : β × ω} {error : BlueprintError}
    (hs : session.run.state = .optionsGathered)
    (h : Blueprint.prepare session.run.options (session.run.blueprint, session.host) =
      .error error left) :
    prepare session = .error error (session.withWorld left) := by
  rw [prepare, Task.bind_of_ok (requireState_of_eq hs .prepared), Task.get_bind_apply,
    Task.bind_of_error (ofBlueprint_of_error h)]

/-- A blueprint that finishes ends the run. -/
theorem postApply_of_ok {session : Session β ω} {left : β × ω}
    (hs : session.run.state = .applied)
    (h : Blueprint.postApply (session.run.blueprint, session.host) = .ok () left) :
    postApply session = .ok () ((session.withWorld left).withState .postApplied) := by
  rw [postApply, Task.bind_of_ok (requireState_of_eq hs .postApplied),
    Task.bind_of_ok (ofBlueprint_of_ok h)]
  rfl

/-- A blueprint that fails to finish leaves the state as it was. -/
theorem postApply_of_error {session : Session β ω} {left : β × ω} {error : BlueprintError}
    (hs : session.run.state = .applied)
    (h : Blueprint.postApply (session.run.blueprint, session.host) = .error error left) :
    postApply session = .error error (session.withWorld left) := by
  rw [postApply, Task.bind_of_ok (requireState_of_eq hs .postApplied),
    Task.bind_of_error (ofBlueprint_of_error h)]

variable [FileHost ω]

/-- Without a plan, nothing is applied. -/
theorem apply_of_untold {session left : Session β ω} {error : BlueprintError}
    (h : Session.cluster session = .error error left) : apply session = .error error left := by
  rw [apply, Task.bind_of_error h]

/-- A run that is applied already is not applied again. -/
theorem apply_of_applying {session known : Session β ω} {cluster : ChangeCluster}
    (hs : known.run.state = .applying) (hc : Session.cluster session = .ok cluster known) :
    apply session = .error (.invalidTransition .applying .applying) known := by
  have hn : known.run.state ≠ .prepared := by rw [hs]; exact LifecycleState.noConfusion
  rw [apply, Task.bind_of_ok hc, Task.bind_of_error (move_of_ne hn .applying), hs]

/-- In the prepared state, changes that are known or can be generated are applied. -/
theorem apply_of_prepared {session known : Session β ω} {cluster : ChangeCluster}
    (hs : known.run.state = .prepared) (hk : known.run.cluster? = some cluster)
    (hc : Session.cluster session = .ok cluster known) :
    apply session =
      match applyCluster cluster known.host with
      | .ok _ host => .ok () ((known.withHost host).withState .applied)
      | .error error host =>
        .error (.change error) ((known.withHost host).withState .applying) := by
  have hagain : Session.cluster (known.withState .applying) =
      .ok cluster (known.withState .applying) := cluster_of_known (Or.inr rfl) hk
  rw [apply, Task.bind_of_ok hc, Task.bind_of_ok (move_of_eq hs .applying), Task.bind_of_ok hagain]
  cases ha : applyCluster cluster known.host with
  | error error host =>
    have hhost : onHost (applyCluster cluster) (known.withState .applying) =
        .error (.change error) ((known.withState .applying).withHost host) := onHost_of_error ha
    exact Task.bind_of_error hhost
  | ok _ host =>
    have hhost : onHost (applyCluster cluster) (known.withState .applying) =
        .ok () ((known.withState .applying).withHost host) := onHost_of_ok ha
    have hstate : ((known.withState .applying).withHost host).run.state = .applying := rfl
    have hlast := move_of_eq hstate .applied
    rw [Task.bind_of_ok hhost]
    exact hlast

end Session

variable [FileHost ω]

/-- Everything that can happen when a run is told to do something. -/
inductive Performs : LifecycleCall → Session β ω →
    EStateM.Result BlueprintError (Session β ω) (Option ChangeCluster) → Prop
  /-- Nothing happens. -/
  | refused {call : LifecycleCall} {session : Session β ω} {error : BlueprintError} :
      Performs call session (.error error session)
  /-- The blueprint can be used. -/
  | checked {session : Session β ω} (created : session.run.state = .created) :
      Performs (.checkPrecondition true) session
        (.ok none (session.withState .preconditionChecked))
  /-- The options are accepted. -/
  | accepted {session : Session β ω} {options completed : Options}
      (checked : session.run.state = .preconditionChecked)
      (complete : Options.complete (Declared.parameters session.run.blueprint) options =
        .ok completed) :
      Performs (.acceptOptions options) session
        (.ok none ((session.withOptions completed).withState .optionsGathered))
  /-- The blueprint prepares itself. -/
  | prepared {session : Session β ω} {left : β × ω}
      (gathered : session.run.state = .optionsGathered)
      (called : Blueprint.prepare session.run.options (session.run.blueprint, session.host) =
        .ok () left) :
      Performs .prepare session (.ok none ((session.withWorld left).withState .prepared))
  /-- The blueprint fails to prepare itself. -/
  | unprepared {session : Session β ω} {error : BlueprintError} {left : β × ω}
      (gathered : session.run.state = .optionsGathered)
      (called : Blueprint.prepare session.run.options (session.run.blueprint, session.host) =
        .error error left) :
      Performs .prepare session (.error error (session.withWorld left))
  /-- The changes are told. -/
  | told {session left : Session β ω} {cluster : ChangeCluster}
      (ready : session.run.state = .prepared ∨ session.run.state = .applying)
      (tells : Tells session (.ok cluster left)) :
      Performs .cluster session (.ok (some cluster) left)
  /-- The blueprint fails to generate the changes, whichever call needs them. -/
  | untold {call : LifecycleCall} {session left : Session β ω} {error : BlueprintError}
      (asks : call = .cluster ∨ call = .apply)
      (ready : session.run.state = .prepared ∨ session.run.state = .applying)
      (tells : Tells session (.error error left)) :
      Performs call session (.error error left)
  /-- The run is given up. -/
  | aborted {session : Session β ω} (prepared : session.run.state = .prepared) :
      Performs .abort session (.ok none (session.withState .aborted))
  /-- All changes are applied. -/
  | applied {session known : Session β ω} {cluster : ChangeCluster} {host : ω}
      (prepared : session.run.state = .prepared) (tells : Tells session (.ok cluster known))
      (all : Session.applyCluster cluster known.host = .ok () host) :
      Performs .apply session (.ok none ((known.withHost host).withState .applied))
  /-- A change cannot be applied. -/
  | broken {session known : Session β ω} {cluster : ChangeCluster} {host : ω}
      {error : ChangeError}
      (prepared : session.run.state = .prepared) (tells : Tells session (.ok cluster known))
      (stuck : Session.applyCluster cluster known.host = .error error host) :
      Performs .apply session
        (.error (.change error) ((known.withHost host).withState .applying))
  /-- Changes are not applied twice. -/
  | reapplied {session known : Session β ω} {cluster : ChangeCluster} {error : BlueprintError}
      (applying : session.run.state = .applying) (tells : Tells session (.ok cluster known)) :
      Performs .apply session (.error error known)
  /-- The blueprint has its last word. -/
  | postApplied {session : Session β ω} {left : β × ω}
      (applied : session.run.state = .applied)
      (called : Blueprint.postApply (session.run.blueprint, session.host) = .ok () left) :
      Performs .postApply session (.ok none ((session.withWorld left).withState .postApplied))
  /-- The last word fails. -/
  | unpostApplied {session : Session β ω} {error : BlueprintError} {left : β × ω}
      (applied : session.run.state = .applied)
      (called : Blueprint.postApply (session.run.blueprint, session.host) = .error error left) :
      Performs .postApply session (.error error (session.withWorld left))

namespace LifecycleCall

theorem performs_checkPrecondition (active : Bool) (session : Session β ω) :
    Performs (.checkPrecondition active) session ((checkPrecondition active).task session) := by
  rw [task]
  cases active with
  | false =>
    have h : Session.checkPrecondition false session = .error _ session := rfl
    rw [Task.map_of_error _ h]
    exact .refused
  | true =>
    have heq : Session.checkPrecondition true session =
        Session.move .created .preconditionChecked session := rfl
    by_cases hs : session.run.state = .created
    · rw [Task.map_of_ok _ (heq.trans (Session.move_of_eq hs _))]
      exact .checked hs
    · rw [Task.map_of_error _ (heq.trans (Session.move_of_ne hs _))]
      exact .refused

theorem performs_acceptOptions (options : Options) (session : Session β ω) :
    Performs (.acceptOptions options) session ((acceptOptions options).task session) := by
  rw [task]
  by_cases hs : session.run.state = .preconditionChecked
  · cases hc : Options.complete (Declared.parameters session.run.blueprint) options with
    | error complaint =>
      rw [Task.map_of_error _ (Session.acceptOptions_of_complaint hs hc)]
      exact .refused
    | ok completed =>
      rw [Task.map_of_ok _ (Session.acceptOptions_of_complete hs hc)]
      exact .accepted hs hc
  · have h : Session.acceptOptions options session = .error _ session :=
      Task.bind_of_error (Session.requireState_of_ne hs .optionsGathered)
    rw [Task.map_of_error _ h]
    exact .refused

theorem performs_prepare (session : Session β ω) :
    Performs .prepare session (LifecycleCall.prepare.task session) := by
  rw [task]
  by_cases hs : session.run.state = .optionsGathered
  · cases hc : (Blueprint.prepare session.run.options : Task BlueprintError (β × ω) Unit)
        (session.run.blueprint, session.host) with
    | error error left =>
      rw [Task.map_of_error _ (Session.prepare_of_error hs hc)]
      exact .unprepared hs hc
    | ok _ left =>
      rw [Task.map_of_ok _ (Session.prepare_of_ok hs hc)]
      exact .prepared hs hc
  · have h : Session.prepare session = .error _ session :=
      Task.bind_of_error (Session.requireState_of_ne hs .prepared)
    rw [Task.map_of_error _ h]
    exact .refused

theorem performs_cluster (session : Session β ω) :
    Performs .cluster session (LifecycleCall.cluster.task session) := by
  rw [task]
  obtain ⟨hs, h⟩ | ⟨_, h⟩ := Session.cluster_cases session
  · cases hc : Session.cluster session with
    | error error left =>
      rw [hc] at h
      rw [Task.map_of_error _ hc]
      exact .untold (Or.inl rfl) hs h
    | ok cluster left =>
      rw [hc] at h
      rw [Task.map_of_ok _ hc]
      exact .told hs h
  · rw [Task.map_of_error _ h]
    exact .refused

theorem performs_abort (session : Session β ω) :
    Performs .abort session (LifecycleCall.abort.task session) := by
  rw [task, Session.abort]
  by_cases hs : session.run.state = .prepared
  · rw [Task.map_of_ok _ (Session.move_of_eq hs _)]
    exact .aborted hs
  · rw [Task.map_of_error _ (Session.move_of_ne hs _)]
    exact .refused

theorem performs_apply (session : Session β ω) :
    Performs .apply session (LifecycleCall.apply.task session) := by
  rw [task]
  obtain ⟨hs, h⟩ | ⟨_, h⟩ := Session.cluster_cases session
  · cases hc : Session.cluster session with
    | error error left =>
      rw [hc] at h
      rw [Task.map_of_error _ (Session.apply_of_untold hc)]
      exact .untold (Or.inr rfl) hs h
    | ok cluster known =>
      rw [hc] at h
      obtain ⟨hstate, _, hknown⟩ := Session.state_of_tells h
      cases hs with
      | inr happlying =>
        rw [Task.map_of_error _ (Session.apply_of_applying (hstate.trans happlying) hc)]
        exact .reapplied happlying h
      | inl hprepared =>
        have happly := Session.apply_of_prepared (hstate.trans hprepared) hknown hc
        cases ha : (Session.applyCluster cluster : Task ChangeError ω Unit) known.host with
        | error error host =>
          rw [ha] at happly
          rw [Task.map_of_error _ happly]
          exact .broken hprepared h ha
        | ok _ host =>
          rw [ha] at happly
          rw [Task.map_of_ok _ happly]
          exact .applied hprepared h ha
  · rw [Task.map_of_error _ (Session.apply_of_untold h)]
    exact .refused

theorem performs_postApply (session : Session β ω) :
    Performs .postApply session (LifecycleCall.postApply.task session) := by
  rw [task]
  by_cases hs : session.run.state = .applied
  · cases hc : (Blueprint.postApply : Task BlueprintError (β × ω) Unit)
        (session.run.blueprint, session.host) with
    | error error left =>
      rw [Task.map_of_error _ (Session.postApply_of_error hs hc)]
      exact .unpostApplied hs hc
    | ok _ left =>
      rw [Task.map_of_ok _ (Session.postApply_of_ok hs hc)]
      exact .postApplied hs hc
  · have h : Session.postApply session = .error _ session :=
      Task.bind_of_error (Session.requireState_of_ne hs .postApplied)
    rw [Task.map_of_error _ h]
    exact .refused

/-- Whatever a run is told to do, what happens is listed. -/
theorem performs (call : LifecycleCall) (session : Session β ω) :
    Performs call session (call.task session) := by
  cases call with
  | checkPrecondition active => exact performs_checkPrecondition active session
  | acceptOptions options => exact performs_acceptOptions options session
  | prepare => exact performs_prepare session
  | cluster => exact performs_cluster session
  | abort => exact performs_abort session
  | apply => exact performs_apply session
  | postApply => exact performs_postApply session

end LifecycleCall

end Scaffold
