import Scaffold.Blueprint.Fixed
import Scaffold.Host.Memory
import Scaffold.Proofs.Lifecycle.Attempts

/-!
# Safety of the lifecycle

Whatever calls are made to a run in whatever order, the run keeps to its lifecycle. Its blueprint
may fail at some calls and succeed at others, and calls may be repeated after a failure. An apply
that fails to generate the changes leaves the run prepared; so such a run can still be given up.
-/

namespace Scaffold

namespace CallRecord

variable {β ω : Type}

/-- The call accepted options. -/
structure Accepted (record : CallRecord β ω) : Prop where
  /-- Options were given. -/
  call : ∃ options, record.call = .acceptOptions options
  /-- The call succeeded. -/
  succeeded : record.succeeded = true

/-- The call ended the run before all changes were applied: it gave the run up, or it failed while
it applied the changes. -/
def Ended (record : CallRecord β ω) : Prop :=
  record.call = .abort ∧ record.succeeded = true ∨
    record.Entered ∧ record.succeeded = false

/-- The call attempted a step of the blueprint. -/
def Attempted (call : BlueprintCall) (record : CallRecord (Audited β) ω) : Prop :=
  ∃ succeeded, ⟨call, succeeded⟩ ∈ record.made

/-- The call got the blueprint prepared. -/
def GotPrepared (record : CallRecord (Audited β) ω) : Prop :=
  ∃ options, ⟨.prepare options, true⟩ ∈ record.made

end CallRecord

/-- What the records of a run show that keeps to its lifecycle. -/
structure LifecycleSafe {β ω : Type} [FileHost ω] (records : List (CallRecord (Audited β) ω)) :
    Prop where
  /-- The state only moves along the lifecycle. -/
  moves : ∀ record ∈ records, Relation.ReflTransGen LifecycleState.Next
    record.before.run.state record.after.run.state
  /-- A call that fails changes nothing, unless it had begun to apply the changes. -/
  failures : ∀ record ∈ records, record.succeeded = false → record.Entered ∨ record.Stayed
  /-- The changes are generated only after the blueprint was prepared. -/
  generates : OnlyAfter CallRecord.GotPrepared (CallRecord.Attempted .generate) records
  /-- The last word is asked for only after all changes were applied. -/
  postApplies : OnlyAfter CallRecord.AppliedAll (CallRecord.Attempted .postApply) records
  /-- A step of the blueprint that succeeded is never called again. -/
  asksOnce : (records.flatMap CallRecord.made).Pairwise Attempt.Settles
  /-- Each call notes what it attempted after what was attempted before. -/
  notes : ∀ record ∈ records, record.after.run.blueprint.attempts =
    record.before.run.blueprint.attempts ++ record.made
  /-- Only a call that begins to apply the changes writes. -/
  writes : ∀ record ∈ records, ¬record.Entered → record.after.host = record.before.host
  /-- Only one call ever does. -/
  writesOnce : records.Pairwise fun earlier later => earlier.Entered → ¬later.Entered
  /-- The changes that are told are always the same. -/
  tellsSame : records.Pairwise fun earlier later => ∀ cluster others,
    earlier.answer? = some cluster → later.answer? = some others → others = cluster
  /-- Options that were accepted never change. -/
  keepsOptions : records.Pairwise fun earlier later =>
    earlier.Accepted → later.after.run.options = earlier.after.run.options
  /-- Nothing changes after the run has ended. -/
  staysEnded : records.Pairwise fun earlier later => earlier.Ended →
    later.after.run.state = earlier.after.run.state ∧ later.after.host = earlier.after.host

section Keeping

variable {β ω : Type} [Blueprint β ω] [FileHost ω]

/-- What is known of the changes after a call that told them. -/
theorem told_same (calls : List LifecycleCall) (session : Session (Audited β) ω) :
    (history calls session).Pairwise fun earlier later => ∀ cluster others,
      earlier.answer? = some cluster → later.answer? = some others → others = cluster := by
  apply history_pairwise fun record session =>
    ∀ cluster, record.answer? = some cluster → session.run.cluster? = some cluster
  · exact fun call session cluster hanswer => CallRecord.known_of_answer hanswer
  · exact fun record call session hknown cluster hanswer =>
      CallRecord.cluster_of_known (hknown cluster hanswer)
  · intro record call session hknown cluster others hanswer hagain
    have hsame : (CallRecord.of call session).after.run.cluster? = some cluster :=
      CallRecord.cluster_of_known (hknown cluster hanswer)
    rw [CallRecord.known_of_answer hagain] at hsame
    exact Option.some.inj hsame

/-- The changes wait for the blueprint to be prepared. -/
theorem generated_after_prepared (calls : List LifecycleCall) {session : Session (Audited β) ω}
    (h : session.run.state.rank < 3) :
    OnlyAfter CallRecord.GotPrepared (CallRecord.Attempted .generate) (history calls session) := by
  apply history_onlyAfter fun session => session.run.state.rank < 3
  · exact fun call session hearly => CallRecord.prepared_or_not hearly
  · rintro call session hearly ⟨succeeded, hmade⟩
    exact absurd hearly (Nat.not_lt.mpr (CallRecord.allows_of_made hmade).rank_of_generate)
  · exact h

variable (writes : NeverWrites β ω)

include writes

/-- Two calls never both begin to apply the changes. -/
theorem entered_once (calls : List LifecycleCall) (session : Session (Audited β) ω) :
    (history calls session).Pairwise fun earlier later => earlier.Entered → ¬later.Entered := by
  apply history_pairwise fun record session => record.Entered → 3 < session.run.state.rank
  · intro call session hentered
    obtain hstate | hstate := hentered.after <;> rw [hstate] <;> decide
  · intro record call session hrank hentered
    exact Nat.lt_of_lt_of_le (hrank hentered) (CallRecord.turn_of writes call session).rank_le
  · intro record call session hrank hentered hagain
    have hprepared : session.run.state = .prepared := hagain.before
    have hpassed := hrank hentered
    rw [hprepared] at hpassed
    exact absurd hpassed (by decide)

/-- The last word waits for all changes to be applied. -/
theorem postApplied_after_applied (calls : List LifecycleCall) {session : Session (Audited β) ω}
    (h : session.run.state ≠ .applied ∧ session.run.state ≠ .postApplied) :
    OnlyAfter CallRecord.AppliedAll (CallRecord.Attempted .postApply) (history calls session) := by
  apply history_onlyAfter fun session =>
    session.run.state ≠ .applied ∧ session.run.state ≠ .postApplied
  · exact fun call session hn => (CallRecord.turn_of writes call session).appliedAll_or_not hn
  · rintro call session hn ⟨succeeded, hmade⟩
    exact hn.1 (CallRecord.allows_of_made hmade)
  · exact h

/-- Options that were accepted are there as long as the run is. -/
theorem accepted_kept (calls : List LifecycleCall) (session : Session (Audited β) ω) :
    (history calls session).Pairwise fun earlier later =>
      earlier.Accepted → later.after.run.options = earlier.after.run.options := by
  apply history_pairwise fun record session => record.Accepted →
    2 ≤ session.run.state.rank ∧ session.run.options = record.after.run.options
  · intro call session haccepted
    refine ⟨?_, rfl⟩
    obtain ⟨options, hcall⟩ := haccepted.call
    have hturn := CallRecord.turn_of writes call session
    have hleads := hturn.leads_or_applied haccepted.succeeded (hcall ▸ nofun)
    obtain hleads | happlied := hleads
    · rw [hcall] at hleads
      rw [hleads.target_of_accept]
      decide
    · cases hcall.symm.trans happlied.call
  · intro record call session hkept haccepted
    obtain ⟨hrank, hoptions⟩ := hkept haccepted
    have hturn := CallRecord.turn_of writes call session
    exact ⟨Nat.le_trans hrank hturn.rank_le, (hturn.options_eq hrank).trans hoptions⟩
  · intro record call session hkept haccepted
    obtain ⟨hrank, hoptions⟩ := hkept haccepted
    exact ((CallRecord.turn_of writes call session).options_eq hrank).trans hoptions

/-- A call that ends the run closes it. -/
theorem closed_of_ended {call : LifecycleCall} {session : Session (Audited β) ω}
    (h : (CallRecord.of call session).Ended) :
    (CallRecord.of call session).after.run.state.Closed := by
  have hturn := CallRecord.turn_of writes call session
  obtain ⟨hcall, hsucceeded⟩ | ⟨hentered, hfailed⟩ := h
  · obtain hleads | happlied := hturn.leads_or_applied hsucceeded (hcall ▸ nofun)
    · rw [hcall] at hleads
      rw [hleads.target_of_abort]
      exact .aborted
    · cases hcall.symm.trans happlied.call
  · cases hturn with
    | stayed stays _ =>
      obtain hstate | hstate := hentered.after <;>
        cases hstate.symm.trans (stays.state.trans hentered.before)
    | moved succeeded _ _ _ => cases hfailed.symm.trans succeeded
    | applied all _ _ _ => cases hfailed.symm.trans all.succeeded
    | broken _ _ _ state _ => exact state ▸ .applying

/-- After the run has ended, its state and the host stay. -/
theorem ended_kept (calls : List LifecycleCall) (session : Session (Audited β) ω) :
    (history calls session).Pairwise fun earlier later => earlier.Ended →
      later.after.run.state = earlier.after.run.state ∧
        later.after.host = earlier.after.host := by
  have hstep : ∀ (record : CallRecord (Audited β) ω) (call : LifecycleCall)
      (session : Session (Audited β) ω), session.run.state.Closed ∧
        session.run.state = record.after.run.state ∧ session.host = record.after.host →
      (CallRecord.of call session).after.run.state = record.after.run.state ∧
        (CallRecord.of call session).after.host = record.after.host := by
    rintro record call session ⟨hclosed, hstate, hhost⟩
    have hstayed := (CallRecord.turn_of writes call session).stayed_of_closed hclosed
    exact ⟨hstayed.state.trans hstate, hstayed.host.trans hhost⟩
  apply history_pairwise fun record session => record.Ended → session.run.state.Closed ∧
    session.run.state = record.after.run.state ∧ session.host = record.after.host
  · exact fun call session hended => ⟨closed_of_ended writes hended, rfl, rfl⟩
  · intro record call session hkept hended
    have hclosed := (hkept hended).1
    rw [(hkept hended).2.1] at hclosed
    have hleft := hstep record call session (hkept hended)
    exact ⟨hleft.1 ▸ hclosed, hleft⟩
  · exact fun record call session hkept hended => hstep record call session (hkept hended)

end Keeping

section Holding

variable {β ω : Type} [Blueprint β ω] [FileHost ω]

/-- A new run of an audited blueprint. -/
def Session.audited (blueprint : β) (host : ω) : Session (Audited β) ω :=
  ⟨BlueprintRun.start ⟨blueprint, []⟩, host⟩

omit [Blueprint β ω] [FileHost ω] in
/-- A session that starts is sound. -/
theorem Session.sound_audited (blueprint : β) (host : ω) : (audited blueprint host).Sound where
  unprepared _ _ hattempt := absurd hattempt List.not_mem_nil
  ungenerated _ := List.not_mem_nil
  unfinished _ := List.not_mem_nil
  once := .nil

/-- All runs keep to the lifecycle. Of a blueprint that never writes itself, whether each of its
steps fails or succeeds, any calls made in any order leave records of a run that moves along the
lifecycle, changes nothing by a call that fails unless it had begun to apply the changes, asks the
blueprint in order and nothing again that succeeded, writes at most once, tells the same changes,
and keeps its accepted options and, after it has ended, its state and the host. The list of
attempts by which this is said changes nothing of the run itself. -/
theorem history_keeps_to_lifecycle (writes : NeverWrites β ω) (blueprint : β) (host : ω)
    (calls : List LifecycleCall) :
    (history calls (Session.audited blueprint host)).map CallRecord.plain =
        history calls ⟨BlueprintRun.start blueprint, host⟩ ∧
      LifecycleSafe (history calls (Session.audited blueprint host)) where
  left := history_plain calls _
  right := {
    moves := history_forall fun call session => (CallRecord.turn_of writes call session).moves
    failures := history_forall fun call session =>
      (CallRecord.turn_of writes call session).entered_or_stayed
    generates := generated_after_prepared calls (by decide : LifecycleState.created.rank < 3)
    postApplies := postApplied_after_applied writes calls ⟨nofun, nofun⟩
    asksOnce := (Session.sound_audited blueprint host).settles_history writes calls
    notes := history_forall fun _ _ => CallRecord.attempts_of
    writes := history_forall fun call session => (CallRecord.turn_of writes call session).host_eq
    writesOnce := entered_once writes calls _
    tellsSame := told_same calls _
    keepsOptions := accepted_kept writes calls _
    staysEnded := ended_kept writes calls _ }

end Holding

/-- A blueprint of one new file that fails to have its last word. -/
def tired : FixedBlueprint :=
  ⟨"tired", "", [], true, [.newFile ⟨"note"⟩ "Note"], none, none, some (.other "tired")⟩

/-- Calls out of turn, calls made again, and a last word that fails each time. -/
theorem tired_keeps_to_lifecycle :
    LifecycleSafe (history
      [.apply, .checkPrecondition true, .acceptOptions Options.empty, .prepare, .prepare, .cluster,
        .apply, .apply, .abort, .postApply, .postApply]
      (Session.audited tired (MemoryHost.withFiles []))) :=
  (history_keeps_to_lifecycle FixedBlueprint.neverWrites tired (MemoryHost.withFiles []) _).2

/-- A blueprint that fails to generate its changes. -/
def stubborn : FixedBlueprint :=
  ⟨"stubborn", "", [], true, [], none, some (.user "no changes today"), none⟩

/-- An apply that fails to generate the changes leaves a run that can still be given up, so a
failed apply alone does not end a run. -/
theorem abort_moves_on_after_failed_apply :
    NeverWrites FixedBlueprint MemoryHost ∧
      ¬(history [.checkPrecondition true, .acceptOptions Options.empty, .prepare, .apply, .abort]
        (⟨BlueprintRun.start stubborn, MemoryHost.withFiles []⟩ :
          Session FixedBlueprint MemoryHost)).Pairwise fun earlier later =>
        earlier.call = .apply ∧ earlier.succeeded = false →
          later.after.run.state = earlier.after.run.state ∧
            later.after.host = earlier.after.host := by
  refine ⟨FixedBlueprint.neverWrites, fun h => ?_⟩
  have happly := (List.pairwise_cons.mp h).2.tail.tail
  have hkept := (List.pairwise_cons.mp happly).1 _ List.mem_cons_self ⟨rfl, rfl⟩
  have hstate : LifecycleState.aborted = .prepared := hkept.1
  cases hstate

end Scaffold
