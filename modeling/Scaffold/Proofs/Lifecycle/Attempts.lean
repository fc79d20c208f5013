import Scaffold.Proofs.Lifecycle.History
import Scaffold.Proofs.Lifecycle.Turn

/-!
# Attempts at the steps of a blueprint

Which steps of its blueprint a run has attempted follows from where it stands: before it is
prepared only attempts to prepare that failed, no generated changes while none are known, and no
last word before the end. So a step that succeeded is never called again, in whatever order the
calls come.
-/

namespace Scaffold

/-- Two calls of the same step. -/
inductive BlueprintCall.SameStep : BlueprintCall → BlueprintCall → Prop
  | prepare {options others : Options} : SameStep (.prepare options) (.prepare others)
  | generate : SameStep .generate .generate
  | postApply : SameStep .postApply .postApply

/-- The states in which a run calls a step of its blueprint. -/
def LifecycleState.Allows (state : LifecycleState) : BlueprintCall → Prop
  | .availability _ => False
  | .prepare _ => state = .optionsGathered
  | .generate => state = .prepared ∨ state = .applying
  | .postApply => state = .applied

/-- Changes are generated in runs that are prepared. -/
theorem LifecycleState.Allows.rank_of_generate {state : LifecycleState}
    (h : state.Allows .generate) : 3 ≤ state.rank := by
  obtain rfl | rfl := h <;> decide

/-- After an attempt that succeeded comes no attempt at the same step. -/
def Attempt.Settles (earlier later : Attempt) : Prop :=
  earlier.succeeded = true → ¬earlier.call.SameStep later.call

/-- The attempts of a run agree with where it stands. -/
structure Session.Sound {β ω : Type} (session : Session (Audited β) ω) : Prop where
  /-- Before the run is prepared, attempts to prepare failed, and there were no others. -/
  unprepared : session.run.state.rank < 3 →
    ∀ attempt ∈ session.run.blueprint.attempts, ∃ options, attempt = ⟨.prepare options, false⟩
  /-- As long as no changes are known, none were generated. -/
  ungenerated : session.run.cluster? = none →
    ⟨.generate, true⟩ ∉ session.run.blueprint.attempts
  /-- The blueprint has its last word at the end. -/
  unfinished : session.run.state ≠ .postApplied →
    ⟨.postApply, true⟩ ∉ session.run.blueprint.attempts
  /-- No step was called again after it succeeded. -/
  once : session.run.blueprint.attempts.Pairwise Attempt.Settles

section Appending

variable {attempts : List Attempt} {attempt : Attempt}

/-- An attempt that is in no list before is not in it behind another one. -/
theorem not_mem_concat {other : Attempt} (h : other ∉ attempts) (hne : other ≠ attempt) :
    other ∉ attempts ++ [attempt] := by
  intro hmem
  obtain hold | hnew := List.mem_append.mp hmem
  · exact h hold
  · exact hne (List.mem_singleton.mp hnew)

/-- A step that never succeeded may be attempted again. -/
theorem settles_of_not_mem {call : BlueprintCall}
    (hsame : ∀ other : BlueprintCall, other.SameStep call → other = call)
    (h : ⟨call, true⟩ ∉ attempts) (succeeded : Bool) :
    ∀ earlier ∈ attempts, earlier.Settles ⟨call, succeeded⟩ := by
  rintro ⟨other, _⟩ hearlier rfl hother
  rw [hsame other hother] at hearlier
  exact h hearlier

end Appending

namespace CallRecord

variable {β ω : Type}

/-- The attempts a call made are those behind the ones that were made before. -/
theorem made_of_log {record : CallRecord (Audited β) ω} {attempts : List Attempt}
    (log : record.after.run.blueprint.attempts =
      record.before.run.blueprint.attempts ++ attempts) : record.made = attempts := by
  rw [made, log, List.drop_left]

variable [Blueprint β ω] [FileHost ω] {call : LifecycleCall} {session : Session (Audited β) ω}

/-- No call takes back an attempt. -/
theorem exists_attempts : ∃ attempts, (of call session).after.run.blueprint.attempts =
    session.run.blueprint.attempts ++ attempts := by
  cases asks_of call session with
  | nothing log _ _ => exact ⟨[], log.trans (List.append_nil _).symm⟩
  | prepare _ log _ _ => exact ⟨_, log⟩
  | generate _ log _ _ => exact ⟨_, log⟩
  | postApply _ log _ _ => exact ⟨_, log⟩

/-- What a call attempts is put at the end of what was attempted before. -/
theorem attempts_of : (of call session).after.run.blueprint.attempts =
    session.run.blueprint.attempts ++ (of call session).made := by
  obtain ⟨attempts, hlog⟩ := @exists_attempts β ω _ _ call session
  rw [made_of_log hlog]
  exact hlog

/-- A call that leaves the attempts as they were made none. -/
theorem made_of_nothing (log : (of call session).after.run.blueprint.attempts =
    session.run.blueprint.attempts) : (of call session).made = [] :=
  made_of_log (log.trans (List.append_nil _).symm)

/-- A step of the blueprint is attempted only in the states for it. -/
theorem allows_of_made {attempt : Attempt} (h : attempt ∈ (of call session).made) :
    session.run.state.Allows attempt.call := by
  cases asks_of call session with
  | nothing log _ _ =>
    rw [made_of_nothing log] at h
    cases h
  | prepare gathered log _ _ =>
    rw [made_of_log log] at h
    rw [List.mem_singleton.mp h]
    exact gathered
  | generate ready log _ _ =>
    rw [made_of_log log] at h
    rw [List.mem_singleton.mp h]
    exact ready
  | postApply applied log _ _ =>
    rw [made_of_log log] at h
    rw [List.mem_singleton.mp h]
    exact applied

/-- Only an attempt to prepare that succeeds gets a run prepared. -/
theorem prepared_or_not (hearly : session.run.state.rank < 3) :
    (of call session).after.run.state.rank < 3 ∨
      ∃ options, ⟨.prepare options, true⟩ ∈ (of call session).made := by
  cases asks_of call session with
  | nothing _ _ state => exact .inl (state hearly)
  | @prepare options succeeded _ log _ state =>
    cases succeeded with
    | false =>
      rw [state]
      exact .inl (by decide)
    | true =>
      rw [made_of_log log]
      exact .inr ⟨options, List.mem_singleton_self _⟩
  | generate ready _ _ _ =>
    exact absurd hearly (Nat.not_lt.mpr (LifecycleState.Allows.rank_of_generate ready))
  | postApply applied _ _ _ =>
    rw [applied] at hearly
    exact absurd hearly (by decide)

/-- Changes that are known stay the same. -/
theorem cluster_of_known {cluster : ChangeCluster} (h : session.run.cluster? = some cluster) :
    (of call session).after.run.cluster? = some cluster := by
  cases asks_of call session with
  | nothing _ cluster? _ => exact cluster?.trans h
  | prepare _ _ cluster? _ => exact cluster?.trans h
  | generate _ _ unknown _ =>
    rw [unknown] at h
    cases h
  | postApply _ _ cluster? _ => exact cluster?.trans h

end CallRecord

namespace Session.Sound

variable {β ω : Type} {session after : Session (Audited β) ω}

/-- One more attempt agrees with the run after it if nothing speaks against it. -/
theorem of_concat (h : session.Sound) {attempt : Attempt}
    (log : after.run.blueprint.attempts = session.run.blueprint.attempts ++ [attempt])
    (unprepared : after.run.state.rank < 3 →
      session.run.state.rank < 3 ∧ ∃ options, attempt = ⟨.prepare options, false⟩)
    (ungenerated : after.run.cluster? = none →
      session.run.cluster? = none ∧ attempt ≠ ⟨.generate, true⟩)
    (unfinished : after.run.state ≠ .postApplied →
      session.run.state ≠ .postApplied ∧ attempt ≠ ⟨.postApply, true⟩)
    (once : ∀ earlier ∈ session.run.blueprint.attempts, earlier.Settles attempt) :
    after.Sound := by
  refine ⟨?_, ?_, ?_, ?_⟩ <;> rw [log]
  · intro hearly other hother
    obtain hold | hnew := List.mem_append.mp hother
    · exact h.unprepared (unprepared hearly).1 other hold
    · rw [List.mem_singleton.mp hnew]
      exact (unprepared hearly).2
  · intro hnone
    obtain ⟨hbefore, hne⟩ := ungenerated hnone
    exact not_mem_concat (h.ungenerated hbefore) hne.symm
  · intro hn
    obtain ⟨hbefore, hne⟩ := unfinished hn
    exact not_mem_concat (h.unfinished hbefore) hne.symm
  · refine List.pairwise_append.mpr ⟨h.once, List.pairwise_singleton _ _, ?_⟩
    intro earlier hearlier later hlater
    rw [List.mem_singleton.mp hlater]
    exact once earlier hearlier

/-- Asking the blueprint keeps the attempts in agreement with the run, if the run only goes on
and has come to its end before it stays there. -/
theorem of_asks (h : session.Sound) (asks : Asks session after)
    (hrank : session.run.state.rank ≤ after.run.state.rank)
    (hend : session.run.state = .postApplied → after.run.state = .postApplied) :
    after.Sound := by
  have hbefore : after.run.state ≠ .postApplied → session.run.state ≠ .postApplied :=
    fun hn hs => hn (hend hs)
  have hearly : after.run.state.rank < 3 → session.run.state.rank < 3 :=
    fun hafter => Nat.lt_of_le_of_lt hrank hafter
  cases asks with
  | nothing log cluster? _ =>
    refine ⟨?_, ?_, ?_, ?_⟩ <;> rw [log]
    · exact fun hafter => h.unprepared (hearly hafter)
    · exact fun hnone => h.ungenerated (cluster?.symm.trans hnone)
    · exact fun hn => h.unfinished (hbefore hn)
    · exact h.once
  | @prepare options succeeded gathered log cluster? state =>
    have hgathered : session.run.state.rank < 3 := by
      rw [gathered]
      decide
    refine h.of_concat log ?_ (fun hnone => ⟨cluster?.symm.trans hnone, nofun⟩)
      (fun hn => ⟨hbefore hn, nofun⟩) ?_
    · intro hafter
      cases succeeded with
      | false => exact ⟨hgathered, options, rfl⟩
      | true =>
        rw [state] at hafter
        exact absurd hafter (by decide)
    · intro earlier hearlier hsucceeded
      obtain ⟨_, rfl⟩ := h.unprepared hgathered earlier hearlier
      cases hsucceeded
  | @generate succeeded ready log unknown known =>
    have hready := LifecycleState.Allows.rank_of_generate ready
    refine h.of_concat log (fun hafter => absurd (hearly hafter) (Nat.not_lt.mpr hready)) ?_
      (fun hn => ⟨hbefore hn, nofun⟩) (settles_of_not_mem ?_ (h.ungenerated unknown) succeeded)
    · intro hnone
      refine ⟨unknown, fun heq => ?_⟩
      rw [hnone] at known
      cases heq
      cases known
    · intro other hother
      cases hother
      rfl
  | @postApply succeeded applied log cluster? state =>
    have hn : session.run.state ≠ .postApplied := by
      rw [applied]
      exact nofun
    refine h.of_concat log ?_ (fun hnone => ⟨cluster?.symm.trans hnone, nofun⟩) ?_
      (settles_of_not_mem ?_ (h.unfinished hn) succeeded)
    · intro hafter
      have happlied := hearly hafter
      rw [applied] at happlied
      exact absurd happlied (by decide)
    · intro hleft
      refine ⟨hn, fun heq => ?_⟩
      cases heq
      exact hleft state
    · intro other hother
      cases hother
      rfl

variable [Blueprint β ω] [FileHost ω]

/-- Every call keeps the attempts in agreement with the run. -/
theorem of_call (writes : NeverWrites β ω) (call : LifecycleCall) (h : session.Sound) :
    (CallRecord.of call session).after.Sound := by
  have hturn := CallRecord.turn_of writes call session
  refine h.of_asks (CallRecord.asks_of call session) hturn.rank_le fun hend => ?_
  have hclosed : session.run.state.Closed := by
    rw [hend]
    exact .postApplied
  exact (hturn.stayed_of_closed hclosed).state.trans hend

/-- Over all calls made to a run, a step that succeeded is not attempted again. -/
theorem settles_history (writes : NeverWrites β ω) (calls : List LifecycleCall)
    (h : session.Sound) :
    (session.run.blueprint.attempts ++
      (history calls session).flatMap CallRecord.made).Pairwise Attempt.Settles := by
  induction calls generalizing session with
  | nil =>
    rw [history, List.flatMap_nil, List.append_nil]
    exact h.once
  | cons call rest ih =>
    have hrest := ih (h.of_call writes call)
    rw [CallRecord.attempts_of, List.append_assoc] at hrest
    exact hrest

end Session.Sound

end Scaffold
