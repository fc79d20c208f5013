import Mathlib.Logic.Relation
import Scaffold.Proofs.Lifecycle.Record

/-!
# Turns of a run

The states of a run in the order in which they follow each other, and what each turn shows of
them. A call moves the run along these states, changes nothing when it fails or when the run is
closed, and writes only while it applies the changes.
-/

namespace Scaffold

/-- The states that follow each other in a run. -/
inductive LifecycleState.Next : LifecycleState → LifecycleState → Prop
  | checked : Next .created .preconditionChecked
  | gathered : Next .preconditionChecked .optionsGathered
  | prepared : Next .optionsGathered .prepared
  | aborted : Next .prepared .aborted
  | applying : Next .prepared .applying
  | applied : Next .applying .applied
  | postApplied : Next .applied .postApplied

/-- The states in which no call does anything. -/
inductive LifecycleState.Closed : LifecycleState → Prop
  | aborted : Closed .aborted
  | applying : Closed .applying
  | postApplied : Closed .postApplied

/-- A call leads to a state that may come next. -/
theorem LifecycleCall.Leads.next {call : LifecycleCall} {source target : LifecycleState}
    (h : call.Leads source target) : source.Next target := by
  cases h with
  | checked => exact .checked
  | accepted => exact .gathered
  | prepared => exact .prepared
  | aborted => exact .aborted
  | postApplied => exact .postApplied

theorem LifecycleCall.Leads.target_of_accept {options : Options} {source target : LifecycleState}
    (h : Leads (.acceptOptions options) source target) : target = .optionsGathered := by
  cases h
  rfl

theorem LifecycleCall.Leads.target_of_abort {source target : LifecycleState}
    (h : Leads .abort source target) : target = .aborted := by
  cases h
  rfl

/-- States only ever come later. -/
theorem LifecycleState.Next.rank_lt {source target : LifecycleState} (h : source.Next target) :
    source.rank < target.rank := by
  cases h <;> decide

/-- No call leads out of a closed state. -/
theorem LifecycleCall.Leads.not_closed {call : LifecycleCall} {source target : LifecycleState}
    (h : call.Leads source target) : ¬source.Closed := by
  intro hclosed
  cases h <;> cases hclosed

namespace CallRecord.Turn

variable {β ω : Type} [FileHost ω] {record : CallRecord β ω}

theorem rank_le (h : record.Turn) :
    record.before.run.state.rank ≤ record.after.run.state.rank := by
  cases h with
  | stayed stays _ => exact Nat.le_of_eq (congrArg LifecycleState.rank stays.state.symm)
  | moved _ leads _ _ => exact Nat.le_of_lt leads.next.rank_lt
  | applied _ prepared state _ =>
    rw [prepared, state]
    decide
  | broken _ _ prepared state _ =>
    rw [prepared, state]
    decide

/-- A call goes along the states of the lifecycle. -/
theorem moves (h : record.Turn) : Relation.ReflTransGen LifecycleState.Next
    record.before.run.state record.after.run.state := by
  cases h with
  | stayed stays _ =>
    rw [stays.state]
  | moved _ leads _ _ => exact .single leads.next
  | applied _ prepared state _ =>
    rw [prepared, state]
    exact .tail (.single .applying) .applied
  | broken _ _ prepared state _ =>
    rw [prepared, state]
    exact .single .applying

/-- A call that fails changes nothing, unless it had begun to apply the changes. -/
theorem entered_or_stayed (h : record.Turn) (failed : record.succeeded = false) :
    record.Entered ∨ record.Stayed := by
  cases h with
  | stayed stays _ => exact .inr stays
  | moved succeeded _ _ _ =>
    rw [failed] at succeeded
    cases succeeded
  | applied all _ _ _ =>
    have hsucceeded := all.succeeded
    rw [failed] at hsucceeded
    cases hsucceeded
  | broken call _ prepared state _ => exact .inl ⟨call, prepared, .inl state⟩

/-- Only a call that begins to apply the changes writes. -/
theorem host_eq (h : record.Turn) (hn : ¬record.Entered) :
    record.after.host = record.before.host := by
  cases h with
  | stayed stays _ => exact stays.host
  | moved _ _ _ host => exact host
  | applied all prepared state _ => exact absurd ⟨all.call, prepared, .inr state⟩ hn
  | broken call _ prepared state _ => exact absurd ⟨call, prepared, .inl state⟩ hn

/-- In a closed state nothing changes any more. -/
theorem stayed_of_closed (h : record.Turn) (closed : record.before.run.state.Closed) :
    record.Stayed := by
  cases h with
  | stayed stays _ => exact stays
  | moved _ leads _ _ => exact absurd closed leads.not_closed
  | applied _ prepared _ _ =>
    rw [prepared] at closed
    cases closed
  | broken _ _ prepared _ _ =>
    rw [prepared] at closed
    cases closed

/-- Options that were accepted are kept. -/
theorem options_eq (h : record.Turn) (accepted : 2 ≤ record.before.run.state.rank) :
    record.after.run.options = record.before.run.options := by
  cases h with
  | stayed stays _ => exact stays.options
  | moved _ _ options _ =>
    refine options.resolve_left fun hchecked => ?_
    rw [hchecked] at accepted
    exact absurd accepted (by decide)
  | applied _ _ _ options => exact options
  | broken _ _ _ _ options => exact options

/-- A call that succeeds and does not only tell the changes leads on or applies all of them. -/
theorem leads_or_applied (h : record.Turn) (succeeded : record.succeeded = true)
    (hn : record.call ≠ .cluster) :
    record.call.Leads record.before.run.state record.after.run.state ∨ record.AppliedAll := by
  cases h with
  | stayed _ tells => exact absurd (tells succeeded) hn
  | moved _ leads _ _ => exact .inl leads
  | applied all _ _ _ => exact .inr all
  | broken _ failed _ _ _ =>
    rw [succeeded] at failed
    cases failed

/-- The changes are applied when the run reaches the state for that, and not before. -/
theorem appliedAll_or_not (h : record.Turn)
    (hn : record.before.run.state ≠ .applied ∧ record.before.run.state ≠ .postApplied) :
    (record.after.run.state ≠ .applied ∧ record.after.run.state ≠ .postApplied) ∨
      record.AppliedAll := by
  cases h with
  | stayed stays _ =>
    rw [stays.state]
    exact .inl hn
  | moved _ leads _ _ =>
    refine .inl ?_
    generalize record.call = call, record.before.run.state = source,
      record.after.run.state = target at leads hn
    cases leads with
    | postApplied => exact absurd rfl hn.1
    | _ => exact ⟨nofun, nofun⟩
  | applied all _ _ _ => exact .inr all
  | broken _ _ _ state _ =>
    rw [state]
    exact .inl ⟨nofun, nofun⟩

end CallRecord.Turn

end Scaffold
