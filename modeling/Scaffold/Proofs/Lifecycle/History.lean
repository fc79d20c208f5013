import Scaffold.Proofs.Lifecycle.Plain
import Scaffold.Proofs.Lifecycle.Record

/-!
# Histories of a run

Calls made to one run, one after the other and in any order, leave a list of records. What holds
of all records, of all pairs of an earlier and a later one, or only after some other record, is
shown by induction on the calls from what one call does.
-/

namespace Scaffold

variable {β ω : Type} [Blueprint β ω] [FileHost ω]

/-- The records of calls made one after the other. -/
def history : List LifecycleCall → Session β ω → List (CallRecord β ω)
  | [], _ => []
  | call :: rest, session =>
    CallRecord.of call session :: history rest (CallRecord.of call session).after

/-- A record of the second kind comes only after a record of the first kind. -/
def OnlyAfter {α : Type} (first second : α → Prop) (records : List α) : Prop :=
  ∀ earlier record later, records = earlier ++ record :: later → second record →
    ∃ cause ∈ earlier, first cause

section Running

variable {calls : List LifecycleCall} {session : Session β ω}

/-- What every call shows, all records show. -/
theorem history_forall {shows : CallRecord β ω → Prop}
    (h : ∀ call session, shows (CallRecord.of call session)) :
    ∀ record ∈ history calls session, shows record := by
  induction calls generalizing session with
  | nil => exact fun _ hr => absurd hr List.not_mem_nil
  | cons call rest ih =>
    intro record hr
    obtain rfl | hr := List.mem_cons.mp hr
    · exact h call session
    · exact ih record hr

/-- What holds after a record and is kept by every call holds before each later record. -/
theorem history_pairwise (holds : CallRecord β ω → Session β ω → Prop)
    {related : CallRecord β ω → CallRecord β ω → Prop}
    (start : ∀ call session,
      holds (CallRecord.of call session) (CallRecord.of call session).after)
    (step : ∀ record call session, holds record session →
      holds record (CallRecord.of call session).after)
    (use : ∀ record call session, holds record session →
      related record (CallRecord.of call session)) :
    (history calls session).Pairwise related := by
  have hlater : ∀ record calls session, holds record session →
      ∀ later ∈ history calls session, related record later := by
    intro record calls
    induction calls with
    | nil => exact fun _ _ _ hl => absurd hl List.not_mem_nil
    | cons call rest ih =>
      intro session hholds later hl
      obtain rfl | hl := List.mem_cons.mp hl
      · exact use record call session hholds
      · exact ih _ (step record call session hholds) later hl
  induction calls generalizing session with
  | nil => exact .nil
  | cons call rest ih => exact .cons (hlater _ rest _ (start call session)) ih

/-- As long as the first kind of record has not come, the run is not ready for the second one. -/
theorem history_onlyAfter (unready : Session β ω → Prop) {first second : CallRecord β ω → Prop}
    (step : ∀ call session, unready session → unready (CallRecord.of call session).after ∨
      first (CallRecord.of call session))
    (refuse : ∀ call session, unready session → ¬second (CallRecord.of call session))
    (start : unready session) : OnlyAfter first second (history calls session) := by
  induction calls generalizing session with
  | nil =>
    intro earlier record later heq
    exact absurd heq.symm (List.append_ne_nil_of_right_ne_nil _ (List.cons_ne_nil _ _))
  | cons call rest ih =>
    intro earlier record later heq hsecond
    cases earlier with
    | nil =>
      obtain ⟨rfl, _⟩ := List.cons.inj heq
      exact absurd hsecond (refuse call session start)
    | cons head earlier =>
      obtain ⟨rfl, hrest⟩ := List.cons.inj heq
      obtain hunready | hfirst := step call session start
      · obtain ⟨cause, hcause, hholds⟩ := ih hunready earlier record later hrest hsecond
        exact ⟨cause, List.mem_cons_of_mem _ hcause, hholds⟩
      · exact ⟨_, List.mem_cons_self, hfirst⟩

end Running

namespace CallRecord

/-- The record without the list of attempts. -/
def plain (record : CallRecord (Audited β) ω) : CallRecord β ω :=
  ⟨record.call, record.before.plain, Task.seen Session.plain record.result⟩

omit [Blueprint β ω] [FileHost ω] in
/-- What a call leaves can be seen without the attempts. -/
theorem after_plain (record : CallRecord (Audited β) ω) :
    record.plain.after = record.after.plain := by
  obtain ⟨call, before, result⟩ := record
  cases result <;> rfl

end CallRecord

/-- A call to an audited run is the call to the run itself. -/
theorem LifecycleCall.mirrors_task (call : LifecycleCall) :
    Task.Mirrors (Session.plain : Session (Audited β) ω → Session β ω) call.task call.task := by
  cases call with
  | checkPrecondition active => exact Task.mirrors_map _ (Session.mirrors_checkPrecondition active)
  | acceptOptions options => exact Task.mirrors_map _ (Session.mirrors_acceptOptions options)
  | prepare => exact Task.mirrors_map _ Session.mirrors_prepare
  | cluster => exact Task.mirrors_map _ Session.mirrors_cluster
  | abort => exact Task.mirrors_map _ (Session.mirrors_move _ _)
  | apply => exact Task.mirrors_map _ Session.mirrors_apply
  | postApply => exact Task.mirrors_map _ Session.mirrors_postApply

/-- Auditing changes no record. -/
theorem history_plain (calls : List LifecycleCall) (session : Session (Audited β) ω) :
    (history calls session).map CallRecord.plain = history calls session.plain := by
  induction calls generalizing session with
  | nil => rfl
  | cons call rest ih =>
    have hrecord : (CallRecord.of call session).plain = CallRecord.of call session.plain :=
      congrArg (CallRecord.mk call session.plain) (call.mirrors_task session)
    rw [history, history, List.map_cons, ih, ← CallRecord.after_plain, hrecord]

end Scaffold
