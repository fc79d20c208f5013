import Scaffold.Blueprint.Fixed
import Scaffold.Proofs.Change.Leaves
import Scaffold.Proofs.Cluster.Partition
import Scaffold.Proofs.Lifecycle.Attempts

/-!
# What a failed apply leaves behind

Applying a plan in memory first creates the files that it names and then performs the edits of its
changes one by one. There is no way back: where a change cannot be applied, the files created and
the edits before it remain, the run stays in the applying of its changes, and no later call gets
it out of there.
-/

namespace Scaffold

section Creating

/-- The files that were absent are created empty, and noted in the journal in their order. -/
structure Creates (files : List Path) (host created : MemoryHost) : Prop where
  /-- The absent files are noted. -/
  journal : created.journal = host.journal ++ files.filter fun file => (host.content? file).isNone
  /-- The absent files are empty, and all others as they were. -/
  content? : ∀ path, created.content? path =
    if (∃ file ∈ files, file.same path = true) ∧ host.content? path = none then some ""
    else host.content? path

variable {host created : MemoryHost} {path : Path}

/-- A file that is there is left as it is. -/
theorem MemoryHost.touch_of_some {content : String} (h : host.content? path = some content) :
    host.touch path = host := by
  rw [touch, PathMap.contains_eq, ← content?_eq, h]
  rfl

/-- A file that is not there is created empty. -/
theorem MemoryHost.touch_of_none (h : host.content? path = none) :
    host.touch path = host.put path "" := by
  rw [touch, PathMap.contains_eq, ← content?_eq, h]
  rfl

/-- A file that is there stays. -/
theorem Creates.cons_of_some {files : List Path} {content : String}
    (h : Creates files host created) (present : host.content? path = some content) :
    Creates (path :: files) host created := by
  refine ⟨?_, fun other => ?_⟩
  · rw [h.journal, List.filter_cons_of_neg (by rw [present]; exact Bool.false_ne_true)]
  · rw [h.content? other]
    refine if_congr (and_congr_left fun habsent => ?_) rfl rfl
    have hother : path.same other ≠ true := by
      intro hsame
      rw [MemoryHost.content?, PathMap.find?_congr _ hsame, ← MemoryHost.content?, habsent]
        at present
      cases present
    simp [hother]

/-- An absent file is created before the others, which are other files. -/
theorem Creates.cons_of_none {files : List Path} (h : Creates files (host.put path "") created)
    (absent : host.content? path = none) (apart : ∀ file ∈ files, path.same file = false) :
    Creates (path :: files) host created := by
  refine ⟨?_, fun other => ?_⟩
  · have hothers : files.filter (fun file => ((host.put path "").content? file).isNone) =
        files.filter fun file => (host.content? file).isNone := by
      refine List.filter_congr fun file hfile => ?_
      rw [MemoryHost.content?_put, apart file hfile]
      rfl
    rw [h.journal, hothers, List.filter_cons_of_pos (by rw [absent]; rfl)]
    exact List.append_assoc _ [path] _
  · rw [h.content? other, MemoryHost.content?_put]
    cases hsame : path.same other with
    | true =>
      have hother : host.content? other = none := by
        rw [← absent]
        exact (PathMap.find?_congr _ hsame).symm
      simp [hother, hsame]
    | false => simp [hsame]

/-- Distinct files are created if they are absent. -/
theorem Session.creates_ensureFiles {files : List Path}
    (apart : files.Pairwise fun first second => first.same second = false) (host : MemoryHost) :
    ∃ created, Creates files host created ∧ ensureFiles files host = .ok () created := by
  induction files generalizing host with
  | nil => exact ⟨host, ⟨(List.append_nil _).symm, by simp⟩, rfl⟩
  | cons path rest ih =>
    obtain ⟨hpath, hrest⟩ := List.pairwise_cons.mp apart
    obtain ⟨created, hcreated, hensure⟩ := ih hrest (host.touch path)
    refine ⟨created, ?_, hensure⟩
    cases hpresent : host.content? path with
    | some content =>
      rw [MemoryHost.touch_of_some hpresent] at hcreated
      exact hcreated.cons_of_some hpresent
    | none =>
      rw [MemoryHost.touch_of_none hpresent] at hcreated
      exact hcreated.cons_of_none hpresent hpath

end Creating

namespace Change

/-- The edits among the leaves of changes, in the order in which they are applied. -/
def fileEditsOfAll (changes : List Change) : List FileEdit := changes.flatMap fileEdits

/-- What comes of changes one after the other on a host, and which edits are performed. -/
inductive PlanCourse (changes : List Change) (host : MemoryHost) :
    List FileEdit → EStateM.Result ChangeError MemoryHost Unit → Prop
  /-- All edits are performed. -/
  | done {left : MemoryHost} (accepted : ∀ change ∈ changes, change.Accepted)
      (performed : Performed (fileEditsOfAll changes) host left) :
      PlanCourse changes host (fileEditsOfAll changes) (.ok () left)
  /-- A bundle is refused, and all edits before it are performed. -/
  | refused {front back : List Change} {change : Change} {owner child : Path} {left : MemoryHost}
      (parts : changes = front ++ change :: back) (accepted : ∀ other ∈ front, other.Accepted)
      (performed : Performed (fileEditsOfAll front) host left)
      (refuses : change.Refuses owner child) :
      PlanCourse changes host (fileEditsOfAll front) (.error (.foreignPath owner child) left)
  /-- An edit does not fit what the edits before it, which are performed, left of its file. -/
  | stuck {front back : List Change} {change : Change} {before after : List FileEdit}
      {next : FileEdit} {left : MemoryHost} {error : ChangeError}
      (parts : changes = front ++ change :: back) (accepted : ∀ other ∈ front, other.Accepted)
      (own : change.Accepted) (edits : change.fileEdits = before ++ next :: after)
      (performed : Performed (fileEditsOfAll front ++ before) host left)
      (misfits : next.edit.Misfits next.path (left.text next.path) error) :
      PlanCourse changes host (fileEditsOfAll front ++ before) (.error error left)

variable {change : Change} {changes : List Change} {host mid : MemoryHost} {edits : List FileEdit}
  {result : EStateM.Result ChangeError MemoryHost Unit}

/-- What comes of changes behind one whose edits are performed. -/
theorem PlanCourse.cons (own : change.Accepted) (first : Performed change.fileEdits host mid)
    (h : PlanCourse changes mid edits result) :
    PlanCourse (change :: changes) host (change.fileEdits ++ edits) result := by
  cases h with
  | done accepted performed =>
    exact .done (List.forall_mem_cons.mpr ⟨own, accepted⟩) (first.append performed)
  | @refused front back next owner child left parts accepted performed refuses =>
    have hparts : change :: changes = (change :: front) ++ next :: back :=
      congrArg (change :: ·) parts
    exact .refused hparts (List.forall_mem_cons.mpr ⟨own, accepted⟩) (first.append performed) refuses
  | @stuck front back next before after edit left error parts accepted mine cut performed misfits =>
    have hedits : change.fileEdits ++ (fileEditsOfAll front ++ before) =
        fileEditsOfAll (change :: front) ++ before := (List.append_assoc ..).symm
    have hperformed := first.append performed
    rw [hedits] at hperformed ⊢
    have hparts : change :: changes = (change :: front) ++ next :: back :=
      congrArg (change :: ·) parts
    exact .stuck hparts (List.forall_mem_cons.mpr ⟨own, accepted⟩) mine cut hperformed misfits

/-- Changes one after the other take their course. -/
theorem exists_planCourse_applyAll (changes : List Change) (host : MemoryHost) :
    ∃ edits, PlanCourse changes host edits (applyAll changes host) := by
  induction changes generalizing host with
  | nil => exact ⟨[], .done (List.forall_mem_nil _) .nil⟩
  | cons change rest ih =>
    have hcourse := change.course_apply host
    rw [applyAll, Task.bind_apply]
    generalize change.apply host = first at hcourse ⊢
    cases hcourse with
    | refused refuses =>
      exact ⟨[], .refused (List.nil_append _).symm (List.forall_mem_nil _) .nil refuses⟩
    | edited accepted edits =>
      cases edits with
      | done performed =>
        obtain ⟨edits, hrest⟩ := ih _
        exact ⟨change.fileEdits ++ edits, hrest.cons accepted performed⟩
      | @stuck before after next left error parts performed misfits =>
        exact ⟨before, .stuck (List.nil_append _).symm (List.forall_mem_nil _) accepted parts
          performed misfits⟩

section Journaling

variable {left : MemoryHost}

/-- Changes that succeed have their edits performed. -/
theorem PlanCourse.performed_of_ok (h : PlanCourse changes host edits (.ok () left)) :
    Performed edits host left := by
  cases h with
  | done _ performed => exact performed

/-- Changes that fail have the edits before the failure performed. -/
theorem PlanCourse.performed_of_error {error : ChangeError}
    (h : PlanCourse changes host edits (.error error left)) : Performed edits host left := by
  cases h with
  | refused _ _ performed _ => exact performed
  | stuck _ _ _ _ performed _ => exact performed

end Journaling

end Change

section Lingering

variable {β ω : Type} [Blueprint β ω] [FileHost ω] {session : Session (Audited β) ω}
  {cluster : ChangeCluster}

/-- A run that is stuck in the applying of its changes is left as it is by every call, and none
succeeds but that for the changes. -/
theorem CallRecord.stays_applying (applying : session.run.state = .applying)
    (known : session.run.cluster? = some cluster) (call : LifecycleCall) :
    (CallRecord.of call session).after = session ∧
      ((CallRecord.of call session).succeeded = true → call = .cluster) := by
  have hperforms := call.performs session
  unfold CallRecord.of
  generalize call.task session = result at hperforms ⊢
  have hstate (state : LifecycleState) (hne : state ≠ .applying) : session.run.state ≠ state :=
    fun h => hne (h.symm.trans applying)
  cases hperforms with
  | refused => exact ⟨rfl, nofun⟩
  | told _ tells => exact ⟨(Session.eq_of_tells known tells).2, fun _ => rfl⟩
  | reapplied _ tells => exact ⟨(Session.eq_of_tells known tells).2, nofun⟩
  | untold _ _ tells =>
    cases tells with
    | failed unknown _ =>
      rw [known] at unknown
      cases unknown
  | checked h => exact absurd h (hstate _ nofun)
  | accepted h _ => exact absurd h (hstate _ nofun)
  | prepared h _ => exact absurd h (hstate _ nofun)
  | unprepared h _ => exact absurd h (hstate _ nofun)
  | aborted h => exact absurd h (hstate _ nofun)
  | applied h _ _ => exact absurd h (hstate _ nofun)
  | broken h _ _ => exact absurd h (hstate _ nofun)
  | postApplied h _ => exact absurd h (hstate _ nofun)
  | unpostApplied h _ => exact absurd h (hstate _ nofun)

/-- No calls get a run out of the applying of its changes in which it is stuck, write anything or
ask the blueprint anything. -/
theorem history_stays_applying (applying : session.run.state = .applying)
    (known : session.run.cluster? = some cluster) (calls : List LifecycleCall) :
    ∀ record ∈ history calls session, record.before = session ∧ record.after = session ∧
      record.made = [] ∧ (record.succeeded = true → record.call = .cluster) := by
  induction calls with
  | nil => exact List.forall_mem_nil _
  | cons call rest ih =>
    obtain ⟨hafter, honly⟩ := CallRecord.stays_applying applying known call
    rw [history, hafter]
    refine List.forall_mem_cons.mpr ⟨⟨rfl, hafter, ?_, honly⟩, ih⟩
    exact CallRecord.made_of_nothing (by rw [hafter])

end Lingering

/-- What comes of applying the changes of a run whose changes are known. -/
inductive ApplyCourse {β : Type} [Blueprint β MemoryHost]
    (known : Session (Audited β) MemoryHost) (cluster : ChangeCluster) :
    EStateM.Result BlueprintError (Session (Audited β) MemoryHost) Unit → Prop
  /-- The absent files are created and all edits are performed. -/
  | done {created left : MemoryHost} {edits : List FileEdit}
      (creates : Creates cluster.files known.host created)
      (course : Change.PlanCourse cluster.changes created edits (.ok () left))
      (journal : left.journal = known.host.journal ++
        (cluster.files.filter fun file => (known.host.content? file).isNone) ++
          edits.map FileEdit.path) :
      ApplyCourse known cluster (.ok () ((known.withHost left).withState .applied))
  /-- The absent files are created, and the edits before the first change or edit that fails are
  performed. That is where the run stays. -/
  | stuck {created left : MemoryHost} {edits : List FileEdit} {error : ChangeError}
      (creates : Creates cluster.files known.host created)
      (course : Change.PlanCourse cluster.changes created edits (.error error left))
      (journal : left.journal = known.host.journal ++
        (cluster.files.filter fun file => (known.host.content? file).isNone) ++
          edits.map FileEdit.path)
      (lingers : ∀ calls, ∀ record ∈ history calls ((known.withHost left).withState .applying),
        record.before = (known.withHost left).withState .applying ∧
          record.after = (known.withHost left).withState .applying ∧ record.made = [] ∧
            (record.succeeded = true → record.call = .cluster)) :
      ApplyCourse known cluster
        (.error (.change error) ((known.withHost left).withState .applying))

section Remaining

variable {β : Type} [Blueprint β MemoryHost] {session known : Session (Audited β) MemoryHost}
  {generated : List Change}

/-- The journal tells the files that were created and then the edits that were performed. -/
theorem Creates.journal_performed {files : List Path} {host created left : MemoryHost}
    {edits : List FileEdit} (h : Creates files host created) (performed : Performed edits created left) :
    left.journal = host.journal ++ (files.filter fun file => (host.content? file).isNone) ++
      edits.map FileEdit.path := by
  rw [performed.journal, h.journal]

/-- Applying the changes of a prepared run in memory creates the absent files of its plan, in the
order of the files, and then performs the edits of the changes in the order of the plan. If a
bundle is refused or an edit does not fit what the edits before it left of its file, then the files
and all edits before that point remain, in the host and in the journal, the error tells the failure,
and the run stays in the applying of its changes: whatever it is told, it changes nothing any more
and asks its blueprint nothing, and only its changes can still be told. Otherwise all edits are
performed, and the run is applied. -/
theorem Session.apply_remains (prepared : session.run.state = .prepared)
    (told : Session.cluster session = .ok (ChangeCluster.ofChanges generated) known) :
    ApplyCourse known (ChangeCluster.ofChanges generated) (Session.apply session) := by
  obtain ⟨-, hstate, hknown⟩ := knows_of_cluster told
  obtain ⟨created, hcreates, hensure⟩ :=
    creates_ensureFiles (ChangeCluster.files_ofChanges_pairwise generated) known.host
  obtain ⟨edits, hcourse⟩ := Change.exists_planCourse_applyAll
    (ChangeCluster.ofChanges generated).changes created
  have happly : applyCluster (ChangeCluster.ofChanges generated) known.host =
      Change.applyAll (ChangeCluster.ofChanges generated).changes created :=
    Task.bind_of_ok hensure
  rw [apply_of_prepared (hstate.trans prepared) hknown told, happly]
  cases hresult : Change.applyAll (ChangeCluster.ofChanges generated).changes created with
  | ok _ left =>
    rw [hresult] at hcourse
    exact .done hcreates hcourse (hcreates.journal_performed hcourse.performed_of_ok)
  | error error left =>
    rw [hresult] at hcourse
    refine .stuck hcreates hcourse (hcreates.journal_performed hcourse.performed_of_error) ?_
    exact history_stays_applying rfl hknown

/-- A run of two insertions, of which the one that comes first fits and the other one lies past the
end of a new file. -/
def halting : Session (Audited FixedBlueprint) MemoryHost :=
  ⟨⟨⟨⟨"halting", "", [], true, [.ready (.insert ⟨"new"⟩ 1 "x"), .ready (.insert ⟨"old"⟩ 2 "!")], none,
    none, none⟩, []⟩, .prepared, Options.empty, none⟩, MemoryHost.withFiles [(⟨"old"⟩, "ok")]⟩

/-- A plan whose first edit fails, beside a file that is there and one that is not. -/
theorem halting_remains : halting.run.state = .prepared ∧
    ∃ known, Session.cluster halting = .ok
        (ChangeCluster.ofChanges [.insert ⟨"new"⟩ 1 "x", .insert ⟨"old"⟩ 2 "!"]) known ∧
      ApplyCourse known
        (ChangeCluster.ofChanges [.insert ⟨"new"⟩ 1 "x", .insert ⟨"old"⟩ 2 "!"])
        (Session.apply halting) :=
  ⟨rfl, _, rfl, Session.apply_remains rfl rfl⟩

end Remaining

end Scaffold
