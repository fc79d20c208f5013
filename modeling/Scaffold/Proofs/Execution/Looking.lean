import Scaffold.Proofs.Execution.Script

/-!
# Looking at files before the decision

A user may look at what happens to files before the plan is applied or given up. As long as the
files can be shown, an execution in which the user looks does what it does without: the looks
leave the session as it is, and the user only remembers more. If all changes get applied, every
file can be shown.
-/

namespace Scaffold

/-- The first preview and the others are made of the same host. -/
theorem FileDiff.preview_of_previewEach_cons {ω : Type} [FileHost ω] [QuietReads ω]
    {cluster : ChangeCluster} {path : Path} {rest : List Path} {host : ω} {diffs : List FileDiff}
    (h : previewEach cluster (path :: rest) host = .ok diffs host) :
    ∃ diff others, diffs = diff :: others ∧ preview cluster path host = .ok diff host ∧
      previewEach cluster rest host = .ok others host := by
  have hsame := after_preview cluster path host
  cases hp : preview cluster path host with
  | error error stuck =>
    rw [previewEach, Task.bind_of_error hp] at h
    cases h
  | ok diff left =>
    rw [previewEach_cons_of_ok hp] at h
    rw [Task.after_of_ok hp] at hsame
    cases hr : previewEach cluster rest host with
    | error error stuck =>
      rw [Task.map_of_error _ hr] at h
      cases h
    | ok others last =>
      rw [Task.map_of_ok _ hr] at h
      cases h
      exact ⟨diff, others, rfl, congrArg _ hsame, rfl⟩

namespace Execution

variable {β ω : Type}

section Looks

variable [FileHost ω] {cluster : ChangeCluster} {summary : Summary}

/-- A decision that is no look ends the question, whatever the patience. -/
theorem decide_of_settled {execution : Execution β ω Scripted}
    (settled : ∀ path, execution.user.next ≠ .reveal path) (patience : Nat) :
    decide cluster summary patience execution =
      .ok (execution.user.next == .apply) (execution.having summary) := by
  have hconfirm : (onUser (Interaction.confirm summary) :
      Task BlueprintError (Execution β ω Scripted) Decision) execution =
        .ok execution.user.next (execution.having summary) := by
    rw [onUser, Scripted.confirm_apply]
    rfl
  cases patience with
  | zero => exact Task.bind_of_ok hconfirm
  | succ patience =>
    rw [decide, Task.bind_of_ok hconfirm]
    cases hn : execution.user.next with
    | apply => rfl
    | cancel => rfl
    | reveal path => exact absurd hn (settled path)

/-- A file that can be shown is shown, and the session stays as it is. -/
theorem reveal_of_ok {path : Path} {diff : FileDiff} {execution : Execution β ω Scripted}
    (shown : FileDiff.preview cluster path execution.session.host =
      .ok diff execution.session.host) :
    reveal cluster path execution = .ok () (execution.alongside [] [] [diff]) := by
  have hdiff : (onSession (Session.onHost (FileDiff.preview cluster path)) :
      Task BlueprintError (Execution β ω Scripted) FileDiff) execution = .ok diff execution := by
    rw [onSession, Session.onHost_of_ok shown]
    rfl
  rw [reveal, Task.bind_of_ok hdiff, alongside, Scripted.alongside, List.append_nil]
  rfl

/-- Looks at files that can be shown leave the question with its answer and the session; the user
remembers one more plan and the diff for each of them. -/
theorem decide_of_looks [QuietReads ω] {looks : List Path} {diffs : List FileDiff}
    {execution : Execution β ω Scripted}
    (shown : FileDiff.previewEach cluster looks execution.session.host =
      .ok diffs execution.session.host)
    (settled : ∀ path, execution.user.next ≠ .reveal path) (patience : Nat) :
    decide cluster summary (looks.length + patience)
        (execution.alongside (looks.map .reveal) [] []) =
      Task.seen (alongside [] (List.replicate looks.length summary) diffs)
        (decide cluster summary patience execution) := by
  induction looks generalizing execution diffs with
  | nil =>
    cases shown
    rw [List.length_nil, Nat.zero_add, List.map_nil, List.replicate_zero, alongside,
      Scripted.alongside_nil, decide_of_settled settled, Task.seen, alongside,
      Scripted.alongside_nil]
  | cons path rest ih =>
    obtain ⟨diff, others, rfl, hshown, hrest⟩ := FileDiff.preview_of_previewEach_cons shown
    -- Of the looks to come, the first one is taken, and the question is asked again.
    have hconfirm : (onUser (Interaction.confirm summary) :
        Task BlueprintError (Execution β ω Scripted) Decision)
          (execution.alongside ((path :: rest).map .reveal) [] []) =
        .ok (.reveal path) (execution.alongside (rest.map .reveal) [summary] []) := by
      rw [onUser, Scripted.confirm_apply]
      simp only [Scripted.having, Scripted.next, alongside, Scripted.alongside, List.append_nil]
      rfl
    have hreveal : reveal cluster path (execution.alongside (rest.map .reveal) [summary] []) =
        .ok () ((execution.alongside [] [summary] [diff]).alongside (rest.map .reveal) [] []) := by
      have hhost : FileDiff.preview cluster path
          (execution.alongside (rest.map .reveal) [summary] []).session.host =
            .ok diff execution.session.host := hshown
      rw [reveal_of_ok hhost]
      simp only [alongside, Scripted.alongside, List.append_nil, List.nil_append]
    have hlook : decide cluster summary ((path :: rest).length + patience)
        (execution.alongside ((path :: rest).map .reveal) [] []) =
          decide cluster summary (rest.length + patience)
            ((execution.alongside [] [summary] [diff]).alongside (rest.map .reveal) [] []) := by
      rw [List.length_cons, Nat.add_right_comm, decide, Task.bind_of_ok hconfirm]
      exact Task.bind_of_ok hreveal
    have hhost : FileDiff.previewEach cluster rest
        (execution.alongside [] [summary] [diff]).session.host =
          .ok others execution.session.host := hrest
    have hsettled : ∀ other, (execution.alongside [] [summary] [diff]).user.next ≠
        .reveal other := settled
    rw [hlook, ih hhost hsettled, decide_of_settled hsettled, decide_of_settled settled]
    simp only [Task.seen, alongside, Scripted.alongside, having, Scripted.having, Scripted.next,
      List.append_assoc, List.nil_append, List.length_cons, List.replicate_succ,
      List.cons_append]

variable [Blueprint β ω]

/-- The question about the plan is followed by what was decided. -/
theorem question_of_settled {execution : Execution β ω Scripted}
    (settled : ∀ path, execution.user.next ≠ .reveal path) :
    question cluster execution =
      settle (execution.user.next == .apply)
        (execution.having (Summary.ofCluster cluster execution.session.host)) :=
  Task.bind_of_ok (decide_of_settled settled _)

/-- Looks at files that can be shown do not matter to the question and what follows from it. -/
theorem question_of_looks [QuietReads ω] {looks : List Path} {diffs : List FileDiff}
    {execution : Execution β ω Scripted}
    (shown : FileDiff.previewEach cluster looks execution.session.host =
      .ok diffs execution.session.host)
    (settled : ∀ path, execution.user.next ≠ .reveal path) :
    question cluster (execution.alongside (looks.map .reveal) [] []) =
      Task.seen (alongside [] (List.replicate looks.length
          (Summary.ofCluster cluster execution.session.host)) diffs)
        (question cluster execution) := by
  have hdecide := @decide_of_looks β ω _ cluster
    (Summary.ofCluster cluster execution.session.host) _ looks diffs execution shown settled
    execution.user.decisions.length
  have hpatience : looks.length + execution.user.decisions.length =
      (looks.map Decision.reveal ++ execution.user.decisions).length := by
    rw [List.length_append, List.length_map]
  rw [decide_of_settled settled, hpatience] at hdecide
  rw [question_of_settled settled, alongside_settle]
  exact Task.bind_of_ok hdecide

end Looks

section Comparing

variable [Blueprint β ω] [FileHost ω] [QuietReads ω] {host : ω} {decisions : List Decision}

/-- An execution either fails before the changes are known, and then looks that were still to
come are all that differs, or it comes to the question; then files that can be shown are shown,
and that is all that differs. -/
theorem execute_of_looks (quiet : PlansQuietly β ω) (active : Bool) (options : Options)
    {execution : Execution β ω Scripted}
    (fresh : Watched (Session.Unplanned host) (decisions, [], []) execution)
    (settled : ∀ path, decisions.head? ≠ some (.reveal path)) (looks : List Path) :
    (Watched (Session.Unplanned host) (decisions, [], [])
        (Task.after (execute active false options) execution) ∧
      execute active false options (execution.alongside (looks.map .reveal) [] []) =
        Task.seen (alongside (looks.map .reveal) [] [])
          (execute active false options execution)) ∨
    ∃ changes : List Change,
      Watched (Session.Settled host (ChangeCluster.ofChanges changes))
        (decisions.tail, [Summary.ofCluster (ChangeCluster.ofChanges changes) host], [])
        (Task.after (execute active false options) execution) ∧
      ∀ diffs, FileDiff.previewEach (ChangeCluster.ofChanges changes) looks host =
          .ok diffs host →
        execute active false options (execution.alongside (looks.map .reveal) [] []) =
          Task.seen (alongside [] (List.replicate looks.length
              (Summary.ofCluster (ChangeCluster.ofChanges changes) host)) diffs)
            (execute active false options execution) := by
  have hmirrors : Task.Mirrors (alongside (looks.map .reveal) [] []) _ _ :=
    @alongside_plan β ω (looks.map .reveal) [] [] _ active options
  cases hp : plan active options execution with
  | error error left =>
    left
    have hleft := (ensures_plan quiet active options).of_error hp fresh
    rw [execute_of_unplanned (hmirrors.of_error hp), Task.after, execute_of_unplanned hp]
    exact ⟨watched_close Session.keeps_postApply_unplanned hleft,
      (alongside_close _ _ _ (Task.mirrors_throw _ error) left).symm⟩
  | ok cluster left =>
    right
    obtain ⟨hplanned, hrecord⟩ := (ensures_plan quiet active options).of_ok hp fresh
    obtain ⟨changes, rfl⟩ := hplanned.generated
    obtain rfl := hplanned.host
    obtain rfl := (Prod.mk.inj hrecord).1
    have hsettled := Scripted.next_ne_reveal settled
    have hplain : execute active false options execution =
        close (settle (left.user.next == .apply))
          (left.having (Summary.ofCluster (ChangeCluster.ofChanges changes) left.session.host)) :=
      (execute_of_planned hp).trans (close_congr (question_of_settled hsettled))
    refine ⟨changes, ?_, ?_⟩
    · rw [Task.after, hplain]
      apply watched_close Session.keeps_postApply_settled
      apply (ensures_settle _).after
      exact ⟨hplanned, Scripted.record_having hrecord⟩
    · intro diffs shown
      have hlooking : execute active false options (execution.alongside (looks.map .reveal) [] []) =
          close (settle (left.user.next == .apply))
            ((left.having (Summary.ofCluster (ChangeCluster.ofChanges changes)
              left.session.host)).alongside [] (List.replicate looks.length
                (Summary.ofCluster (ChangeCluster.ofChanges changes) left.session.host)) diffs) := by
        rw [execute_of_planned (hmirrors.of_ok hp)]
        apply close_congr
        rw [question_of_looks shown hsettled, question_of_settled hsettled, alongside_settle]
      rw [hlooking, hplain]
      exact (alongside_close _ _ _ (alongside_settle _ _ _ _) _).symm

/-- What a user was shown in an execution with looks at files: nothing if the changes did not
become known, and else the plan once more than it looked, and for each look a diff that depends on
the file only. -/
def Shown (host : ω) (looks : List Path) (execution : Execution β ω Scripted) : Prop :=
  match execution.session.run.cluster? with
  | none => execution.user.summaries = [] ∧ execution.user.diffs = []
  | some cluster =>
    execution.user.summaries =
        List.replicate (looks.length + 1) (Summary.ofCluster cluster host) ∧
      execution.user.diffs.map (·.path) = looks ∧
      ∀ first ∈ execution.user.diffs, ∀ second ∈ execution.user.diffs,
        first.path.same second.path = true →
          first.before = second.before ∧ first.after = second.after

/-- A scripted execution whose calls of the blueprint are recorded, before its first step. -/
def scripted (blueprint : β) (host : ω) (answers : Options) (decisions : List Decision) :
    Execution (Recorded β) ω Scripted :=
  start ⟨blueprint, []⟩ host (Scripted.start answers decisions)

variable [ContentHost ω] {changes : List Change} {looks : List Path} {diffs : List FileDiff}

/-- If a plan can be applied, every file can be shown, whether the plan names it or not. -/
theorem preview_of_applied
    (h : (Session.applyCluster (ChangeCluster.ofChanges changes)).succeeds host = true)
    (path : Path) :
    (FileDiff.preview (ChangeCluster.ofChanges changes) path).succeeds host = true := by
  rw [FileDiff.preview_succeeds_iff]
  by_cases hnone : Change.on path (ChangeCluster.sort changes) = []
  · rw [hnone]
    rfl
  · obtain ⟨file, hm, hs⟩ := (ChangeCluster.mem_files_ofChanges changes path).mpr hnone
    have hmirrors := @Session.mirrors_applyCluster ω _ _ (ChangeCluster.ofChanges changes)
    rw [← hmirrors.succeeds_eq, Session.applyCluster_succeeds_iff] at h
    rw [← Change.on_congr hs, ← Contents.sole_congr hs]
    exact h file hm

/-- Diffs shown of one plan and host differ only by their files. -/
theorem diffs_agree
    (shown : FileDiff.previewEach (ChangeCluster.ofChanges changes) looks host = .ok diffs host)
    {first second : FileDiff} (hfirst : first ∈ diffs) (hsecond : second ∈ diffs)
    (same : first.path.same second.path = true) :
    first.before = second.before ∧ first.after = second.after := by
  obtain ⟨_, hall⟩ := FileDiff.previewEach_of_ok changes shown
  obtain ⟨_, hbefore, hafter⟩ := FileDiff.preview_of_ok changes (hall first hfirst)
  obtain ⟨_, hbefore', hafter'⟩ := FileDiff.preview_of_ok changes (hall second hsecond)
  rw [Change.on_congr same, Contents.sole_congr same, hafter'] at hafter
  refine ⟨?_, (SoleFile.mk.inj (EStateM.Result.ok.inj hafter).2).symm⟩
  rw [hbefore, hbefore', Contents.text, Contents.text, Path.same_iff.mp same]

omit [Blueprint β ω] [QuietReads ω] [ContentHost ω] in
/-- Before the changes are known, the user is shown nothing. -/
theorem shown_of_unplanned {execution : Execution β ω Scripted} (decisions : List Decision)
    (unplanned : Watched (Session.Unplanned host) (decisions, [], []) execution)
    (later : List Decision) : Shown host looks (execution.alongside later [] []) := by
  obtain ⟨hunplanned, hrecord⟩ := unplanned
  obtain ⟨_, hseen⟩ := Prod.mk.inj hrecord
  obtain ⟨hsummaries, hdiffs⟩ := Prod.mk.inj hseen
  have hunknown : (execution.alongside later [] []).session.run.cluster? = none :=
    hunplanned.unknown
  rw [Shown, hunknown]
  simp only [alongside, Scripted.alongside, hsummaries, hdiffs, List.append_nil, and_self]

omit [Blueprint β ω] in
/-- What the user remembers of its looks is what it was shown. -/
theorem shown_of_looks {execution : Execution β ω Scripted} {decisions : List Decision}
    (settled : Watched (Session.Settled host (ChangeCluster.ofChanges changes))
      (decisions, [Summary.ofCluster (ChangeCluster.ofChanges changes) host], []) execution)
    (shown : FileDiff.previewEach (ChangeCluster.ofChanges changes) looks host =
      .ok diffs host) :
    Shown host looks (execution.alongside []
      (List.replicate looks.length (Summary.ofCluster (ChangeCluster.ofChanges changes) host))
      diffs) := by
  obtain ⟨hsettled, hrecord⟩ := settled
  obtain ⟨_, hseen⟩ := Prod.mk.inj hrecord
  obtain ⟨hsummaries, hdiffs⟩ := Prod.mk.inj hseen
  have hknown : (execution.alongside [] (List.replicate looks.length
      (Summary.ofCluster (ChangeCluster.ofChanges changes) host)) diffs).session.run.cluster? =
        some (ChangeCluster.ofChanges changes) := hsettled.known
  rw [Shown, hknown]
  simp only [alongside, Scripted.alongside, hsummaries, hdiffs, List.nil_append]
  exact ⟨rfl, (FileDiff.previewEach_of_ok changes shown).1, fun _ hfirst _ hsecond =>
    diffs_agree shown hfirst hsecond⟩

/-- Looking at files is free. Let a blueprint that writes nothing itself while it prepares and
generates be executed, not as a dry run, with a script that looks at files and then applies the
plan, cancels it or ends. If the files it looks at can be shown, the execution ends as it does
without the looks: with the same outcome or error and the same session, that is the same host with
its journal, the same state and the same calls of the blueprint. If it comes to the question, the
plan is shown once more than the user looks, always the same, and one diff for each look, the same
for the same file. And if without the looks all changes are applied, every file can be shown. -/
theorem execute_looking_is_free (quiet : PlansQuietly β ω) (blueprint : β) (host : ω)
    (answers options : Options) (active : Bool) (looks : List Path) (ending : List Decision)
    (settled : ∀ path, ending.head? ≠ some (.reveal path))
    {plain looking : Execution (Recorded β) ω Scripted}
    (hplain : Task.after (execute active false options)
      (scripted blueprint host answers ending) = plain)
    (hlooking : Task.after (execute active false options)
      (scripted blueprint host answers (looks.map .reveal ++ ending)) = looking) :
    ((∀ cluster, plain.session.run.cluster? = some cluster →
        ∀ path ∈ looks, (FileDiff.preview cluster path).succeeds host = true) →
      Task.seen session (execute active false options
          (scripted blueprint host answers (looks.map .reveal ++ ending))) =
        Task.seen session (execute active false options
          (scripted blueprint host answers ending)) ∧
      looking.Shown host looks) ∧
    (plain.session.run.state = .applied ∨ plain.session.run.state = .postApplied →
      ∃ cluster, plain.session.run.cluster? = some cluster ∧
        ∀ path, (FileDiff.preview cluster path).succeeds host = true) := by
  subst hplain hlooking
  have hfresh : Watched (Session.Unplanned host) (ending, [], [])
      (scripted blueprint host answers ending) := ⟨⟨rfl, rfl, rfl⟩, rfl⟩
  have hlooks : scripted blueprint host answers (looks.map .reveal ++ ending) =
      (scripted blueprint host answers ending).alongside (looks.map .reveal) [] [] := rfl
  rw [hlooks]
  obtain ⟨hunplanned, hsame⟩ | ⟨changes, hsettled, hsame⟩ :=
    execute_of_looks (Recorded.plansQuietly quiet) active options hfresh settled looks
  · refine ⟨fun _ => ?_, fun happlied => ?_⟩
    · rw [Task.after_of_seen hsame, hsame]
      exact ⟨seen_alongside _, shown_of_unplanned _ hunplanned _⟩
    · have hopen := hunplanned.1.state
      obtain hs | hs := happlied <;> · rw [hs] at hopen; cases hopen
  · refine ⟨fun hpreviews => ?_, fun happlied => ?_⟩
    · have hsucceeds := (FileDiff.previewEach_succeeds_iff _ looks host).mpr
        (hpreviews _ hsettled.1.known)
      obtain ⟨diffs, left, hdiffs⟩ := Task.succeeds_iff.mp hsucceeds
      have hleft := FileDiff.after_previewEach (ChangeCluster.ofChanges changes) looks host
      rw [Task.after_of_ok hdiffs] at hleft
      subst hleft
      rw [Task.after_of_seen (hsame diffs hdiffs), hsame diffs hdiffs]
      exact ⟨seen_alongside _, shown_of_looks hsettled hdiffs⟩
    · exact ⟨_, hsettled.1.known, preview_of_applied (hsettled.1.applied happlied)⟩

/-- A blueprint of one new file, of which the last word fails. -/
def letter : FixedBlueprint :=
  ⟨"letter", "", [], true, [.newFile ⟨"letter"⟩ "Dear reader"], none, none, some (.other "tired")⟩

/-- The script looks at the file twice, and at a file that is not planned, before it applies the
plan. -/
theorem letter_is_looked_at_freely :
    Task.seen session (execute true false Options.empty
        (scripted letter (MemoryHost.withFiles []) Options.empty
          [.reveal ⟨"letter"⟩, .reveal ⟨"other"⟩, .reveal ⟨"./letter"⟩, .apply])) =
      Task.seen session (execute true false Options.empty
        (scripted letter (MemoryHost.withFiles []) Options.empty [.apply])) ∧
      Shown (MemoryHost.withFiles []) [⟨"letter"⟩, ⟨"other"⟩, ⟨"./letter"⟩]
        (Task.after (execute true false Options.empty)
          (scripted letter (MemoryHost.withFiles []) Options.empty
            [.reveal ⟨"letter"⟩, .reveal ⟨"other"⟩, .reveal ⟨"./letter"⟩, .apply])) := by
  have hfree := execute_looking_is_free FixedBlueprint.neverWrites.toPlansQuietly letter
    (MemoryHost.withFiles []) Options.empty Options.empty true
    [⟨"letter"⟩, ⟨"other"⟩, ⟨"./letter"⟩] [.apply] nofun rfl rfl
  obtain ⟨cluster, hknown, hall⟩ := hfree.2 (.inl (by decide +kernel))
  refine hfree.1 fun other hother path _ => ?_
  rw [hknown] at hother
  cases hother
  exact hall path

end Comparing

end Execution

end Scaffold
