import Scaffold.Blueprint.Fixed
import Scaffold.Diff.Preview
import Scaffold.Proofs.Cluster.Order
import Scaffold.Proofs.Lifecycle.Applying
import Scaffold.Proofs.Lifecycle.Steps

/-!
# What a preview tells

A preview tries the bucket of a file on a layer over the host, while applying a plan works on the
host itself and on all files in turn. Both come down to the bucket applied to its file alone, so
the previews of a plan can be made exactly if it can be applied, and they show what applying it
will leave. Making them leaves the host as it was.
-/

namespace Scaffold

namespace Change

variable {ω χ : Type} [FileHost ω] [FileHost χ] {path : Path} {changes : List Change}

/-- Trying changes on a file keeps what reading and writing the files concerned keep. -/
theorem keeps_trial {kept : ω → Prop} (hpath : KeepsFile kept path)
    (h : ∀ change ∈ changes, ∀ own, change.isOn own = true → KeepsFile kept own) :
    Task.Keeps kept (trial path changes : Task ChangeError ω FileDiff) := by
  apply Task.keeps_bind hpath.read
  intro before
  apply Task.keeps_bind (keeps_applyAll h)
  intro _
  apply Task.keeps_bind hpath.read
  intro after
  exact Task.keeps_pure kept _

/-- Trying changes on a file looks, through a view of the files concerned, as it does on the
image. -/
theorem mirrors_trial {view : ω → χ} (hpath : MirrorsFile view path)
    (h : ∀ change ∈ changes, ∀ own, change.isOn own = true → MirrorsFile view own) :
    Task.Mirrors view (trial path changes) (trial path changes) := by
  apply Task.mirrors_bind hpath.read
  intro before
  apply Task.mirrors_bind (mirrors_applyAll h)
  intro _
  apply Task.mirrors_bind hpath.read
  intro after
  exact Task.mirrors_pure view _

/-- Changes that can be applied to a file are shown as its texts before and after. -/
theorem trial_sole_of_ok {file left : SoleFile} (h : applyAll changes file = .ok () left) :
    trial path changes file = .ok ⟨path, file.text, left.text⟩ left := by
  have hread : (FileHost.read path : Task ChangeError SoleFile String) file =
      .ok file.text file := rfl
  rw [trial, Task.bind_of_ok hread, Task.bind_of_ok h]
  rfl

/-- Changes that cannot be applied to a file fail in its preview. -/
theorem trial_sole_of_error {file left : SoleFile} {error : ChangeError}
    (h : applyAll changes file = .error error left) :
    trial path changes file = .error error left := by
  have hread : (FileHost.read path : Task ChangeError SoleFile String) file =
      .ok file.text file := rfl
  rw [trial, Task.bind_of_ok hread, Task.bind_of_error h]

end Change

namespace FileDiff

variable {ω : Type} [FileHost ω]

/-- A preview is a trial on a fresh layer, of which only the host is kept. -/
theorem preview_apply (cluster : ChangeCluster) (path : Path) (host : ω) :
    preview cluster path host =
      Task.seen Layered.host
        (Change.trial path ((cluster.changesFor? path).getD []) (Layered.shadow host)) := by
  unfold preview
  cases Change.trial path ((cluster.changesFor? path).getD []) (Layered.shadow host) <;> rfl

/-- The trial behind a preview, seen from its file, is the trial on that file alone. -/
theorem mirrors_trial_bucket [ContentHost ω] (generated : List Change) (path : Path) :
    Task.Mirrors (Contents.sole path ∘ (ContentHost.contents : Layered ω → Contents))
      (Change.trial path (Change.on path (ChangeCluster.sort generated)))
      (Change.trial path (Change.on path (ChangeCluster.sort generated))) := by
  have hfile : ∀ own, own.same path = true →
      MirrorsFile (Contents.sole path ∘ (ContentHost.contents : Layered ω → Contents)) own :=
    fun own hs => (ContentHost.mirrorsFile own).comp (Contents.mirrorsFile_sole hs)
  apply Change.mirrors_trial (hfile path path.same_self)
  intro change hm own hown
  exact hfile own (Change.same_of_isOn hown (List.mem_filter.mp hm).2)

variable [QuietReads ω]

/-- A preview leaves the host as it is, whether it can be made or not. -/
theorem after_preview (cluster : ChangeCluster) (path : Path) (host : ω) :
    (preview cluster path).after host = host := by
  have hfile : ∀ own, KeepsFile (Layered.Covers host) own := fun own =>
    ⟨Layered.keeps_covers_read host own, Layered.keeps_covers_write host own⟩
  have hkept : Task.Keeps (Layered.Covers host)
      (Change.trial path ((cluster.changesFor? path).getD [])) :=
    Change.keeps_trial (hfile path) fun _ _ own _ => hfile own
  have hcovers := hkept _ (Layered.covers_shadow host)
  unfold Task.after at hcovers ⊢
  rw [preview_apply]
  cases ht : Change.trial path ((cluster.changesFor? path).getD []) (Layered.shadow host) with
  | ok diff layers => rw [ht] at hcovers; exact hcovers.2
  | error error layers => rw [ht] at hcovers; exact hcovers.2

/-- After a preview that can be made, the others are made of the same host. -/
theorem previewEach_cons_of_ok {cluster : ChangeCluster} {path : Path} {host left : ω}
    {diff : FileDiff} (h : preview cluster path host = .ok diff left) (rest : List Path) :
    previewEach cluster (path :: rest) host =
      ((diff :: ·) <$> previewEach cluster rest : Task ChangeError ω (List FileDiff)) host := by
  have hsame := after_preview cluster path host
  rw [Task.after_of_ok h] at hsame
  subst hsame
  rw [previewEach, Task.bind_of_ok h]
  cases hr : previewEach cluster rest left with
  | ok diffs last => rw [Task.bind_of_ok hr, Task.map_of_ok _ hr, Task.pure_apply]
  | error error stuck => rw [Task.bind_of_error hr, Task.map_of_error _ hr]

/-- Previews in order can be made exactly if each of them can be made of the same host. -/
theorem previewEach_succeeds_iff (cluster : ChangeCluster) (paths : List Path) (host : ω) :
    (previewEach cluster paths).succeeds host = true ↔
      ∀ path ∈ paths, (preview cluster path).succeeds host = true := by
  induction paths with
  | nil => simp [previewEach, Task.succeeds, Task.pure_apply]
  | cons path rest ih =>
    rw [List.forall_mem_cons, ← ih]
    cases hp : preview cluster path host with
    | error error stuck =>
      have hfails : previewEach cluster (path :: rest) host = .error error stuck :=
        Task.bind_of_error hp
      simp only [Task.succeeds, hfails, hp, Bool.false_eq_true, false_and]
    | ok diff next =>
      simp only [Task.succeeds, previewEach_cons_of_ok hp, hp, true_and]
      cases hr : previewEach cluster rest host with
      | ok diffs last => rw [Task.map_of_ok _ hr]
      | error error stuck => rw [Task.map_of_error _ hr]

/-- Previews leave the host as it is, also when one of them cannot be made. -/
theorem after_previewEach (cluster : ChangeCluster) (paths : List Path) (host : ω) :
    (previewEach cluster paths).after host = host := by
  have hkept : Task.Keeps (· = host) (previewEach cluster paths : Task ChangeError ω _) := by
    induction paths with
    | nil => exact Task.keeps_pure _ _
    | cons path rest ih =>
      apply Task.keeps_bind
      · intro state hs
        rw [after_preview]
        exact hs
      · intro diff
        apply Task.keeps_bind ih
        intro diffs
        exact Task.keeps_pure _ _
  exact hkept host rfl

section Truth

variable [ContentHost ω] (generated : List Change)

/-- A preview is the trial of the bucket on its file alone. -/
theorem preview_ofChanges (path : Path) (host : ω) :
    preview (ChangeCluster.ofChanges generated) path host =
      Task.seen (fun _ => host)
        (Change.trial path (Change.on path (ChangeCluster.sort generated))
          ((ContentHost.contents host).sole path)) := by
  have hseen := mirrors_trial_bucket generated path (Layered.shadow host)
  have hafter := after_preview (ChangeCluster.ofChanges generated) path host
  have hpreview := preview_apply (ChangeCluster.ofChanges generated) path host
  rw [ChangeCluster.getD_changesFor?_ofChanges] at hpreview
  rw [Function.comp_apply, Layered.contents_shadow] at hseen
  rw [← hseen, hpreview]
  rw [Task.after, hpreview] at hafter
  cases ht : Change.trial path (Change.on path (ChangeCluster.sort generated))
      (Layered.shadow host) with
  | ok diff layers =>
    rw [ht] at hafter
    exact congrArg _ hafter
  | error error layers =>
    rw [ht] at hafter
    exact congrArg _ hafter

/-- A preview can be made exactly if the bucket can be applied to its file. -/
theorem preview_succeeds_iff (path : Path) (host : ω) :
    (preview (ChangeCluster.ofChanges generated) path).succeeds host = true ↔
      (Change.applyAll (Change.on path (ChangeCluster.sort generated))).succeeds
        ((ContentHost.contents host).sole path) = true := by
  unfold Task.succeeds
  rw [preview_ofChanges]
  cases ha : Change.applyAll (Change.on path (ChangeCluster.sort generated))
      ((ContentHost.contents host).sole path) with
  | ok _ left =>
    rw [Change.trial_sole_of_ok ha]
    rfl
  | error error left =>
    rw [Change.trial_sole_of_error ha]
    rfl

/-- A preview shows what the host holds and what the bucket makes of it. -/
theorem preview_of_ok {path : Path} {host left : ω} {diff : FileDiff}
    (h : preview (ChangeCluster.ofChanges generated) path host = .ok diff left) :
    diff.path = path ∧ diff.before = (ContentHost.contents host).text path ∧
      Change.applyAll (Change.on path (ChangeCluster.sort generated))
        ((ContentHost.contents host).sole path) = .ok () ⟨diff.after⟩ := by
  rw [preview_ofChanges] at h
  cases ha : Change.applyAll (Change.on path (ChangeCluster.sort generated))
      ((ContentHost.contents host).sole path) with
  | ok _ file =>
    rw [Change.trial_sole_of_ok ha] at h
    cases h
    exact ⟨rfl, rfl, rfl⟩
  | error error file =>
    rw [Change.trial_sole_of_error ha] at h
    cases h

/-- The previews of a plan can be made exactly if it can be applied. -/
theorem previewAll_succeeds_eq (host : ω) :
    (previewAll (ChangeCluster.ofChanges generated)).succeeds host =
      (Session.applyCluster (ChangeCluster.ofChanges generated)).succeeds host := by
  have hmirrors := @Session.mirrors_applyCluster ω _ _ (ChangeCluster.ofChanges generated)
  rw [Bool.eq_iff_iff, previewAll, previewEach_succeeds_iff, ← hmirrors.succeeds_eq,
    Session.applyCluster_succeeds_iff]
  simp only [preview_succeeds_iff]

/-- Previews in order are one of each file, all of the same host. -/
theorem previewEach_of_ok {paths : List Path} {host left : ω} {diffs : List FileDiff}
    (h : previewEach (ChangeCluster.ofChanges generated) paths host = .ok diffs left) :
    diffs.map (·.path) = paths ∧
      ∀ diff ∈ diffs, preview (ChangeCluster.ofChanges generated) diff.path host =
        .ok diff host := by
  induction paths generalizing diffs with
  | nil =>
    cases h
    exact ⟨rfl, fun _ hm => absurd hm List.not_mem_nil⟩
  | cons path rest ih =>
    have hsame := after_preview (ChangeCluster.ofChanges generated) path host
    cases hp : preview (ChangeCluster.ofChanges generated) path host with
    | error error stuck =>
      rw [previewEach, Task.bind_of_error hp] at h
      cases h
    | ok diff next =>
      rw [previewEach_cons_of_ok hp] at h
      rw [Task.after_of_ok hp] at hsame
      subst hsame
      have hpath := (preview_of_ok generated hp).1
      cases hr : previewEach (ChangeCluster.ofChanges generated) rest next with
      | error error stuck =>
        rw [Task.map_of_error _ hr] at h
        cases h
      | ok others last =>
        rw [Task.map_of_ok _ hr] at h
        cases h
        obtain ⟨hpaths, hall⟩ := ih hr
        refine ⟨?_, ?_⟩
        · rw [List.map_cons, hpath, hpaths]
        · rw [List.forall_mem_cons, hpath]
          exact ⟨hp, hall⟩

/-- A preview shows the content before and the content that applying the plan leaves. -/
theorem previewAll_shows {host left applied : ω} {diffs : List FileDiff}
    (h : previewAll (ChangeCluster.ofChanges generated) host = .ok diffs left)
    (ha : Session.applyCluster (ChangeCluster.ofChanges generated) host = .ok () applied)
    {diff : FileDiff} (hm : diff ∈ diffs) :
    diff.before = (ContentHost.contents host).text diff.path ∧
      ContentHost.contents applied diff.path.components = some diff.after := by
  have hmirrors := @Session.mirrors_applyCluster ω _ _ (ChangeCluster.ofChanges generated)
  obtain ⟨hpaths, hall⟩ := previewEach_of_ok generated h
  have hfile : diff.path ∈ (ChangeCluster.ofChanges generated).files := by
    rw [← hpaths]
    exact List.mem_map_of_mem hm
  obtain ⟨_, hbefore, hbucket⟩ := preview_of_ok generated (hall diff hm)
  obtain ⟨text, halone, hcontent⟩ := Session.applyCluster_of_mem (hmirrors.of_ok ha) hfile
  rw [hbucket] at halone
  cases halone
  exact ⟨hbefore, hcontent⟩

end Truth

end FileDiff

namespace Session

variable {β : Type} [Blueprint β MemoryHost]

/-- Previews tell the truth. They can be made exactly if the changes can then be applied, and
making them leaves the host with its journal as it was. If they can be made, there is one for
each file of the plan, with the content before and the content that applying the changes leaves,
and applying them leaves every other file as it was. -/
theorem previewAll_tells_what_apply_leaves {session : Session β MemoryHost}
    {generated : List Change} (prepared : session.run.state = .prepared)
    (known : session.run.cluster? = some (ChangeCluster.ofChanges generated)) :
    (FileDiff.previewAll (ChangeCluster.ofChanges generated)).after session.host = session.host ∧
      (FileDiff.previewAll (ChangeCluster.ofChanges generated)).succeeds session.host =
        Task.succeeds apply session ∧
      ∀ diffs host applied,
        FileDiff.previewAll (ChangeCluster.ofChanges generated) session.host = .ok diffs host →
        apply session = .ok () applied →
          diffs.map (·.path) = (ChangeCluster.ofChanges generated).files ∧
          (∀ diff ∈ diffs, diff.before = (session.host.content? diff.path).getD "" ∧
            applied.host.content? diff.path = some diff.after) ∧
          ∀ path, (∀ file ∈ (ChangeCluster.ofChanges generated).files, file.same path = false) →
            applied.host.content? path = session.host.content? path := by
  have happly := apply_of_prepared prepared known (cluster_of_known (Or.inl prepared) known)
  refine ⟨FileDiff.after_previewEach _ _ _, ?_, ?_⟩
  · rw [FileDiff.previewAll_succeeds_eq, Task.succeeds, Task.succeeds, happly]
    cases applyCluster (ChangeCluster.ofChanges generated) session.host <;> rfl
  · intro diffs host applied hpreviews happlied
    rw [happly] at happlied
    cases ha : applyCluster (ChangeCluster.ofChanges generated) session.host with
    | error error left =>
      rw [ha] at happlied
      cases happlied
    | ok _ left =>
      rw [ha] at happlied
      cases happlied
      refine ⟨(FileDiff.previewEach_of_ok generated hpreviews).1, ?_, ?_⟩
      · intro diff hm
        rw [MemoryHost.content?_eq, MemoryHost.content?_eq]
        exact FileDiff.previewAll_shows generated hpreviews ha hm
      · intro path hother
        rw [MemoryHost.content?_eq, MemoryHost.content?_eq]
        exact contents_applyCluster_other ha hother

/-- A plan that ends a sentence and fills a new file by nested bundles. -/
def bundlePlan : List Change :=
  [.insert ⟨"a"⟩ 3 "!",
    .multi ⟨"b"⟩ [.insert ⟨"b//"⟩ 0 "new", .multi ⟨"b"⟩ [.placeholder none, .remove ⟨"b"⟩ 0 1]]]

/-- A run that is ready to apply the plan. -/
def bundleSession : Session FixedBlueprint MemoryHost :=
  ⟨⟨⟨"bundle", "", [], true, [], none, none, none⟩, .prepared, Options.empty,
    some (ChangeCluster.ofChanges bundlePlan)⟩, .withFiles [(⟨"a"⟩, "Hi "), (⟨"c"⟩, "")]⟩

theorem sort_bundlePlan : ChangeCluster.sort bundlePlan = bundlePlan.reverse :=
  ChangeCluster.sort_of_ascending (by decide)

/-- The preview of the plan shows both files. -/
theorem previewAll_bundlePlan :
    FileDiff.previewAll (ChangeCluster.ofChanges bundlePlan) bundleSession.host =
      .ok [⟨⟨"b"⟩, "", "ew"⟩, ⟨⟨"a"⟩, "Hi ", "Hi !"⟩] bundleSession.host := by
  rw [ChangeCluster.ofChanges, sort_bundlePlan]
  rfl

/-- The previews of the plan can be made, so it is applied, and each file is as previewed. -/
theorem previewAll_tells_what_bundlePlan_leaves :
    ∃ applied, apply bundleSession = .ok () applied ∧
      applied.host.content? ⟨"b"⟩ = some "ew" ∧ applied.host.content? ⟨"a"⟩ = some "Hi !" ∧
      applied.host.content? ⟨"c"⟩ = some "" := by
  obtain ⟨_, hsucceeds, htells⟩ :=
    @previewAll_tells_what_apply_leaves FixedBlueprint _ bundleSession bundlePlan rfl rfl
  have hpreviews := previewAll_bundlePlan
  have happlies : Task.succeeds apply bundleSession = true := by
    rw [← hsucceeds, Task.succeeds, hpreviews]
  obtain ⟨_, applied, happlied⟩ := Task.succeeds_iff.mp happlies
  obtain ⟨hfiles, hshown, hothers⟩ := htells _ _ applied hpreviews happlied
  refine ⟨applied, happlied, (hshown _ List.mem_cons_self).2, (hshown ⟨⟨"a"⟩, "Hi ", "Hi !"⟩ ?_).2, ?_⟩
  · exact List.mem_cons_of_mem _ List.mem_cons_self
  · rw [hothers ⟨"c"⟩]
    · rfl
    · rw [← hfiles]
      decide

end Session

end Scaffold
