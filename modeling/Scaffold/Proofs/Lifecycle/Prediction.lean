import Scaffold.Blueprint.Fixed
import Scaffold.Proofs.Cluster.Order
import Scaffold.Proofs.Host.Rooted
import Scaffold.Proofs.InStep
import Scaffold.Proofs.Lifecycle.Applying
import Scaffold.Proofs.Lifecycle.Steps

/-!
# Files in memory predict a disk

A plan whose targets can be files below a root is applied to the disk there as it is to files in
memory that hold the texts of the tree. Creating the files of the plan succeeds on both; from then
on reading and writing them are in step, so that each change succeeds on both or fails on both with
the same error.
-/

namespace Scaffold

/-- The paths that a change names: that of its file, as it spells it, and the spellings under which
it reads and writes it. -/
def Change.targets (change : Change) : List Path := change.path?.toList ++ change.spellings

namespace RootedDisk

/-- A rooted disk holds a tree with the texts of files in memory. -/
structure HasTexts (base : Place) (host : RootedDisk) (memory : MemoryHost) : Prop where
  /-- Below the directory there are only directories and texts. -/
  tree : host.disk.IsTree base
  /-- The texts are those of the files. -/
  texts : host.disk.textsBelow base = ContentHost.contents memory

section Hosts

variable {root : Path} {base : Place} {targets : List Path} {target : Path}

/-- A rooted disk is a site whose texts are those of files in memory. -/
structure Predicted (root : Path) (base : Place) (targets : List Path) (host : RootedDisk)
    (memory : MemoryHost) : Prop where
  /-- Paths are taken from the root. -/
  root? : host.root? = some root
  /-- The targets can be files there. -/
  site : host.disk.Site root base targets
  /-- The texts are those of the files. -/
  texts : host.disk.textsBelow base = ContentHost.contents memory

/-- Moreover, all targets are there. -/
structure Settled (root : Path) (base : Place) (targets : List Path) (host : RootedDisk)
    (memory : MemoryHost) : Prop extends Predicted root base targets host memory where
  /-- Every target has a text. -/
  present : ∀ target ∈ targets, (ContentHost.contents memory target.components).isSome = true

/-- A target leads to the same place behind the root. -/
theorem Predicted.resolve_target {host : RootedDisk} {memory : MemoryHost}
    (h : Predicted root base targets host memory) (ht : target ∈ targets) :
    host.resolve target = root.join target := by
  unfold RootedDisk.resolve
  rw [h.root?]
  simp only [Path.isAbsolute_of_isPlain (h.site.plain target ht), Bool.false_eq_true, if_false]

/-- A task that succeeds on the disk of a host leaves the host with the disk it leaves. -/
theorem onDisk_of_ok {ε α : Type} {task : Task ε Disk α} {host : RootedDisk} {value : α}
    {left : Disk} (h : task host.disk = .ok value left) :
    onDisk task host = .ok value { host with disk := left } := by
  rw [onDisk, h]

/-- A target is created on both, unless it is there. -/
theorem inStep_ensureFile (ht : target ∈ targets) :
    Task.InStep (Predicted root base targets) (FileHost.ensureFile target)
      (FileHost.ensureFile target) := by
  intro host memory h
  obtain ⟨left, hleft, hsite, htexts⟩ := h.site.ensureAt_target ht
  have hdisk : (FileHost.ensureFile target : Task ChangeError RootedDisk Unit) host =
      .ok () { host with disk := left } := by
    change onDisk (ensureAt (host.resolve target)) host = _
    rw [h.resolve_target ht, onDisk_of_ok hleft]
  have hmemory : (FileHost.ensureFile target : Task ChangeError MemoryHost Unit) memory =
      .ok () (memory.touch target) := rfl
  refine Task.alike_of_ok hdisk hmemory ⟨h.root?, hsite, ?_⟩
  rw [htexts, h.texts]
  exact (MemoryHost.at?_touch memory target).symm

/-- Reading a target gives the same text on both. -/
theorem inStep_read (ht : target ∈ targets) :
    Task.InStep (Settled root base targets) (FileHost.read target) (FileHost.read target) := by
  intro host memory h
  have hread := h.site.readAt_target ht
  rw [h.texts] at hread
  have hdisk : (FileHost.read target : Task ChangeError RootedDisk String) host =
      .ok (Contents.text (ContentHost.contents memory) target) host := by
    simp only [FileHost.read, h.resolve_target ht, hread]
  have hmemory : (FileHost.read target : Task ChangeError MemoryHost String) memory =
      .ok (Contents.text (ContentHost.contents memory) target) memory := by
    change EStateM.Result.ok ((memory.content? target).getD "") memory = _
    rw [MemoryHost.content?_eq]
    rfl
  exact Task.alike_of_ok hdisk hmemory h

/-- Writing a target that is there sets its text on both. -/
theorem inStep_write (ht : target ∈ targets) (content : String) :
    Task.InStep (Settled root base targets) (FileHost.write target content)
      (FileHost.write target content) := by
  intro host memory h
  have hpresent := h.present target ht
  rw [← h.texts] at hpresent
  obtain ⟨left, hleft, hsite, htexts⟩ :=
    h.site.writeAt_target ht (h.site.parent_of_text ht hpresent) content
  have hdisk : (FileHost.write target content : Task ChangeError RootedDisk Unit) host =
      .ok () { host with disk := left } := by
    change onDisk (writeAt (host.resolve target) content) host = _
    rw [h.resolve_target ht, onDisk_of_ok hleft]
  have hmemory : (FileHost.write target content : Task ChangeError MemoryHost Unit) memory =
      .ok () (memory.put target content) := rfl
  have hput : ContentHost.contents (memory.put target content) =
      (ContentHost.contents memory).put target content := MemoryHost.at?_put memory target content
  refine Task.alike_of_ok hdisk hmemory ⟨⟨h.root?, hsite, ?_⟩, ?_⟩
  · rw [htexts, h.texts, hput]
  · intro other hother
    rw [hput, Contents.put, Function.update_apply]
    split
    · rfl
    · exact h.present other hother

/-- Hosts with settled targets stay in step on each of them. -/
theorem fileInStep_settled (ht : target ∈ targets) :
    FileInStep (Settled root base targets) target := ⟨inStep_read ht, inStep_write ht⟩

end Hosts

end RootedDisk

namespace Session

open RootedDisk

/-- Create the files of a plan and apply the first of its changes. -/
def applyFirst {ω : Type} [FileHost ω] (count : Nat) (cluster : ChangeCluster) :
    Task ChangeError ω Unit := do
  ensureFiles cluster.files
  Change.applyAll (cluster.changes.take count)

/-- Applying as many changes as there are applies all of them. -/
theorem applyFirst_length {ω : Type} [FileHost ω] (cluster : ChangeCluster) :
    (applyFirst cluster.changes.length cluster : Task ChangeError ω Unit) =
      applyCluster cluster := by
  rw [applyFirst, List.take_length]
  rfl

section Plan

variable {root : Path} {base : Place} {targets files : List Path} {generated : List Change}
  {host : RootedDisk} {memory : MemoryHost}

/-- Ensuring targets keeps both hosts in step. -/
theorem inStep_ensureFiles (h : ∀ file ∈ files, file ∈ targets) :
    Task.InStep (Predicted root base targets) (ensureFiles files) (ensureFiles files) := by
  induction files with
  | nil => exact Task.inStep_pure _ ()
  | cons file rest ih =>
    obtain ⟨hfile, hrest⟩ := List.forall_mem_cons.mp h
    exact Task.inStep_bind (inStep_ensureFile hfile) fun _ => ih hrest

/-- The file of every target is one of the cluster's. -/
theorem exists_file_of_target {target : Path} (ht : target ∈ generated.flatMap Change.targets) :
    ∃ file ∈ (ChangeCluster.ofChanges generated).files, file.components = target.components := by
  obtain ⟨change, hm, htarget⟩ := List.mem_flatMap.mp ht
  have hon : change.isOn target = true := by
    obtain hown | hspelled := List.mem_append.mp htarget
    · rw [Option.mem_toList] at hown
      rw [Change.isOn, hown]
      exact Path.same_self target
    · unfold Change.spellings at hspelled
      split at hspelled
      · cases hspelled
      · next hforeign =>
        obtain ⟨leaf, hleaf, hpath⟩ := List.mem_filterMap.mp hspelled
        exact Change.isOn_of_leaf hforeign hleaf hpath
  have hnonempty : Change.on target (ChangeCluster.sort generated) ≠ [] := by
    have hsorted : change ∈ ChangeCluster.sort generated :=
      (ChangeCluster.sort_perm generated).mem_iff.mpr hm
    exact List.ne_nil_of_mem (List.mem_filter.mpr ⟨hsorted, hon⟩)
  obtain ⟨file, hfile, hsame⟩ :=
    (ChangeCluster.mem_files_ofChanges generated target).mpr hnonempty
  exact ⟨file, hfile, Path.same_iff.mp hsame⟩

/-- The files of a plan are created on both, and then all targets are there. -/
theorem ensureFiles_settles
    (h : Predicted root base (generated.flatMap Change.targets) host memory) :
    ∃ left settled,
      (ensureFiles (ChangeCluster.ofChanges generated).files : Task ChangeError RootedDisk Unit)
          host = .ok () left ∧
        (ensureFiles (ChangeCluster.ofChanges generated).files : Task ChangeError MemoryHost Unit)
          memory = .ok () settled ∧
        Settled root base (generated.flatMap Change.targets) left settled := by
  have htargets : ∀ file ∈ (ChangeCluster.ofChanges generated).files,
      file ∈ generated.flatMap Change.targets := by
    intro file hm
    obtain ⟨change, hchange, hpath⟩ := ChangeCluster.exists_change_of_mem_files generated hm
    refine List.mem_flatMap.mpr ⟨change, hchange, List.mem_append_left _ ?_⟩
    exact Option.mem_toList.mpr hpath
  obtain ⟨hanswer, hafter⟩ := inStep_ensureFiles htargets host memory h
  have himage := ensureFiles_contents (ChangeCluster.ofChanges generated).files
    (ContentHost.contents memory)
  obtain ⟨hsame, hleft⟩ := (mirrors_ensureFiles
    (ChangeCluster.ofChanges generated).files).answer_after memory
  rw [Task.answer_of_ok himage] at hsame
  rw [Task.after_of_ok himage] at hleft
  refine ⟨_, _, Task.eq_of_answer_ok (hanswer.trans hsame.symm), Task.eq_of_answer_ok hsame.symm,
    hafter, ?_⟩
  intro target ht
  obtain ⟨file, hfile, hcomponents⟩ := exists_file_of_target ht
  rw [← hleft, Contents.foldl_touch_apply]
  split
  · rfl
  · next hkept =>
    rw [Option.isSome_iff_ne_none]
    exact fun hnone => hkept ⟨⟨file, hfile, hcomponents⟩, hnone⟩

/-- Changes of the plan are applied to both alike. -/
theorem inStep_applyAll_settled {changes : List Change}
    (h : ∀ change ∈ changes, change ∈ generated) :
    Task.InStep (Settled root base (generated.flatMap Change.targets)) (Change.applyAll changes)
      (Change.applyAll changes) := by
  apply Change.inStep_applyAll
  intro change hm path hpath
  apply fileInStep_settled
  exact List.mem_flatMap.mpr ⟨change, h change hm, List.mem_append_right _ hpath⟩

/-- Up to any of its changes, a plan is applied to both alike. -/
theorem applyFirst_predicted
    (h : Predicted root base (generated.flatMap Change.targets) host memory) (count : Nat) :
    Task.answer (applyFirst count (ChangeCluster.ofChanges generated)) host =
        Task.answer (applyFirst count (ChangeCluster.ofChanges generated)) memory ∧
      HasTexts base (Task.after (applyFirst count (ChangeCluster.ofChanges generated)) host)
        (Task.after (applyFirst count (ChangeCluster.ofChanges generated)) memory) := by
  obtain ⟨left, settled, hleft, hsettled, hboth⟩ := ensureFiles_settles h
  have hchanges : ∀ change ∈ (ChangeCluster.ofChanges generated).changes.take count,
      change ∈ generated :=
    fun change hm => (ChangeCluster.sort_perm generated).mem_iff.mp (List.mem_of_mem_take hm)
  have hdisk : applyFirst count (ChangeCluster.ofChanges generated) host =
      Change.applyAll ((ChangeCluster.ofChanges generated).changes.take count) left :=
    Task.bind_of_ok hleft
  have hmemory : applyFirst count (ChangeCluster.ofChanges generated) memory =
      Change.applyAll ((ChangeCluster.ofChanges generated).changes.take count) settled :=
    Task.bind_of_ok hsettled
  obtain ⟨hanswer, hafter⟩ := inStep_applyAll_settled hchanges left settled hboth
  rw [Task.answer, Task.answer, Task.after, Task.after, hdisk, hmemory]
  exact ⟨hanswer, hafter.site.tree, hafter.texts⟩

end Plan

section Run

variable {β γ : Type} [Blueprint β RootedDisk] [Blueprint γ MemoryHost]
  {run known : BlueprintRun β} {twin acquainted : BlueprintRun γ}

/-- Runs that know the same plan go the same way where the plan is applied to both alike. -/
theorem apply_predicted {base : Place} {host : RootedDisk} {memory : MemoryHost}
    {cluster : ChangeCluster} (same : run.state = twin.state)
    (told : Session.cluster (⟨run, host⟩ : Session β RootedDisk) = .ok cluster ⟨known, host⟩)
    (foretold : Session.cluster (⟨twin, memory⟩ : Session γ MemoryHost) =
      .ok cluster ⟨acquainted, memory⟩)
    (hbefore : HasTexts base host memory)
    (hanswer : Task.answer (applyCluster cluster) host = Task.answer (applyCluster cluster) memory)
    (hafter : HasTexts base (Task.after (applyCluster cluster) host)
      (Task.after (applyCluster cluster) memory)) :
    Task.answer apply (⟨run, host⟩ : Session β RootedDisk) =
        Task.answer apply (⟨twin, memory⟩ : Session γ MemoryHost) ∧
      (Task.after apply (⟨run, host⟩ : Session β RootedDisk)).run.state =
        (Task.after apply (⟨twin, memory⟩ : Session γ MemoryHost)).run.state ∧
      HasTexts base (Task.after apply (⟨run, host⟩ : Session β RootedDisk)).host
        (Task.after apply (⟨twin, memory⟩ : Session γ MemoryHost)).host := by
  obtain ⟨hstates, hkept, hcluster⟩ := knows_of_cluster told
  obtain ⟨-, hkeptTwin, hclusterTwin⟩ := knows_of_cluster foretold
  have hstate : acquainted.state = known.state := hkeptTwin.trans (same.symm.trans hkept.symm)
  obtain hprepared | happlying := hstates
  · have hrun := apply_of_prepared hprepared hcluster told
    have htwin := apply_of_prepared (hstate.trans hprepared) hclusterTwin foretold
    cases hr : applyCluster cluster host with
    | ok _ left =>
      rw [Task.answer_of_ok hr] at hanswer
      rw [Task.after_of_ok hr] at hafter
      have hmemory := Task.eq_of_answer_ok hanswer.symm
      rw [hr] at hrun
      rw [hmemory] at htwin
      rw [Task.answer_of_ok hrun, Task.answer_of_ok htwin, Task.after_of_ok hrun,
        Task.after_of_ok htwin]
      exact ⟨rfl, rfl, hafter⟩
    | error error left =>
      rw [Task.answer_of_error hr] at hanswer
      rw [Task.after_of_error hr] at hafter
      have hmemory := Task.eq_of_answer_error hanswer.symm
      rw [hr] at hrun
      rw [hmemory] at htwin
      rw [Task.answer_of_error hrun, Task.answer_of_error htwin, Task.after_of_error hrun,
        Task.after_of_error htwin]
      exact ⟨rfl, rfl, hafter⟩
  · have hrun := apply_of_applying happlying told
    have htwin := apply_of_applying (hstate.trans happlying) foretold
    rw [Task.answer_of_error hrun, Task.answer_of_error htwin, Task.after_of_error hrun,
      Task.after_of_error htwin]
    exact ⟨rfl, hstate.symm, hbefore⟩

/-- Let two runs in the same state know the same changes, one on a disk and one on files in memory.
On the disk a root leads to a tree of directories and texts where the targets of the changes can be
files, and the memory is filled with the files of that tree. Then creating the files of the plan and
applying any number of its changes has the same answer on both, so that applying the plan succeeds
on both or fails on both with the same error at the same change; the runs end in the same state; and
each time the tree holds the texts of the memory. -/
theorem memory_predicts_disk {disk : Disk} {root : Path} {base : Place} {generated : List Change}
    (site : disk.Site root base (generated.flatMap Change.targets))
    (same : run.state = twin.state)
    (told : Session.cluster (⟨run, ⟨disk, some root⟩⟩ : Session β RootedDisk) =
      .ok (ChangeCluster.ofChanges generated) ⟨known, ⟨disk, some root⟩⟩)
    (foretold : Session.cluster
        (⟨twin, .withFiles (disk.filesBelow base)⟩ : Session γ MemoryHost) =
      .ok (ChangeCluster.ofChanges generated) ⟨acquainted, .withFiles (disk.filesBelow base)⟩) :
    (∀ count,
      Task.answer (applyFirst count (ChangeCluster.ofChanges generated))
          (⟨disk, some root⟩ : RootedDisk) =
        Task.answer (applyFirst count (ChangeCluster.ofChanges generated))
          (MemoryHost.withFiles (disk.filesBelow base)) ∧
      HasTexts base
        (Task.after (applyFirst count (ChangeCluster.ofChanges generated)) ⟨disk, some root⟩)
        (Task.after (applyFirst count (ChangeCluster.ofChanges generated))
          (.withFiles (disk.filesBelow base)))) ∧
    Task.answer apply (⟨run, ⟨disk, some root⟩⟩ : Session β RootedDisk) =
      Task.answer apply (⟨twin, .withFiles (disk.filesBelow base)⟩ : Session γ MemoryHost) ∧
    (Task.after apply (⟨run, ⟨disk, some root⟩⟩ : Session β RootedDisk)).run.state =
      (Task.after apply
        (⟨twin, .withFiles (disk.filesBelow base)⟩ : Session γ MemoryHost)).run.state ∧
    HasTexts base (Task.after apply (⟨run, ⟨disk, some root⟩⟩ : Session β RootedDisk)).host
      (Task.after apply
        (⟨twin, .withFiles (disk.filesBelow base)⟩ : Session γ MemoryHost)).host := by
  have hpredicted : Predicted root base (generated.flatMap Change.targets) ⟨disk, some root⟩
      (.withFiles (disk.filesBelow base)) :=
    ⟨rfl, site, site.tree.contents_withFiles.symm⟩
  have hfirst := applyFirst_predicted hpredicted
  obtain ⟨hanswer, htexts⟩ := hfirst (ChangeCluster.ofChanges generated).changes.length
  rw [applyFirst_length, applyFirst_length] at hanswer htexts
  exact ⟨hfirst, apply_predicted same told foretold ⟨site.tree, hpredicted.texts⟩ hanswer htexts⟩

end Run

/-- A disk on which a link leads to a directory with one file. -/
def linkedDisk : Disk :=
  ⟨[(["srv"], .directory), (["srv", "data"], .directory),
    (["srv", "data", "a"], .file (.text "Hi")), (["tree"], .link "/srv/./data")], []⟩

/-- A plan that edits the file and fails at a new one. -/
def halfwayPlan : List Change := [.remove ⟨"b/c"⟩ 1 2, .insert ⟨"a"⟩ 2 "!"]

/-- A run that is ready to apply the plan. -/
def halfwayRun : BlueprintRun FixedBlueprint :=
  ⟨⟨"halfway", "", [], true, [], none, none, none⟩, .prepared, Options.empty,
    some (ChangeCluster.ofChanges halfwayPlan)⟩

/-- The run on the disk, rooted at the link. -/
def halfwaySession : Session FixedBlueprint RootedDisk :=
  ⟨halfwayRun, ⟨linkedDisk, some ⟨"tree"⟩⟩⟩

/-- The link leads to the directory. -/
theorem linkedDisk_isAt : linkedDisk.IsAt ⟨"tree"⟩ ["srv", "data"] := by
  have hlink : linkedDisk.entry? ([] ++ ["tree"]) = some (.link "/srv/./data") := by decide
  have hlinked : Disk.Leads linkedDisk 39 [] ["", "srv", ".", "data"] 39 ["srv", "data"] :=
    .idle (.inl rfl) (.enter (Disk.IsName.isStep (by decide)) (by decide)
      (.idle (.inr rfl) (.enter (Disk.IsName.isStep (by decide)) (by decide) (.here 39 _))))
  have hleads : Disk.Leads linkedDisk 40 [] ["tree"] 39 ["srv", "data"] :=
    .jump (Disk.IsName.isStep (by decide)) hlink hlinked
  exact Disk.isAt_iff.mpr ⟨⟨by decide, by decide, by decide⟩, 39, hleads⟩

/-- The tree behind the link is a site for the targets of the plan. -/
theorem site_linkedDisk :
    linkedDisk.Site ⟨"tree"⟩ ["srv", "data"] (halfwayPlan.flatMap Change.targets) where
  leads := linkedDisk_isAt
  tree := by decide +kernel
  plain := by decide +kernel
  short := by decide +kernel
  apart := by decide +kernel
  notDirectory := by decide +kernel
  notThrough := by decide +kernel

/-- In memory the plan stops behind its first file. -/
theorem applyCluster_halfwayPlan :
    applyCluster (ChangeCluster.ofChanges halfwayPlan)
        (MemoryHost.withFiles (linkedDisk.filesBelow ["srv", "data"])) =
      .error (.outOfBounds ⟨"b/c"⟩ 1 0)
        ⟨⟨[(⟨"a"⟩, "Hi!"), (⟨"b/c"⟩, "")]⟩, [⟨"b/c"⟩, ⟨"a"⟩]⟩ := by
  have hsort : ChangeCluster.sort halfwayPlan = halfwayPlan.reverse :=
    ChangeCluster.sort_of_ascending (by decide)
  rw [ChangeCluster.ofChanges, hsort]
  rfl

/-- The plan edits the file behind the link and creates the other one before it fails, as the memory
tells. -/
theorem halfwaySession_is_predicted :
    Task.answer apply halfwaySession = .error (.change (.outOfBounds ⟨"b/c"⟩ 1 0)) ∧
      (Task.after apply halfwaySession).host.disk.textsBelow ["srv", "data"] [.name "a"] =
        some "Hi!" ∧
      (Task.after apply halfwaySession).host.disk.textsBelow ["srv", "data"]
        [.name "b", .name "c"] = some "" := by
  obtain ⟨-, hanswer, -, htexts⟩ := memory_predicts_disk site_linkedDisk
    (rfl : halfwayRun.state = halfwayRun.state) (cluster_of_known (.inl rfl) rfl)
    (cluster_of_known (.inl rfl) rfl)
  have happly := apply_of_prepared (rfl : halfwayRun.state = .prepared) rfl
    (cluster_of_known (.inl rfl) rfl : Session.cluster
      (⟨halfwayRun, .withFiles (linkedDisk.filesBelow ["srv", "data"])⟩ :
        Session FixedBlueprint MemoryHost) = _)
  rw [applyCluster_halfwayPlan] at happly
  have htold := htexts.texts
  rw [Task.after_of_error happly] at htold
  exact ⟨hanswer.trans (Task.answer_of_error happly), congrFun htold _, congrFun htold _⟩

end Session

end Scaffold
