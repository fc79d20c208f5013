import Scaffold.Blueprint.Lifecycle
import Scaffold.Proofs.Cluster.Buckets

/-!
# Applying a plan

Applying a plan creates its files and then applies all its changes in one order. What it leaves of
a file is what the bucket of that file makes of it alone, and a plan can be applied exactly if
each of its buckets can. Files that the plan does not name stay as they are, also if they are
absent.
-/

namespace Scaffold

namespace Contents

/-- Of files created empty, those that were absent are empty and the others as they were. -/
theorem foldl_touch_apply (paths : List Path) (contents : Contents)
    (components : List PathComponent) :
    paths.foldl touch contents components =
      if (∃ path ∈ paths, path.components = components) ∧ contents components = none then some ""
      else contents components := by
  induction paths generalizing contents with
  | nil => simp
  | cons path rest ih =>
    rw [List.foldl_cons, ih, touch_apply]
    cases hc : contents components with
    | some content => simp
    | none =>
      by_cases hp : path.components = components
      · simp [hp]
      · simp [hp]

/-- Touching files leaves every text as it is. -/
theorem text_foldl_touch (paths : List Path) (contents : Contents) (path : Path) :
    text (paths.foldl touch contents) path = contents.text path := by
  unfold text
  rw [foldl_touch_apply]
  split
  · next h => rw [h.2, Option.getD_some, Option.getD_none]
  · rfl

/-- Creating files empty is not seen by reading one. -/
theorem sole_foldl_touch (paths : List Path) (contents : Contents) (path : Path) :
    sole path (paths.foldl touch contents) = contents.sole path :=
  congrArg SoleFile.mk (text_foldl_touch paths contents path)

/-- Paths that lead to the same file show the same content. -/
theorem sole_congr {left right : Path} (h : left.same right = true) (contents : Contents) :
    contents.sole left = contents.sole right := by
  rw [sole, sole, text, text, Path.same_iff.mp h]

end Contents

namespace Session

/-- Contents that are ensured one by one are touched one by one. -/
theorem ensureFiles_contents (paths : List Path) (contents : Contents) :
    ensureFiles paths contents = .ok () (paths.foldl Contents.touch contents) := by
  induction paths generalizing contents with
  | nil => rfl
  | cons path rest ih => exact ih (contents.touch path)

/-- On contents, applying a plan is applying its changes where its files are created. -/
theorem applyCluster_contents (generated : List Change) (contents : Contents) :
    applyCluster (ChangeCluster.ofChanges generated) contents =
      Change.applyAll (ChangeCluster.sort generated)
        ((ChangeCluster.ofChanges generated).files.foldl Contents.touch contents) :=
  Task.bind_of_ok (ensureFiles_contents (ChangeCluster.ofChanges generated).files contents)

section Mirroring

variable {ω : Type} [FileHost ω] [ContentHost ω]

/-- Files are ensured on a host as on its contents. -/
theorem mirrors_ensureFiles (paths : List Path) :
    Task.Mirrors (ContentHost.contents : ω → Contents) (ensureFiles paths) (ensureFiles paths) := by
  induction paths with
  | nil => exact Task.mirrors_pure _ ()
  | cons path rest ih => exact Task.mirrors_bind (ContentHost.mirrors_ensureFile path) fun _ => ih

/-- Applying a plan does to the contents of a host what it does to contents. -/
theorem mirrors_applyCluster (cluster : ChangeCluster) :
    Task.Mirrors (ContentHost.contents : ω → Contents) (applyCluster cluster)
      (applyCluster cluster) := by
  apply Task.mirrors_bind (mirrors_ensureFiles cluster.files)
  intro _
  exact Change.mirrors_applyAll fun _ _ path _ => ContentHost.mirrorsFile path

end Mirroring

variable {generated : List Change}

/-- A plan can be applied exactly if each of its buckets can be applied to its file alone. -/
theorem applyCluster_succeeds_iff (contents : Contents) :
    (applyCluster (ChangeCluster.ofChanges generated)).succeeds contents = true ↔
      ∀ file ∈ (ChangeCluster.ofChanges generated).files,
        (Change.applyAll (Change.on file (ChangeCluster.sort generated))).succeeds
          (contents.sole file) = true := by
  have happly := applyCluster_contents generated contents
  have hiff := Change.applyAll_succeeds_iff (ChangeCluster.sort generated)
    ((ChangeCluster.ofChanges generated).files.foldl Contents.touch contents)
  simp only [Contents.sole_foldl_touch] at hiff
  have hsucceeds : (applyCluster (ChangeCluster.ofChanges generated)).succeeds contents =
      (Change.applyAll (ChangeCluster.sort generated)).succeeds
        ((ChangeCluster.ofChanges generated).files.foldl Contents.touch contents) := by
    rw [Task.succeeds, happly, Task.succeeds]
  rw [hsucceeds, hiff]
  constructor
  · intro h file hm
    exact h file ((ChangeCluster.mem_files_ofChanges generated file).mp ⟨file, hm, file.same_self⟩)
  · intro h path hne
    obtain ⟨file, hm, hs⟩ := (ChangeCluster.mem_files_ofChanges generated path).mpr hne
    rw [← Change.on_congr hs, ← Contents.sole_congr hs]
    exact h file hm

/-- A plan that was applied left of each of its files what the bucket makes of it. -/
theorem applyCluster_of_mem {contents left : Contents}
    (h : applyCluster (ChangeCluster.ofChanges generated) contents = .ok () left) {file : Path}
    (hm : file ∈ (ChangeCluster.ofChanges generated).files) :
    ∃ text, Change.applyAll (Change.on file (ChangeCluster.sort generated)) (contents.sole file) =
      .ok () ⟨text⟩ ∧ left file.components = some text := by
  rw [applyCluster_contents] at h
  have hbucket := Change.applyAll_sole_of_ok h file
  rw [Contents.sole_foldl_touch] at hbucket
  have hcreated : ((ChangeCluster.ofChanges generated).files.foldl Contents.touch contents
      file.components).isSome = true := by
    rw [Contents.foldl_touch_apply]
    split
    · rfl
    · next hn =>
      rw [Option.isSome_iff_ne_none]
      exact fun hnone => hn ⟨⟨file, hm, rfl⟩, hnone⟩
  have hkept : Task.Keeps (fun left : Contents => (left file.components).isSome = true)
      (Change.applyAll (ChangeCluster.sort generated)) :=
    Change.keeps_applyAll fun _ _ own _ => Contents.keepsFile_present own file.components
  obtain ⟨text, htext⟩ := Option.isSome_iff_exists.mp (hkept.of_ok h hcreated)
  refine ⟨text, ?_, htext⟩
  rw [hbucket, Contents.sole, Contents.text, htext, Option.getD_some]

/-- Applying a plan, also in vain, leaves the files that it does not name. -/
theorem after_applyCluster_other {contents : Contents} {path : Path}
    (h : ∀ file ∈ (ChangeCluster.ofChanges generated).files, file.same path = false) :
    Task.after (applyCluster (ChangeCluster.ofChanges generated)) contents path.components =
      contents path.components := by
  have hnone : Change.on path (ChangeCluster.sort generated) = [] := by
    by_contra hne
    obtain ⟨file, hm, hs⟩ := (ChangeCluster.mem_files_ofChanges generated path).mpr hne
    rw [h file hm] at hs
    cases hs
  have hcreated : (ChangeCluster.ofChanges generated).files.foldl Contents.touch contents
      path.components = contents path.components := by
    rw [Contents.foldl_touch_apply, if_neg]
    rintro ⟨⟨file, hm, hc⟩, _⟩
    have hother := h file hm
    rw [Path.same_iff.mpr hc] at hother
    cases hother
  have hkept : Task.Keeps (fun left : Contents => left path.components = contents path.components)
      (Change.applyAll (ChangeCluster.sort generated)) := by
    apply Change.keeps_applyAll
    intro change hm own hown
    apply Contents.keepsFile_other
    intro hc
    rw [Change.isOn_congr (Path.same_iff.mpr hc)] at hown
    exact List.filter_eq_nil_iff.mp hnone change hm hown
  rw [Task.after, applyCluster_contents]
  exact hkept _ hcreated

/-- A host holds of a file that the plan does not name what it held before. -/
theorem contents_applyCluster_other {ω : Type} [FileHost ω] [ContentHost ω] {host left : ω}
    (h : applyCluster (ChangeCluster.ofChanges generated) host = .ok () left) {path : Path}
    (hother : ∀ file ∈ (ChangeCluster.ofChanges generated).files, file.same path = false) :
    ContentHost.contents left path.components = ContentHost.contents host path.components := by
  have hmirrors := @mirrors_applyCluster ω _ _ (ChangeCluster.ofChanges generated)
  have hkept := @after_applyCluster_other generated (ContentHost.contents host) path hother
  rw [Task.after_of_ok (hmirrors.of_ok h)] at hkept
  exact hkept

end Session

end Scaffold
