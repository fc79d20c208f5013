import Scaffold.Blueprint
import Scaffold.Proofs.Cluster.Offsets
import Scaffold.Proofs.Lifecycle.Applying
import Scaffold.Proofs.Result

/-!
# Plans that create files

A file is created by putting its text at the start of what is absent. Several texts for one file
are put in one behind the other as they were planned, and no other file changes.
-/

namespace Scaffold

open Text

namespace Edit

/-- Texts put in at the start of nothing follow each other in the order of the edits. -/
theorem simultaneous_inserts (texts : List String) :
    simultaneous (texts.map (insert 0)) [] = texts.flatMap String.toList := by
  have hstarts : (texts.map (insert 0)).filter (startsAt 0) = texts.map (insert 0) := by
    rw [List.filter_eq_self]
    intro edit hedit
    obtain ⟨text, -, rfl⟩ := List.mem_map.mp hedit
    rfl
  rw [simultaneous, simultaneousFrom, textsAt, hstarts, List.flatMap_map]
  rfl

/-- Texts can be put in at the start of nothing. -/
theorem compatible_inserts (texts : List String) : Compatible [] (texts.map (insert 0)) where
  valid edit hedit := by
    obtain ⟨text, -, rfl⟩ := List.mem_map.mp hedit
    exact ⟨Nat.le_refl _, rfl, rfl⟩
  disjoint := List.pairwise_map.mpr (List.pairwise_of_forall fun _ _ => .inl (Nat.le_refl _))
  ties := List.pairwise_map.mpr
    (List.pairwise_of_forall fun _ _ _ h => absurd h (UInt64.lt_irrefl 0))

end Edit

namespace Change

/-- The changes that create files with their texts. -/
def creations (files : List (Path × String)) : List Change :=
  files.map fun file => insert file.1 0 file.2

/-- The text of the files that are the one at the path, one behind the other. -/
def createdText (files : List (Path × String)) (path : Path) : String :=
  String.join ((files.filter (·.1.same path)).map Prod.snd)

/-- The creations of one file. -/
theorem on_creations (files : List (Path × String)) (path : Path) :
    on path (creations files) = creations (files.filter (·.1.same path)) := by
  rw [on, creations, creations, List.filter_map]
  rfl

/-- Creations are on a file only if it is one of those created. -/
theorem on_creations_eq_nil_iff {files : List (Path × String)} {path : Path} :
    on path (creations files) = [] ↔ ¬∃ file ∈ files, file.1.same path = true := by
  rw [on_creations, creations, List.map_eq_nil_iff, List.filter_eq_nil_iff]
  simp only [not_exists, not_and]

/-- Where a file is absent, its creations make its text. -/
theorem applyAll_creations {files : List (Path × String)} {generated : List Change} {path : Path}
    (hbucket : on path generated = on path (creations files)) :
    applyAll (on path (ChangeCluster.sort generated)) (⟨""⟩ : SoleFile) =
      .ok () ⟨createdText files path⟩ := by
  have hcreations := hbucket.trans (on_creations files path)
  have hplain : ∀ change ∈ on path generated, change.IsPlain := by
    rw [hcreations]
    intro change hchange
    obtain ⟨file, -, rfl⟩ := List.mem_map.mp hchange
    exact rfl
  have hedits : editsOn path generated =
      ((files.filter (·.1.same path)).map Prod.snd).map (Edit.insert 0) := by
    rw [editsOn, hcreations, creations, List.filterMap_map, List.map_map]
    exact congrFun (List.filterMap_eq_map (f := fun file : Path × String => Edit.insert 0 file.2)) _
  have hempty : byteLength ("" : String).toList < 2 ^ 63 := by decide
  have happly := applyAll_on_sort_sole hplain hempty
    (Edit.compatible_inserts ((files.filter (·.1.same path)).map Prod.snd))
    (fun position => by rw [hedits])
  have htext : String.ofList (Edit.simultaneous
      (((files.filter (·.1.same path)).map Prod.snd).map (Edit.insert 0)) ("" : String).toList) =
      createdText files path := by
    apply String.toList_inj.mp
    rw [String.toList_ofList, createdText, String.toList_join]
    exact Edit.simultaneous_inserts _
  rw [happly, htext]

/-- The text of a file that no other one is. -/
theorem createdText_of_sole {files : List (Path × String)} {file : Path × String}
    (distinct : (files.map fun file => file.1.components).Nodup) (hfile : file ∈ files) :
    createdText files file.1 = file.2 := by
  have honly : files.filter (·.1.same file.1) = [file] := by
    induction files with
    | nil => cases hfile
    | cons first rest ih =>
      obtain ⟨hfirst, hrest⟩ := List.nodup_cons.mp distinct
      rcases List.mem_cons.mp hfile with rfl | hfile
      · have hothers : rest.filter (·.1.same file.1) = [] := by
          rw [List.filter_eq_nil_iff]
          intro other hother hsame
          exact hfirst (List.mem_map.mpr ⟨other, hother, Path.same_iff.mp hsame⟩)
        rw [List.filter_cons, if_pos file.1.same_self, hothers]
      · have hother : ¬first.1.same file.1 = true := fun hsame =>
          hfirst (List.mem_map.mpr ⟨file, hfile, (Path.same_iff.mp hsame).symm⟩)
        rw [List.filter_cons, if_neg hother, ih hrest hfile]
  rw [createdText, honly]
  exact String.toList_inj.mp (by simp)

end Change

namespace Session

/-- A plan whose buckets can all be applied is applied, and leaves of each file that it names what
the bucket makes of it. -/
theorem applyCluster_of_buckets {generated : List Change} {contents : Contents}
    {revised : Path → String}
    (h : ∀ path, Change.on path generated ≠ [] →
      Change.applyAll (Change.on path (ChangeCluster.sort generated)) (contents.sole path) =
        .ok () ⟨revised path⟩) :
    ∃ left, applyCluster (ChangeCluster.ofChanges generated) contents = .ok () left ∧
      ∀ path : Path, left path.components =
        if Change.on path generated = [] then contents path.components
        else some (revised path) := by
  have hnamed : ∀ path, Change.on path (ChangeCluster.sort generated) ≠ [] ↔
      Change.on path generated ≠ [] := by
    intro path
    have hperm := (ChangeCluster.sort_perm generated).filter (Change.isOn path)
    rw [Change.on, Change.on, ← List.length_pos_iff, hperm.length_eq, List.length_pos_iff]
  have hfiles := ChangeCluster.mem_files_ofChanges generated
  obtain ⟨⟨⟩, left, hleft⟩ := Task.succeeds_iff.mp ((applyCluster_succeeds_iff contents).mpr
    fun file hfile => by
      have hbucket := h file ((hnamed file).mp ((hfiles file).mp ⟨file, hfile, file.same_self⟩))
      rw [Task.succeeds, hbucket])
  refine ⟨left, hleft, fun path => ?_⟩
  split
  case isTrue hnone =>
    have hother : ∀ file ∈ (ChangeCluster.ofChanges generated).files, file.same path = false := by
      intro file hfile
      rw [Bool.eq_false_iff]
      intro hsame
      exact (hnamed path).mp ((hfiles path).mp ⟨file, hfile, hsame⟩) hnone
    have hkept := @after_applyCluster_other generated contents path hother
    rw [Task.after_of_ok hleft] at hkept
    exact hkept
  case isFalse hsome =>
    obtain ⟨file, hfile, hsame⟩ := (hfiles path).mpr ((hnamed path).mpr hsome)
    obtain ⟨text, hbucket, htext⟩ := applyCluster_of_mem hleft hfile
    rw [Change.on_congr hsame, Contents.sole_congr hsame, h path hsome] at hbucket
    rw [← Path.same_iff.mp hsame, htext]
    exact congrArg (some ∘ SoleFile.text) (EStateM.Result.ok.inj hbucket).2.symm

variable {ω : Type} [FileHost ω] [ContentHost ω]

/-- Applying a plan to a host of contents succeeds where it does on the contents, and leaves the
same. -/
theorem applyCluster_of_contents {cluster : ChangeCluster} {host : ω} {contents : Contents}
    (h : applyCluster cluster (ContentHost.contents host) = .ok () contents) :
    ∃ left, applyCluster cluster host = .ok () left ∧ ContentHost.contents left = contents := by
  have hmirrors := mirrors_applyCluster (ω := ω) cluster host
  rw [h] at hmirrors
  cases hr : (applyCluster cluster : Task ChangeError ω Unit) host with
  | error error left =>
    rw [hr] at hmirrors
    cases hmirrors
  | ok _ left =>
    rw [hr] at hmirrors
    exact ⟨left, rfl, (EStateM.Result.ok.inj hmirrors).2⟩

omit [ContentHost ω] in
/-- What is read of an absent file alone is nothing. -/
theorem sole_of_absent {contents : Contents} {path : Path} (h : contents path.components = none) :
    contents.sole path = ⟨""⟩ := by
  rw [Contents.sole, Contents.text, h]
  rfl

/-- Where there is nothing, nothing is held. -/
theorem contents_of_absent {host : ω} {path : Path} (h : FileHost.has path host = false) :
    ContentHost.contents host path.components = none := by
  rw [← ContentHost.has_contents] at h
  exact Option.isSome_eq_false_iff.mp h |> Option.isNone_iff_eq_none.mp

/-- Where files are absent, the bucket of one of them that only creates it makes its text. -/
theorem applyAll_creations_of_absent {host : ω} {files : List (Path × String)}
    (absent : ∀ file ∈ files, FileHost.has file.1 host = false) {generated : List Change}
    {path : Path} (hbucket : Change.on path generated = Change.on path (Change.creations files))
    (hsome : ∃ file ∈ files, file.1.same path = true) :
    Change.applyAll (Change.on path (ChangeCluster.sort generated))
      ((ContentHost.contents host).sole path) = .ok () ⟨Change.createdText files path⟩ := by
  obtain ⟨file, hfile, hsame⟩ := hsome
  have hnone := contents_of_absent (absent file hfile)
  rw [Path.same_iff.mp hsame] at hnone
  rw [sole_of_absent hnone]
  exact Change.applyAll_creations hbucket

/-- Files that are absent are created with their texts, those of one file one behind the other, and
no other file changes. -/
theorem applyCluster_creations {host : ω} {files : List (Path × String)}
    (absent : ∀ file ∈ files, FileHost.has file.1 host = false) :
    ∃ left, applyCluster (ChangeCluster.ofChanges (Change.creations files)) host = .ok () left ∧
      ∀ path : Path, ContentHost.contents left path.components =
        if ∃ file ∈ files, file.1.same path = true then some (Change.createdText files path)
        else ContentHost.contents host path.components := by
  have hbuckets : ∀ path, Change.on path (Change.creations files) ≠ [] →
      Change.applyAll (Change.on path (ChangeCluster.sort (Change.creations files)))
        ((ContentHost.contents host).sole path) =
          .ok () ⟨Change.createdText files path⟩ := fun path hsome =>
    applyAll_creations_of_absent absent rfl
      (not_not.mp (mt Change.on_creations_eq_nil_iff.mpr hsome))
  obtain ⟨contents, happlied, hcontents⟩ := applyCluster_of_buckets hbuckets
  obtain ⟨left, hleft, hview⟩ := applyCluster_of_contents happlied
  refine ⟨left, hleft, fun path => ?_⟩
  rw [hview, hcontents]
  by_cases hexists : ∃ file ∈ files, file.1.same path = true
  · rw [if_pos hexists, if_neg fun hnil => Change.on_creations_eq_nil_iff.mp hnil hexists]
  · rw [if_neg hexists, if_pos (Change.on_creations_eq_nil_iff.mpr hexists)]

end Session

section Creating

variable {ω α : Type} [FileHost ω]

/-- A file is created only where nothing is. -/
theorem createFile_eq_ok_iff {host : ω} {path : Path} {content : String} {change : Change} :
    createFile host path content = .ok change ↔
      FileHost.has path host = false ∧ change = Change.insert path 0 content := by
  unfold createFile
  cases FileHost.has path host with
  | true => exact ⟨nofun, fun h => nomatch h.1⟩
  | false => exact ⟨fun h => ⟨rfl, (Except.ok.inj h).symm⟩, fun h => congrArg Except.ok h.2.symm⟩

/-- Files that are created one for each item are all absent, and the changes create them. -/
theorem exists_creations {host : ω} {step : α → Except BlueprintError Change}
    {made : α → Path × String → Prop} {items : List α} {changes : List Change}
    (hstep : ∀ item change, step item = .ok change →
      ∃ file, made item file ∧ createFile host file.1 file.2 = .ok change)
    (h : items.mapM step = .ok changes) :
    ∃ files, List.Forall₂ made items files ∧ (∀ file ∈ files, FileHost.has file.1 host = false) ∧
      changes = Change.creations files := by
  have hsteps := forall₂_of_mapM_eq_ok h
  clear h
  induction hsteps with
  | nil => exact ⟨[], .nil, nofun, rfl⟩
  | @cons item change items changes hfirst _ ih =>
    obtain ⟨files, hmade, habsent, hchanges⟩ := ih
    obtain ⟨file, hfile, hcreate⟩ := hstep item change hfirst
    obtain ⟨hnone, hchange⟩ := createFile_eq_ok_iff.mp hcreate
    refine ⟨file :: files, .cons hfile hmade, List.forall_mem_cons.mpr ⟨hnone, habsent⟩, ?_⟩
    rw [hchange, hchanges]
    rfl

/-- Where they are all absent, files can be created one for each item. -/
theorem mapM_eq_creations {host : ω} {step : α → Except BlueprintError Change} {items : List α}
    {files : List (Path × String)}
    (hsteps : List.Forall₂ (fun item file => step item = createFile host file.1 file.2) items files)
    (habsent : ∀ file ∈ files, FileHost.has file.1 host = false) :
    items.mapM step = .ok (Change.creations files) := by
  induction hsteps with
  | nil => rfl
  | @cons item file items files hstep _ ih =>
    obtain ⟨hnone, habsent⟩ := List.forall_mem_cons.mp habsent
    rw [List.mapM_cons, hstep, createFile_eq_ok_iff.mpr ⟨hnone, rfl⟩, ih habsent]
    rfl

/-- Files are created if and only if all of them are absent. -/
theorem mapM_createFile_eq_ok_iff {host : ω} {files : List (Path × String)}
    {changes : List Change} :
    files.mapM (fun file => createFile host file.1 file.2) = .ok changes ↔
      (∀ file ∈ files, FileHost.has file.1 host = false) ∧ changes = Change.creations files := by
  constructor
  · intro h
    have hstep : ∀ file change, createFile host file.1 file.2 = .ok change →
        ∃ other : Path × String, Eq file other ∧ createFile host other.1 other.2 = .ok change :=
      fun file _ hcreate => ⟨file, rfl, hcreate⟩
    obtain ⟨made, hmade, habsent, hchanges⟩ := exists_creations hstep h
    rw [List.forall₂_eq_eq_eq] at hmade
    subst hmade
    exact ⟨habsent, hchanges⟩
  · rintro ⟨habsent, rfl⟩
    exact mapM_eq_creations (List.forall₂_same.mpr fun _ _ => rfl) habsent

end Creating

end Scaffold
