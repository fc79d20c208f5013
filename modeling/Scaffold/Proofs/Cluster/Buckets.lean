import Scaffold.Change.Cluster
import Scaffold.Proofs.Change.Reach

/-!
# Buckets of a cluster

The bucket of a path holds exactly the changes that name its file, in the order of the cluster,
and the files of a cluster are those that its changes name.
-/

namespace Scaffold.ChangeCluster

/-- One more change goes into the bucket of its file. -/
theorem find?_addToBuckets (buckets : PathMap (List Change)) (change : Change) (path : Path) :
    (addToBuckets buckets change).find? path =
      if change.isOn path then some ((buckets.find? path).getD [] ++ [change])
      else buckets.find? path := by
  cases hp : change.path? with
  | none => simp only [addToBuckets, Change.isOn, hp, Bool.false_eq_true, if_false]
  | some own =>
    by_cases hs : own.same path = true
    · simp only [addToBuckets, Change.isOn, hp, hs, if_true]
      rw [PathMap.find?_insert_same _ _ hs, PathMap.find?_congr buckets hs]
    · simp only [addToBuckets, Change.isOn, hp, hs]
      rw [PathMap.find?_insert_other _ _ ((Bool.not_eq_true _).mp hs), if_neg Bool.false_ne_true]

/-- Changes are put behind what is in the bucket of their file. -/
theorem find?_foldl_addToBuckets (changes : List Change) (buckets : PathMap (List Change))
    (path : Path) :
    (changes.foldl addToBuckets buckets).find? path =
      if Change.on path changes = [] then buckets.find? path
      else some ((buckets.find? path).getD [] ++ Change.on path changes) := by
  induction changes generalizing buckets with
  | nil => rfl
  | cons change rest ih =>
    rw [List.foldl_cons, ih, find?_addToBuckets]
    cases hon : change.isOn path with
    | false => rw [Change.on_cons_of_not hon, if_neg Bool.false_ne_true]
    | true =>
      rw [Change.on_cons_of_isOn hon, if_pos rfl, if_neg (List.cons_ne_nil _ _)]
      split
      · next hnil => rw [hnil]
      · rw [Option.getD_some, List.append_assoc, List.singleton_append]

variable (generated : List Change)

/-- The bucket of a path, if its file is named at all. -/
theorem changesFor?_ofChanges (path : Path) :
    (ofChanges generated).changesFor? path =
      if Change.on path (sort generated) = [] then none
      else some (Change.on path (sort generated)) := by
  unfold changesFor? ofChanges
  rw [find?_foldl_addToBuckets, PathMap.find?_empty, Option.getD_none, List.nil_append]

/-- The changes of a file are those on it, in the order of the cluster. -/
theorem getD_changesFor?_ofChanges (path : Path) :
    ((ofChanges generated).changesFor? path).getD [] = Change.on path (sort generated) := by
  rw [changesFor?_ofChanges]
  split
  · next hnil => rw [hnil, Option.getD_none]
  · rfl

/-- A file is among those of the cluster, in some spelling, if a change names it. -/
theorem mem_files_ofChanges (path : Path) :
    (∃ file ∈ (ofChanges generated).files, file.same path = true) ↔
      Change.on path (sort generated) ≠ [] := by
  have hkeys := PathMap.at?_isSome (ofChanges generated).buckets path.components
  rw [← PathMap.find?_eq_at?] at hkeys
  have hbucket := changesFor?_ofChanges generated path
  unfold changesFor? at hbucket
  simp only [Path.same_iff]
  unfold files
  rw [← hkeys, hbucket]
  split
  · next hnil => simp [hnil]
  · next hne => simp [hne]

/-- Every file of the cluster is spelled as a change names it. -/
theorem exists_change_of_mem_files {file : Path} (h : file ∈ (ofChanges generated).files) :
    ∃ change ∈ generated, change.path? = some file := by
  have hfold : ∀ (changes : List Change) (buckets : PathMap (List Change)),
      file ∈ (changes.foldl addToBuckets buckets).keys →
        file ∈ buckets.keys ∨ ∃ change ∈ changes, change.path? = some file := by
    intro changes
    induction changes with
    | nil => exact fun buckets hm => .inl hm
    | cons change rest ih =>
      intro buckets hm
      obtain hkey | ⟨other, hother, hpath⟩ := ih _ hm
      · rw [addToBuckets] at hkey
        split at hkey
        · next path hpath =>
          obtain rfl | hold := PathMap.mem_keys_insertIn hkey
          · exact .inr ⟨change, List.mem_cons_self, hpath⟩
          · exact .inl hold
        · exact .inl hkey
      · exact .inr ⟨other, List.mem_cons_of_mem _ hother, hpath⟩
  obtain hempty | ⟨change, hm, hpath⟩ := hfold _ _ h
  · cases hempty
  · exact ⟨change, List.mem_mergeSort.mp hm |> List.mem_reverse.mp, hpath⟩

end Scaffold.ChangeCluster
