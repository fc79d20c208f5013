import Mathlib.Data.List.Perm.Basic
import Scaffold.Proofs.Cluster.Buckets
import Scaffold.Proofs.Cluster.Order

/-!
# The partition of a cluster

A cluster holds its changes twice: as one list in the order of application, and cut into the
buckets of the files and the changes without a file. The files are the paths that the changes name,
each under its first spelling, and every change stands in exactly one of the parts, so the parts
merged by position are the list again.
-/

namespace Scaffold

namespace PathMap

variable {α : Type}

/-- Setting an entry adds a key only for a path without one, and then behind the others. -/
theorem keys_insert (map : PathMap α) (path : Path) (value : α) :
    (map.insert path value).keys =
      if map.contains path then map.keys else map.keys ++ [path] := by
  obtain ⟨entries⟩ := map
  unfold contains find? keys insert
  simp only
  induction entries with
  | nil => rfl
  | cons entry rest ih =>
    obtain ⟨key, held⟩ := entry
    by_cases hs : key.same path = true
    · simp only [insertIn, findIn?, if_pos hs, List.map_cons, Option.isSome_some, if_true]
    · simp only [insertIn, findIn?, if_neg hs, List.map_cons, ih]
      split <;> rfl

/-- A path that has an entry has it in every spelling. -/
theorem contains_congr (map : PathMap α) {path other : Path} (hs : path.same other = true) :
    map.contains path = map.contains other := by
  unfold contains
  rw [find?_congr map hs]

/-- A map contains what is inserted, and what it contained. -/
theorem contains_insert (map : PathMap α) (path other : Path) (value : α) :
    (map.insert path value).contains other = (path.same other || map.contains other) := by
  unfold contains
  cases hs : path.same other with
  | true => rw [find?_insert_same map value hs, Option.isSome_some, Bool.true_or]
  | false => rw [find?_insert_other map value hs, Bool.false_or]

end PathMap

namespace Change

/-- The paths that changes name, in their order. -/
def named (changes : List Change) : List Path := changes.filterMap path?

/-- A change names no file, or one. -/
theorem isOn_iff {path : Path} {change : Change} :
    change.isOn path = true ↔ ∃ own, change.path? = some own ∧ own.same path = true := by
  cases h : change.path? with
  | none => simp [isOn, h]
  | some own => simp [isOn, h]

end Change

/-- Where no member has both of two properties, those that have the second are among those that
lack the first. -/
theorem filter_filter_not_of_apart {α : Type} {first second : α → Bool} {members : List α}
    (apart : ∀ member ∈ members, first member = true → second member = false) :
    (members.filter fun member => !first member).filter second = members.filter second := by
  rw [List.filter_filter]
  apply List.filter_congr
  intro member hm
  cases hfirst : first member with
  | false => rw [Bool.not_false, Bool.and_true]
  | true => rw [apart member hm hfirst, Bool.false_and]

/-- Members of a list of which each has exactly one of several properties, taken property by
property, are the members of the list. -/
theorem perm_flatMap_filter {α : Type} {kinds : List (α → Bool)} {members : List α}
    (apart : kinds.Pairwise fun first second =>
      ∀ member ∈ members, first member = true → second member = false)
    (covered : ∀ member ∈ members, ∃ kind ∈ kinds, kind member = true) :
    (kinds.flatMap fun kind => members.filter kind).Perm members := by
  induction kinds generalizing members with
  | nil =>
    have hnone : members = [] := by
      apply List.eq_nil_iff_forall_not_mem.mpr
      intro member hm
      obtain ⟨kind, hkind, _⟩ := covered member hm
      cases hkind
    rw [hnone]
    exact .nil
  | cons kind rest ih =>
    obtain ⟨hfirst, hrest⟩ := List.pairwise_cons.mp apart
    have hothers : ∀ member ∈ members.filter (fun member => !kind member),
        member ∈ members ∧ kind member = false := by
      intro member hm
      obtain ⟨hmember, hnot⟩ := List.mem_filter.mp hm
      exact ⟨hmember, (Bool.not_eq_eq_eq_not.mp hnot)⟩
    have hlater : ∀ other ∈ rest,
        members.filter other = (members.filter fun member => !kind member).filter other :=
      fun other hother => (filter_filter_not_of_apart (hfirst other hother)).symm
    have hcovered : ∀ member ∈ members.filter (fun member => !kind member),
        ∃ other ∈ rest, other member = true := by
      intro member hm
      obtain ⟨hmember, hnot⟩ := hothers member hm
      obtain ⟨other, hother, hhas⟩ := covered member hmember
      obtain rfl | hother := List.mem_cons.mp hother
      · rw [hnot] at hhas
        cases hhas
      · exact ⟨other, hother, hhas⟩
    have hperm := ih (hrest.imp fun h member hm => h member (hothers member hm).1) hcovered
    rw [List.flatMap_cons, List.flatMap_congr hlater]
    exact (List.Perm.append_left _ hperm).trans (List.filter_append_perm kind members)

namespace ChangeCluster

/-- Buckets get a key for each path that had none, under its first spelling. -/
theorem keys_foldl_addToBuckets (changes : List Change) (buckets : PathMap (List Change)) :
    (changes.foldl addToBuckets buckets).keys =
      buckets.keys ++ ((Change.named changes).filter fun path =>
        !buckets.contains path).eraseDupsBy Path.same := by
  induction changes generalizing buckets with
  | nil => rw [List.foldl_nil, Change.named, List.filterMap_nil, List.filter_nil,
      List.eraseDupsBy_nil, List.append_nil]
  | cons change rest ih =>
    rw [List.foldl_cons, ih]
    cases hp : change.path? with
    | none =>
      have hnamed : Change.named (change :: rest) = Change.named rest :=
        List.filterMap_cons_none hp
      rw [hnamed]
      unfold addToBuckets
      rw [hp]
    | some own =>
      have hnamed : Change.named (change :: rest) = own :: Change.named rest :=
        List.filterMap_cons_some hp
      unfold addToBuckets
      rw [hp, hnamed]
      simp only
      rw [PathMap.keys_insert]
      simp only [PathMap.contains_insert]
      cases hc : buckets.contains own with
      | true =>
        have hsame : ∀ path, (!(own.same path || buckets.contains path)) =
            !buckets.contains path := by
          intro path
          cases hs : own.same path with
          | false => rw [Bool.false_or]
          | true => rw [← PathMap.contains_congr buckets hs, hc, Bool.true_or]
        rw [if_pos rfl, List.filter_cons_of_neg (by rw [hc]; exact Bool.false_ne_true)]
        simp only [hsame]
      | false =>
        rw [if_neg Bool.false_ne_true, List.filter_cons_of_pos (by rw [hc]; rfl),
          List.eraseDupsBy_cons, List.append_assoc, List.singleton_append, List.filter_filter]
        congr 3
        apply List.filter_congr
        intro path _
        rw [Path.same_comm path own, Bool.not_or]
        cases own.same path <;> rfl

/-- The files of a cluster are the paths that its changes name, each once, in the order and
spelling of their first appearance. -/
theorem files_ofChanges (generated : List Change) :
    (ofChanges generated).files = (Change.named (sort generated)).eraseDupsBy Path.same := by
  unfold files ofChanges
  rw [keys_foldl_addToBuckets]
  have hnone : ∀ path, (PathMap.empty : PathMap (List Change)).contains path = false :=
    fun _ => rfl
  simp only [hnone, Bool.not_false, List.filter_true]
  rfl

variable (generated : List Change)

/-- No two files of a cluster are the same path. -/
theorem files_ofChanges_pairwise :
    (ofChanges generated).files.Pairwise fun first second => first.same second = false := by
  have hfold : ∀ (changes : List Change) (buckets : PathMap (List Change)),
      buckets.Distinct → (changes.foldl addToBuckets buckets).Distinct := by
    intro changes
    induction changes with
    | nil => exact fun _ h => h
    | cons change rest ih =>
      intro buckets h
      apply ih
      unfold addToBuckets
      cases change.path? with
      | none => exact h
      | some own => exact PathMap.distinct_insert h own _
  have hdistinct := hfold (sort generated) PathMap.empty List.nodup_nil
  refine (List.pairwise_map.mp hdistinct).imp fun {first second} hne => ?_
  rw [← Bool.not_eq_true, Path.same_iff]
  exact hne

/-- Every spelling of the path of a file has the bucket of the file, and no other path has one. -/
theorem changesFor?_ofChanges_eq (path : Path) :
    (ofChanges generated).changesFor? path =
      if (ofChanges generated).files.any (·.same path) then
        some (Change.on path (ofChanges generated).changes)
      else none := by
  have hfiles := mem_files_ofChanges generated path
  rw [← List.any_eq_true] at hfiles
  rw [changesFor?_ofChanges]
  by_cases hnil : Change.on path (sort generated) = []
  · rw [if_pos hnil, if_neg (fun h => hfiles.mp h hnil)]
  · rw [if_neg hnil, if_pos (hfiles.mpr hnil)]
    rfl

/-- Each file is visited once, with the changes that name it. -/
theorem changesByFile_ofChanges :
    (ofChanges generated).changesByFile =
      (ofChanges generated).files.map fun file =>
        (file, Change.on file (ofChanges generated).changes) := by
  unfold changesByFile
  rw [← List.filterMap_eq_map]
  apply List.filterMap_congr
  intro file hm
  have hany : (ofChanges generated).files.any (·.same file) = true :=
    List.any_eq_true.mpr ⟨file, hm, file.same_self⟩
  rw [changesFor?_ofChanges_eq, if_pos hany]
  rfl

/-- The kinds of changes in the parts of a cluster: those without a file and those of each file. -/
def kinds (cluster : ChangeCluster) : List (Change → Bool) :=
  (·.path?.isNone) :: cluster.files.map Change.isOn

/-- No change is of two kinds. -/
theorem kinds_pairwise : (kinds (ofChanges generated)).Pairwise fun first second =>
    ∀ change : Change, first change = true → second change = false := by
  refine List.pairwise_cons.mpr ⟨?_, List.pairwise_map.mpr ?_⟩
  · intro kind hkind change hnone
    obtain ⟨file, _, rfl⟩ := List.mem_map.mp hkind
    rw [Option.isNone_iff_eq_none] at hnone
    simp only [Change.isOn, hnone]
  · refine (files_ofChanges_pairwise generated).imp fun {first second} hother change hon => ?_
    by_contra hsecond
    rw [Change.same_of_isOn hon ((Bool.not_eq_false _).mp hsecond)] at hother
    cases hother

/-- Every change is of some kind. -/
theorem exists_kind {change : Change} (h : change ∈ (ofChanges generated).changes) :
    ∃ kind ∈ kinds (ofChanges generated), kind change = true := by
  cases hp : change.path? with
  | none => exact ⟨_, List.mem_cons_self, by rw [hp]; rfl⟩
  | some own =>
    have hon : change.isOn own = true := Change.isOn_iff.mpr ⟨own, hp, own.same_self⟩
    have hne : Change.on own (sort generated) ≠ [] :=
      List.ne_nil_of_mem (List.mem_filter.mpr ⟨h, hon⟩)
    obtain ⟨file, hm, hs⟩ := (mem_files_ofChanges generated own).mpr hne
    refine ⟨Change.isOn file, List.mem_cons_of_mem _ (List.mem_map_of_mem hm), ?_⟩
    rw [Change.isOn_congr hs]
    exact hon

/-- The parts of a cluster: the changes without a file and the buckets of the files. -/
def parts (cluster : ChangeCluster) : List (List Change) :=
  cluster.other :: cluster.changesByFile.map Prod.snd

/-- The parts of a cluster are its changes by kind. -/
theorem parts_ofChanges :
    parts (ofChanges generated) =
      (kinds (ofChanges generated)).map fun kind => (ofChanges generated).changes.filter kind := by
  rw [parts, changesByFile_ofChanges, List.map_map, kinds, List.map_cons, List.map_map]
  rfl

/-- Lists of members with their positions, merged by position. -/
def mergePlaced (placed : List (List (Change × Nat))) : List (Change × Nat) :=
  placed.flatten.mergeSort fun first second => decide (first.2 ≤ second.2)

/-- The members of a list stand in the order of their positions. -/
theorem zipIdx_pairwise (changes : List Change) :
    changes.zipIdx.Pairwise fun first second => first.2 < second.2 := by
  have hplaces : (changes.zipIdx.map Prod.snd).Pairwise (· < ·) := by
    rw [List.zipIdx_map_snd]
    exact List.pairwise_lt_range' 1
  exact List.pairwise_map.mp hplaces

/-- Numbered members that were taken apart in any way are merged to the list again. -/
theorem mergePlaced_of_perm {placed : List (List (Change × Nat))} {changes : List Change}
    (h : placed.flatten.Perm changes.zipIdx) : mergePlaced placed = changes.zipIdx := by
  have hsorted := @List.pairwise_mergeSort (Change × Nat)
    (fun first second => decide (first.2 ≤ second.2)) (fun _ _ _ hfirst hsecond =>
      decide_eq_true (Nat.le_trans (of_decide_eq_true hfirst) (of_decide_eq_true hsecond)))
    (fun first second => by simpa using Nat.le_total first.2 second.2) placed.flatten
  have hplaces := (zipIdx_pairwise changes).imp fun h => decide_eq_true (Nat.le_of_lt h)
  refine List.Perm.eq_of_pairwise ?_ hsorted hplaces ((List.mergeSort_perm _ _).trans h)
  intro first second hfirst hsecond hle hge
  have hplace : first.2 = second.2 :=
    Nat.le_antisymm (of_decide_eq_true hle) (of_decide_eq_true hge)
  have hfirst' := List.mem_zipIdx_iff_getElem?.mp (h.mem_iff.mp (List.mem_mergeSort.mp hfirst))
  have hsecond' := List.mem_zipIdx_iff_getElem?.mp hsecond
  rw [hplace, hsecond'] at hfirst'
  exact Prod.ext (Option.some.inj hfirst').symm hplace

/-- The parts of a cluster can be numbered so that merging them by position gives the changes of
the cluster in order. -/
theorem exists_placed :
    ∃ placed : List (List (Change × Nat)),
      placed.map (·.map Prod.fst) = parts (ofChanges generated) ∧
      (∀ part ∈ placed, part.Pairwise fun first second => first.2 < second.2) ∧
      mergePlaced placed = (ofChanges generated).changes.zipIdx := by
  let numbered := (ofChanges generated).changes.zipIdx
  let pick (kind : Change → Bool) : List (Change × Nat) := numbered.filter (kind ∘ Prod.fst)
  refine ⟨(kinds (ofChanges generated)).map pick, ?_, ?_, ?_⟩
  · rw [parts_ofChanges, List.map_map]
    apply List.map_congr_left
    intro kind _
    rw [Function.comp_apply, ← List.filter_map, List.zipIdx_map_fst]
  · intro part hm
    obtain ⟨kind, _, rfl⟩ := List.mem_map.mp hm
    exact (zipIdx_pairwise _).filter _
  · apply mergePlaced_of_perm
    rw [← List.flatMap_def]
    have hapart : ((kinds (ofChanges generated)).map (· ∘ Prod.fst)).Pairwise
        fun first second => ∀ member ∈ numbered, first member = true → second member = false :=
      List.pairwise_map.mpr ((kinds_pairwise generated).imp
        fun {_ _} h (member : Change × Nat) _ => h member.1)
    have hcovered : ∀ member ∈ numbered,
        ∃ kind ∈ (kinds (ofChanges generated)).map (· ∘ Prod.fst), kind member = true := by
      intro member hm
      obtain ⟨kind, hkind, hhas⟩ := exists_kind generated (List.fst_mem_of_mem_zipIdx hm)
      exact ⟨kind ∘ Prod.fst, List.mem_map_of_mem hkind, hhas⟩
    have hperm := perm_flatMap_filter hapart hcovered
    rw [List.flatMap_map] at hperm
    exact hperm

/-- How the parts of a cluster belong to the changes that were generated. -/
structure Partitions (generated : List Change) (cluster : ChangeCluster) : Prop where
  /-- The cluster holds the generated changes, each as often as it was generated. -/
  same : cluster.changes.Perm generated
  /-- Their orders fall. -/
  falling : cluster.changes.Pairwise fun first second => second.order ≤ first.order
  /-- Those of one order stand in reverse order of generation. -/
  ties (order : Int64) : cluster.changes.filter (·.order == order) =
    (generated.filter (·.order == order)).reverse
  /-- The files are the paths named, each once, in the order and spelling of their first
  appearance. -/
  files : cluster.files = (Change.named cluster.changes).eraseDupsBy Path.same
  /-- No two of them are the same path. -/
  apart : cluster.files.Pairwise fun first second => first.same second = false
  /-- Each file is visited in this order, with the changes that name it. -/
  byFile : cluster.changesByFile =
    cluster.files.map fun file => (file, cluster.changes.filter (Change.isOn file))
  /-- The other changes are those that name no file. -/
  other : cluster.other = cluster.changes.filter (·.path?.isNone)
  /-- Every spelling of the path of a file has the bucket of the file, and no other path has
  one. -/
  lookup (path : Path) : cluster.changesFor? path =
    if cluster.files.any (·.same path) then some (cluster.changes.filter (Change.isOn path))
    else none
  /-- The parts, each in the order of positions, merge to the changes with their positions. -/
  merged : ∃ placed : List (List (Change × Nat)),
    placed.map (·.map Prod.fst) = parts cluster ∧
    (∀ part ∈ placed, part.Pairwise fun first second => first.2 < second.2) ∧
    mergePlaced placed = cluster.changes.zipIdx

/-- A cluster is a partition of the generated changes: sorted by falling order with the later of
equals first, and cut into one bucket for each path and the changes without one, from which the
sorted list can be put together again. -/
theorem ofChanges_partitions : Partitions generated (ofChanges generated) where
  same := sort_perm generated
  falling := (sort_pairwise generated).imp Int64.le_iff_toInt_le.mpr
  ties order := by
    apply filter_sort_of_tied
    intro first _ second _ hfirst hsecond
    rw [beq_iff_eq.mp hfirst, beq_iff_eq.mp hsecond]
  files := files_ofChanges generated
  apart := files_ofChanges_pairwise generated
  byFile := changesByFile_ofChanges generated
  other := rfl
  lookup := changesFor?_ofChanges_eq generated
  merged := exists_placed generated

end ChangeCluster

end Scaffold
