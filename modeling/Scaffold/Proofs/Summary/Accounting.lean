import Mathlib.Algebra.BigOperators.Group.List.Basic
import Mathlib.Algebra.GroupWithZero.Nat
import Scaffold.Proofs.Cluster.Partition
import Scaffold.Proofs.Lifecycle.Applying
import Scaffold.Summary

/-!
# What a summary accounts for

The summary of a plan has a row for each of its files. The row tells whether the file comes into
existence when the plan is applied, and how many edits of each kind there are among the changes of
the file, however deep they are bundled. A kind is counted where its first edit stands, and counting
one more edit raises exactly one of the numbers, so that the numbers of all rows add up to the edits
of the plan.
-/

namespace Scaffold

/-- A list with one more item at its end has it among its first occurrences if it is new. -/
theorem eraseDups_concat {α : Type} [BEq α] [LawfulBEq α] (items : List α) (item : α) :
    (items ++ [item]).eraseDups =
      if item ∈ items then items.eraseDups else items.eraseDups ++ [item] := by
  rw [List.eraseDups_append]
  split
  · next h => simp [List.removeAll, h]
  · next h => simp [List.removeAll, h, List.eraseDups_cons]

/-- Without repetitions, no item occurs twice. -/
theorem nodup_eraseDups {α : Type} [BEq α] [LawfulBEq α] (items : List α) :
    items.eraseDups.Nodup := by
  induction items using List.reverseRecOn with
  | nil => exact .nil
  | append_singleton items item ih =>
    rw [eraseDups_concat]
    split
    · exact ih
    · next hnew =>
      refine List.nodup_append.mpr ⟨ih, List.pairwise_singleton _ _, ?_⟩
      intro other hother last hlast heq
      rw [heq, List.mem_singleton.mp hlast, List.mem_eraseDups] at hother
      exact hnew hother

namespace EditCount

/-- The kinds of edits among labels in the order of their first occurrence, each with the number of
its occurrences. -/
def ofLabels (labels : List String) : List EditCount :=
  labels.eraseDups.map fun label => ⟨label, labels.count label⟩

/-- A new kind is counted behind the others. -/
theorem add_of_new {label : String} {counts : List EditCount}
    (new : label ∉ counts.map EditCount.label) : add label counts = counts ++ [⟨label, 1⟩] := by
  induction counts with
  | nil => rfl
  | cons first rest ih =>
    rw [List.map_cons, List.mem_cons, not_or] at new
    rw [add, if_neg (mt beq_iff_eq.mp (Ne.symm new.1)), ih new.2, List.cons_append]

/-- A kind that is known is counted where it stands. -/
theorem add_of_known {label : String} {labels : List String} (distinct : labels.Nodup)
    (known : label ∈ labels) (number : String → Nat) :
    add label (labels.map fun other => ⟨other, number other⟩) =
      labels.map fun other => ⟨other, number other + if other = label then 1 else 0⟩ := by
  induction labels with
  | nil => cases known
  | cons first rest ih =>
    obtain ⟨hfirst, hrest⟩ := List.nodup_cons.mp distinct
    rw [List.map_cons, add, List.map_cons]
    by_cases hsame : first = label
    · subst hsame
      rw [if_pos (beq_self_eq_true _), if_pos rfl]
      refine congrArg _ (List.map_congr_left fun other hother => ?_)
      rw [if_neg fun heq : other = first => hfirst (heq ▸ hother), Nat.add_zero]
    · rw [if_neg (mt beq_iff_eq.mp hsame), if_neg hsame, Nat.add_zero,
        ih hrest ((List.mem_cons.mp known).resolve_left (Ne.symm hsame))]

/-- One label more is counted behind the others. -/
theorem add_ofLabels (label : String) (labels : List String) :
    add label (ofLabels labels) = ofLabels (labels ++ [label]) := by
  have hnumber (other : String) :
      (labels ++ [label]).count other = labels.count other + if other = label then 1 else 0 := by
    rw [List.count_append, List.count_singleton]
    simp only [beq_iff_eq, @eq_comm _ label other]
  simp only [ofLabels, hnumber, eraseDups_concat]
  split
  · next hknown =>
    exact add_of_known (nodup_eraseDups labels) (List.mem_eraseDups.mpr hknown) _
  · next hnew =>
    have hother : ∀ other ∈ labels.eraseDups, ¬other = label :=
      fun other hm heq => hnew (heq ▸ List.mem_eraseDups.mp hm)
    rw [add_of_new (by simpa [List.map_map] using hnew), List.map_append, List.map_singleton,
      if_pos rfl, List.count_eq_zero_of_not_mem hnew]
    refine congrArg (· ++ _) (List.map_congr_left fun other hm => ?_)
    rw [if_neg (hother other hm), Nat.add_zero]

/-- The counts of leaves are those of the labels of their edits. -/
theorem ofLeaves_eq (leaves : List Leaf) :
    ofLeaves leaves = ofLabels ((leaves.filterMap (·.edit?)).map Edit.label) := by
  rw [ofLeaves]
  induction leaves.filterMap (·.edit?) using List.reverseRecOn with
  | nil => rfl
  | append_singleton edits edit ih =>
    rw [List.foldl_append, ih, List.map_append]
    exact add_ofLabels edit.label _

/-- Each edit that is counted raises one of the numbers. -/
theorem sum_add (label : String) (counts : List EditCount) :
    ((add label counts).map EditCount.count).sum = (counts.map EditCount.count).sum + 1 := by
  induction counts with
  | nil => rfl
  | cons first rest ih =>
    rw [add]
    split
    · simp only [List.map_cons, List.sum_cons]
      omega
    · simp only [List.map_cons, List.sum_cons, ih]
      omega

/-- All counts together are the number of edits. -/
theorem sum_ofLeaves (leaves : List Leaf) :
    ((ofLeaves leaves).map EditCount.count).sum = (leaves.filterMap (·.edit?)).length := by
  rw [ofLeaves]
  induction leaves.filterMap (·.edit?) using List.reverseRecOn with
  | nil => rfl
  | append_singleton edits edit ih =>
    rw [List.foldl_append, List.foldl_cons, List.foldl_nil, sum_add, ih, List.length_append,
      List.length_singleton]

end EditCount

namespace Change

mutual

/-- How many edits of some kind there are in a change, at whatever depth. -/
def tally (kind : Edit → Bool) : Change → Nat
  | .edit _ _ action => if kind action then 1 else 0
  | .bundle _ _ parts => tallyAll kind parts
  | .noop _ _ => 0

/-- How many edits of some kind there are in changes. -/
def tallyAll (kind : Edit → Bool) : List Change → Nat
  | [] => 0
  | change :: rest => change.tally kind + tallyAll kind rest

end

/-- The edits of changes, flattened. -/
def editsOfAll (changes : List Change) : List Edit := (leavesOfAll changes).filterMap (·.edit?)

section Tally

variable (kind : Edit → Bool)

mutual

/-- The edits of a kind among the leaves are those that the change has. -/
theorem countP_leaves : ∀ change : Change,
    (change.leaves.filterMap (·.edit?)).countP kind = change.tally kind
  | .edit path order action => by
    rw [leaves, tally]
    exact List.countP_singleton
  | .noop path order => rfl
  | .bundle path order parts => by
    rw [leaves, tally]
    exact countP_editsOfAll parts

/-- Flattening keeps every edit. -/
theorem countP_editsOfAll : ∀ changes : List Change,
    (editsOfAll changes).countP kind = tallyAll kind changes
  | [] => rfl
  | change :: rest => by
    rw [editsOfAll, leavesOfAll, List.filterMap_append, List.countP_append, tallyAll,
      countP_leaves change, ← countP_editsOfAll rest, editsOfAll]

end

/-- Changes have the edits of each of them. -/
theorem tallyAll_eq_sum (changes : List Change) :
    tallyAll kind changes = (changes.map (tally kind)).sum := by
  induction changes with
  | nil => rfl
  | cons change rest ih => rw [tallyAll, ih, List.map_cons, List.sum_cons]

theorem tallyAll_append (front back : List Change) :
    tallyAll kind (front ++ back) = tallyAll kind front + tallyAll kind back := by
  rw [tallyAll_eq_sum, tallyAll_eq_sum, tallyAll_eq_sum, List.map_append, List.sum_append]

/-- The order of changes does not matter to the number of their edits. -/
theorem tallyAll_perm {changes others : List Change} (h : changes.Perm others) :
    tallyAll kind changes = tallyAll kind others := by
  rw [tallyAll_eq_sum, tallyAll_eq_sum]
  exact (h.map (tally kind)).sum_eq

/-- Without a file there are no edits. -/
theorem tally_of_pathless {change : Change} (h : change.path? = none) : change.tally kind = 0 := by
  cases change with
  | noop path order => rfl
  | _ => cases h

end Tally

end Change

namespace ChangeCluster

/-- Every edit of a plan is in the bucket of one file. -/
theorem sum_tallyAll_buckets (kind : Edit → Bool) (generated : List Change) :
    ((ofChanges generated).files.map fun file =>
        Change.tallyAll kind (Change.on file (ofChanges generated).changes)).sum =
      Change.tallyAll kind generated := by
  have hparts : ((kinds (ofChanges generated)).flatMap fun part =>
      (ofChanges generated).changes.filter part).Perm (ofChanges generated).changes :=
    perm_flatMap_filter ((kinds_pairwise generated).imp fun {_ _} h change _ => h change)
      fun _ => exists_kind generated
  have hpathless : Change.tallyAll kind
      ((ofChanges generated).changes.filter (·.path?.isNone)) = 0 := by
    rw [Change.tallyAll_eq_sum]
    refine List.sum_eq_zero fun number hnumber => ?_
    obtain ⟨change, hchange, rfl⟩ := List.mem_map.mp hnumber
    exact Change.tally_of_pathless kind
      (Option.isNone_iff_eq_none.mp (List.mem_filter.mp hchange).2)
  have hflat (files : List Path) : Change.tallyAll kind
      (files.flatMap fun file => Change.on file (ofChanges generated).changes) =
        (files.map fun file =>
          Change.tallyAll kind (Change.on file (ofChanges generated).changes)).sum := by
    induction files with
    | nil => rfl
    | cons file rest ih =>
      rw [List.flatMap_cons, Change.tallyAll_append, ih, List.map_cons, List.sum_cons]
  rw [← Change.tallyAll_perm kind (sort_perm generated)]
  calc _ = Change.tallyAll kind ((kinds (ofChanges generated)).flatMap fun part =>
          (ofChanges generated).changes.filter part) := by
        rw [kinds, List.flatMap_cons, List.flatMap_map, Change.tallyAll_append, hpathless,
          Nat.zero_add]
        exact (hflat _).symm
    _ = Change.tallyAll kind (ofChanges generated).changes := Change.tallyAll_perm kind hparts

end ChangeCluster

/-- What the row of a file says of the changes in its bucket. -/
structure SummaryRow.Counts (row : SummaryRow) (bucket : List Change) : Prop where
  /-- The kinds stand in the order of their first edits, -/
  order : row.stats.map EditCount.label = ((Change.editsOfAll bucket).map Edit.label).eraseDups
  /-- each of them once, -/
  distinct : (row.stats.map EditCount.label).Nodup
  /-- and there are no others. -/
  known : ∀ count ∈ row.stats, count.label ∈ ["insert", "remove", "replace"]
  /-- Each kind is counted as often as there are edits of it, at whatever depth. -/
  counted : ∀ count ∈ row.stats,
    count.count = Change.tallyAll (fun edit => edit.label == count.label) bucket

/-- What a summary says of the changes that were generated, and of what applying them to a host
does. -/
structure Summary.AccountsFor (generated : List Change) (host : MemoryHost) (summary : Summary) :
    Prop where
  /-- There is one row for each file of the plan, in its order. -/
  rows : summary.files = (ChangeCluster.ofChanges generated).files
  /-- A row says that a file is created exactly if it is absent. -/
  creates : ∀ row ∈ summary.rows, row.action = .create ↔ host.content? row.path = none
  /-- Applying the plan brings these files into existence and no others. -/
  created : ∀ applied,
    Session.applyCluster (ChangeCluster.ofChanges generated) host = .ok () applied →
      ∀ path, host.content? path = none ∧ (applied.content? path).isSome ↔
        ∃ row ∈ summary.rows, row.action = .create ∧ row.path.same path = true
  /-- Each row counts the edits in the bucket of its file. -/
  counts : ∀ row ∈ summary.rows, ∃ bucket,
    (ChangeCluster.ofChanges generated).changesFor? row.path = some bucket ∧ row.Counts bucket
  /-- All rows together count the edits that were generated. -/
  total : (summary.rows.map fun row => (row.stats.map EditCount.count).sum).sum =
    Change.tallyAll (fun _ => true) generated

namespace Summary

variable {generated : List Change} {host : MemoryHost}

/-- There is one row for each file, of the changes on it. -/
theorem rows_ofCluster (generated : List Change) (host : MemoryHost) :
    (ofCluster (ChangeCluster.ofChanges generated) host).rows =
      (ChangeCluster.ofChanges generated).files.map fun file =>
        rowOf host file (Change.on file (ChangeCluster.ofChanges generated).changes) := by
  rw [ofCluster, ChangeCluster.changesByFile_ofChanges, List.map_map]
  rfl

/-- A file is created if there is nothing at its path. -/
theorem action_rowOf_eq_create_iff (host : MemoryHost) (path : Path) (changes : List Change) :
    (rowOf host path changes).action = .create ↔ host.content? path = none := by
  have hhas : FileHost.has path host = (host.content? path).isSome := rfl
  rw [rowOf, hhas]
  cases host.content? path <;> simp

/-- A row counts the edits of its changes. -/
theorem rowOf_counts {ω : Type} [FileHost ω] (host : ω) (path : Path) (changes : List Change) :
    (rowOf host path changes).Counts changes := by
  have hstats : (rowOf host path changes).stats =
      EditCount.ofLabels ((Change.editsOfAll changes).map Edit.label) := EditCount.ofLeaves_eq _
  have horder : (rowOf host path changes).stats.map EditCount.label =
      ((Change.editsOfAll changes).map Edit.label).eraseDups := by
    rw [hstats, EditCount.ofLabels, List.map_map]
    exact List.map_id _
  refine ⟨horder, horder ▸ nodup_eraseDups _, fun count hcount => ?_, fun count hcount => ?_⟩
  · have hlabel := List.mem_map_of_mem (f := EditCount.label) hcount
    rw [horder, List.mem_eraseDups] at hlabel
    obtain ⟨edit, -, hedit⟩ := List.mem_map.mp hlabel
    rw [← hedit]
    cases edit <;> simp [Edit.label]
  · rw [hstats] at hcount
    obtain ⟨label, -, rfl⟩ := List.mem_map.mp hcount
    rw [← Change.countP_editsOfAll, List.count, List.countP_map]
    rfl

/-- All counts of a row together are its edits. -/
theorem sum_rowOf (host : MemoryHost) (path : Path) (changes : List Change) :
    ((rowOf host path changes).stats.map EditCount.count).sum =
      Change.tallyAll (fun _ => true) changes := by
  rw [← Change.countP_editsOfAll, List.countP_true]
  exact EditCount.sum_ofLeaves _

/-- A file of the plan is there after the plan was applied, and any other file is there if it was
there before. -/
theorem content?_isSome_of_applied {applied : MemoryHost}
    (h : Session.applyCluster (ChangeCluster.ofChanges generated) host = .ok () applied)
    (path : Path) :
    (applied.content? path).isSome = true ↔
      (host.content? path).isSome = true ∨
        ∃ file ∈ (ChangeCluster.ofChanges generated).files, file.same path = true := by
  rw [MemoryHost.content?_eq, MemoryHost.content?_eq]
  by_cases hnamed : ∃ file ∈ (ChangeCluster.ofChanges generated).files, file.same path = true
  · obtain ⟨file, hfile, hsame⟩ := hnamed
    obtain ⟨text, -, htext⟩ :=
      Session.applyCluster_of_mem ((Session.mirrors_applyCluster _).of_ok h) hfile
    rw [Path.same_iff.mp hsame] at htext
    exact ⟨fun _ => .inr ⟨file, hfile, hsame⟩, fun _ => Option.isSome_of_eq_some htext⟩
  · have hother : ∀ file ∈ (ChangeCluster.ofChanges generated).files, file.same path = false :=
      fun file hfile => Bool.eq_false_iff.mpr fun hsame => hnamed ⟨file, hfile, hsame⟩
    have hkept : applied.files.at? path.components = host.files.at? path.components :=
      Session.contents_applyCluster_other h hother
    rw [hkept, or_iff_left hnamed]

/-- A file comes into existence when the plan is applied exactly if a row says so. -/
theorem created_iff_row {applied : MemoryHost}
    (h : Session.applyCluster (ChangeCluster.ofChanges generated) host = .ok () applied)
    (path : Path) :
    host.content? path = none ∧ (applied.content? path).isSome ↔
      ∃ row ∈ (ofCluster (ChangeCluster.ofChanges generated) host).rows,
        row.action = .create ∧ row.path.same path = true := by
  rw [content?_isSome_of_applied h, rows_ofCluster]
  constructor
  · rintro ⟨habsent, hthere | ⟨file, hfile, hsame⟩⟩
    · rw [habsent] at hthere
      cases hthere
    · refine ⟨_, List.mem_map_of_mem hfile, ?_, hsame⟩
      rw [action_rowOf_eq_create_iff, MemoryHost.content?_eq, Path.same_iff.mp hsame,
        ← MemoryHost.content?_eq]
      exact habsent
  · rintro ⟨row, hrow, hcreate, hsame⟩
    obtain ⟨file, hfile, rfl⟩ := List.mem_map.mp hrow
    change file.same path = true at hsame
    rw [action_rowOf_eq_create_iff, MemoryHost.content?_eq, Path.same_iff.mp hsame,
      ← MemoryHost.content?_eq] at hcreate
    exact ⟨hcreate, .inr ⟨file, hfile, hsame⟩⟩

/-- The summary of a plan has a row for each file, tells which files come into existence, and counts
every edit once. -/
theorem ofCluster_accounts_for_edits (generated : List Change) (host : MemoryHost) :
    AccountsFor generated host (ofCluster (ChangeCluster.ofChanges generated) host) where
  rows := by
    rw [files, rows_ofCluster, List.map_map]
    exact List.map_id _
  creates := by
    intro row hrow
    rw [rows_ofCluster] at hrow
    obtain ⟨file, -, rfl⟩ := List.mem_map.mp hrow
    exact action_rowOf_eq_create_iff host file _
  created := fun _ => created_iff_row
  counts := by
    intro row hrow
    rw [rows_ofCluster] at hrow
    obtain ⟨file, hfile, rfl⟩ := List.mem_map.mp hrow
    have hany : (ChangeCluster.ofChanges generated).files.any (·.same file) = true :=
      List.any_eq_true.mpr ⟨file, hfile, file.same_self⟩
    refine ⟨_, ?_, rowOf_counts host file _⟩
    exact (ChangeCluster.changesFor?_ofChanges_eq generated file).trans (if_pos hany)
  total := by
    rw [rows_ofCluster, List.map_map, ← ChangeCluster.sum_tallyAll_buckets]
    exact congrArg List.sum (List.map_congr_left fun file _ => sum_rowOf host file _)

/-- A plan that edits one file twice, creates one by nested bundles and another by a placeholder. -/
def nestedPlan : List Change :=
  [.insert ⟨"a"⟩ 0 "O", .insert ⟨"a"⟩ 3 "!",
    .multi ⟨"b"⟩ [.insert ⟨"b//"⟩ 0 "new", .multi ⟨"b"⟩ [.placeholder none, .remove ⟨"b/."⟩ 0 1]],
    .placeholder (some ⟨"c"⟩), .placeholder none]

theorem sort_nestedPlan : ChangeCluster.sort nestedPlan = nestedPlan.reverse :=
  ChangeCluster.sort_of_ascending (by decide)

/-- Both counts of the nested edits and the empty row of the placeholder are accounted for, and with
the plan two files come into existence. -/
theorem ofCluster_accounts_for_nestedPlan :
    let host := MemoryHost.withFiles [(⟨"a"⟩, "Hi ")]
    let summary := ofCluster (ChangeCluster.ofChanges nestedPlan) host
    summary.rows =
        [⟨.create, ⟨"c"⟩, []⟩, ⟨.create, ⟨"b"⟩, [⟨"insert", 1⟩, ⟨"remove", 1⟩]⟩,
          ⟨.change, ⟨"a"⟩, [⟨"insert", 2⟩]⟩] ∧
      (summary.rows.map fun row => (row.stats.map EditCount.count).sum).sum = 4 ∧
      ∃ applied, Session.applyCluster (ChangeCluster.ofChanges nestedPlan) host = .ok () applied ∧
        (applied.content? ⟨"b"⟩).isSome ∧ (applied.content? ⟨"c/"⟩).isSome := by
  intro host summary
  have accounts := ofCluster_accounts_for_edits nestedPlan host
  have hrows : summary.rows =
      [⟨.create, ⟨"c"⟩, []⟩, ⟨.create, ⟨"b"⟩, [⟨"insert", 1⟩, ⟨"remove", 1⟩]⟩,
        ⟨.change, ⟨"a"⟩, [⟨"insert", 2⟩]⟩] := by
    change (ofCluster (ChangeCluster.ofChanges nestedPlan) host).rows = _
    rw [ChangeCluster.ofChanges, sort_nestedPlan]
    rfl
  have happlies :
      (Session.applyCluster (ChangeCluster.ofChanges nestedPlan)).succeeds host = true := by
    rw [ChangeCluster.ofChanges, sort_nestedPlan]
    decide
  obtain ⟨⟨⟩, applied, happlied⟩ := Task.succeeds_iff.mp happlies
  refine ⟨hrows, accounts.total.trans rfl, applied, happlied, ?_, ?_⟩
  · refine ((accounts.created applied happlied ⟨"b"⟩).mpr
      ⟨⟨.create, ⟨"b"⟩, [⟨"insert", 1⟩, ⟨"remove", 1⟩]⟩, ?_, rfl, rfl⟩).2
    rw [hrows]
    simp
  · refine ((accounts.created applied happlied ⟨"c/"⟩).mpr ⟨⟨.create, ⟨"c"⟩, []⟩, ?_, rfl, rfl⟩).2
    rw [hrows]
    simp

end Summary

end Scaffold
