import Scaffold.Proofs.Change.Fitting

/-!
# Changes leaf by leaf

A change is a tree of bundles with edits and placeholders as leaves. Only the path of the outermost
bundle counts: it refuses a leaf at any depth that names another file, and nothing is touched then.
Otherwise the edits among the leaves are performed in order, up to the first one that does not fit
what the ones before it left of its file.
-/

namespace Scaffold

/-- An edit of a known file. -/
structure FileEdit where
  /-- The file. -/
  path : Path
  /-- What is done to its content. -/
  edit : Edit
  deriving Repr, DecidableEq

/-- The edit of a leaf and the file it names, if it has both. -/
def Leaf.fileEdit? (leaf : Leaf) : Option FileEdit :=
  match leaf.path?, leaf.edit? with
  | some path, some edit => some ⟨path, edit⟩
  | _, _ => none

/-- The leaf names no other file. -/
def Leaf.Names (owner : Path) (leaf : Leaf) : Prop :=
  ∀ path, leaf.path? = some path → path.same owner = true

/-- What is put at a path is there, and nowhere else. -/
theorem MemoryHost.content?_put (host : MemoryHost) (path : Path) (content : String)
    (other : Path) : (host.put path content).content? other =
      if path.same other then some content else host.content? other := by
  cases hsame : path.same other with
  | true => exact PathMap.find?_insert_same _ _ hsame
  | false => exact PathMap.find?_insert_other _ _ hsame

/-- Edits are performed one after the other: each fits what the ones before it left of its file,
and replaces its range there. -/
inductive Performed : List FileEdit → MemoryHost → MemoryHost → Prop
  /-- Nothing is left to be done. -/
  | nil {host : MemoryHost} : Performed [] host host
  /-- The first edit is performed, and then the rest. -/
  | cons {first : FileEdit} {rest : List FileEdit} {host left : MemoryHost} {revised : String}
      (fits : first.edit.Fits (host.text first.path))
      (replaces : first.edit.Replaces (host.text first.path) revised)
      (next : Performed rest (host.put first.path revised) left) :
      Performed (first :: rest) host left

namespace Performed

variable {first rest edits : List FileEdit} {host mid left : MemoryHost}

/-- Edits are performed one behind the other. -/
theorem append (hfirst : Performed first host mid) (hrest : Performed rest mid left) :
    Performed (first ++ rest) host left := by
  induction hfirst with
  | nil => exact hrest
  | cons fits replaces _ ih => exact .cons fits replaces (ih hrest)

/-- Every edit is noted in the journal. -/
theorem journal (h : Performed edits host left) :
    left.journal = host.journal ++ edits.map FileEdit.path := by
  induction h with
  | nil => exact (List.append_nil _).symm
  | cons _ _ _ ih =>
    rw [ih, List.map_cons]
    exact List.append_assoc _ [_] _

/-- Files of no edit stay as they are. -/
theorem content?_other (h : Performed edits host left) {path : Path}
    (other : ∀ edit ∈ edits, edit.path.same path = false) :
    left.content? path = host.content? path := by
  induction h with
  | nil => rfl
  | cons _ _ _ ih =>
    obtain ⟨hfirst, hrest⟩ := List.forall_mem_cons.mp other
    rw [ih hrest]
    exact PathMap.find?_insert_other _ _ hfirst

end Performed

/-- What comes of edits on a host: all are performed, or those before the first one that does not
fit. -/
inductive EditCourse (edits : List FileEdit) (host : MemoryHost) :
    EStateM.Result ChangeError MemoryHost Unit → Prop
  /-- All fit. -/
  | done {left : MemoryHost} (performed : Performed edits host left) :
      EditCourse edits host (.ok () left)
  /-- One does not fit. -/
  | stuck {front back : List FileEdit} {next : FileEdit} {left : MemoryHost} {error : ChangeError}
      (parts : edits = front ++ next :: back) (performed : Performed front host left)
      (misfits : next.edit.Misfits next.path (left.text next.path) error) :
      EditCourse edits host (.error error left)

namespace Leaf

variable {leaf : Leaf} {leaves : List Leaf} {host : MemoryHost}

/-- A leaf without an edit of a file does nothing, unless it has an edit and no file. -/
theorem apply_of_fileEdit?_eq_none (whole : leaf.edit?.isSome = true → leaf.path?.isSome = true)
    (h : leaf.fileEdit? = none) : (leaf.apply : Task ChangeError MemoryHost Unit) = pure () := by
  obtain ⟨path?, order, edit?⟩ := leaf
  cases edit? with
  | none => rfl
  | some edit =>
    obtain ⟨path, rfl⟩ := Option.isSome_iff_exists.mp (whole rfl)
    cases h

/-- A leaf with an edit of a file performs it. -/
theorem apply_of_fileEdit? {target : FileEdit} (h : leaf.fileEdit? = some target) :
    (leaf.apply : Task ChangeError MemoryHost Unit) = target.edit.apply target.path := by
  obtain ⟨path?, order, edit?⟩ := leaf
  cases path? with
  | none => cases h
  | some path =>
    cases edit? with
    | none => cases h
    | some edit =>
      cases h
      rfl

/-- The first path that is not the owner's is that of a leaf behind leaves of the owner. -/
theorem exists_of_firstForeign? {owner child : Path} (h : firstForeign? owner leaves = some child) :
    ∃ front leaf back, leaves = front ++ leaf :: back ∧ (∀ other ∈ front, other.Names owner) ∧
      leaf.path? = some child ∧ child.same owner = false := by
  induction leaves with
  | nil => cases h
  | cons leaf rest ih =>
    have hskip (hnames : leaf.Names owner) (hrest : firstForeign? owner rest = some child) :
        ∃ front next back, leaf :: rest = front ++ next :: back ∧
          (∀ other ∈ front, other.Names owner) ∧ next.path? = some child ∧
          child.same owner = false := by
      obtain ⟨front, next, back, hflat, hown, hnext⟩ := ih hrest
      exact ⟨leaf :: front, next, back, congrArg (leaf :: ·) hflat,
        List.forall_mem_cons.mpr ⟨hnames, hown⟩, hnext⟩
    rw [firstForeign?, List.findSome?_cons] at h
    cases hpath : leaf.path? with
    | none =>
      rw [hpath] at h
      exact hskip (fun path hp => by rw [hpath] at hp; cases hp) h
    | some path =>
      simp only [hpath] at h
      cases hsame : path.same owner with
      | true =>
        simp only [hsame, if_true] at h
        exact hskip (fun other hp => by rw [hpath] at hp; cases hp; exact hsame) h
      | false =>
        simp only [hsame, Bool.false_eq_true, if_false] at h
        cases h
        exact ⟨[], leaf, rest, rfl, List.forall_mem_nil _, hpath, hsame⟩

/-- Leaves do what comes of their edits. -/
theorem editCourse_applyAll
    (whole : ∀ leaf ∈ leaves, leaf.edit?.isSome = true → leaf.path?.isSome = true)
    (host : MemoryHost) :
    EditCourse (leaves.filterMap fileEdit?) host (applyAll leaves host) := by
  induction leaves generalizing host with
  | nil => exact .done .nil
  | cons leaf rest ih =>
    obtain ⟨hfirst, hrest⟩ := List.forall_mem_cons.mp whole
    cases hedit : leaf.fileEdit? with
    | none =>
      rw [List.filterMap_cons_none hedit, applyAll, apply_of_fileEdit?_eq_none hfirst hedit]
      exact ih hrest host
    | some target =>
      rw [List.filterMap_cons_some hedit, applyAll, apply_of_fileEdit? hedit]
      cases happly : target.edit.apply target.path host with
      | error error left =>
        obtain ⟨hmisfits, rfl⟩ := Edit.apply_eq_error_iff.mp happly
        rw [Task.bind_of_error happly]
        exact .stuck (List.nil_append _).symm .nil hmisfits
      | ok _ next =>
        obtain ⟨hfits, revised, hreplaces, rfl⟩ := Edit.apply_eq_ok_iff.mp happly
        rw [Task.bind_of_ok happly]
        have hcourse := ih hrest (host.put target.path revised)
        generalize applyAll rest (host.put target.path revised) = result at hcourse ⊢
        cases hcourse with
        | done performed => exact .done (.cons hfits hreplaces performed)
        | stuck parts performed misfits =>
          rw [parts]
          exact .stuck (List.cons_append ..).symm (.cons hfits hreplaces performed) misfits

end Leaf

namespace Change

/-- The leaf stands in the change, at whatever depth. -/
inductive HasLeaf : Change → Leaf → Prop
  /-- An edit is its only leaf. -/
  | edit {path : Path} {order : Int64} {action : Edit} :
      HasLeaf (.edit path order action) ⟨some path, order, some action⟩
  /-- So is a placeholder. -/
  | noop {path : Option Path} {order : Int64} : HasLeaf (.noop path order) ⟨path, order, none⟩
  /-- A bundle has the leaves of its parts. -/
  | part {path : Path} {order : Int64} {parts : List Change} {part : Change} {leaf : Leaf}
      (mem : part ∈ parts) (inner : HasLeaf part leaf) : HasLeaf (.bundle path order parts) leaf

/-- The leaves of changes are those of each in turn. -/
theorem leavesOfAll_eq_flatMap (changes : List Change) :
    leavesOfAll changes = changes.flatMap leaves := by
  induction changes with
  | nil => rfl
  | cons change rest ih => rw [leavesOfAll, ih, List.flatMap_cons]

mutual

/-- Every leaf of a change is found in it. -/
theorem HasLeaf.of_mem_leaves : ∀ {change : Change} {leaf : Leaf},
    leaf ∈ change.leaves → change.HasLeaf leaf
  | .edit path order action, leaf, h => by
    rw [leaves, List.mem_singleton] at h
    rw [h]
    exact .edit
  | .noop path order, leaf, h => by
    rw [leaves, List.mem_singleton] at h
    rw [h]
    exact .noop
  | .bundle path order parts, leaf, h => by
    rw [leaves] at h
    obtain ⟨part, hpart, hleaf⟩ := HasLeaf.exists_of_mem_leavesOfAll h
    exact .part hpart hleaf

/-- Every leaf of changes is found in one of them. -/
theorem HasLeaf.exists_of_mem_leavesOfAll : ∀ {changes : List Change} {leaf : Leaf},
    leaf ∈ leavesOfAll changes → ∃ change ∈ changes, change.HasLeaf leaf
  | change :: rest, leaf, h => by
    rw [leavesOfAll, List.mem_append] at h
    obtain hfirst | hrest := h
    · exact ⟨change, List.mem_cons_self, HasLeaf.of_mem_leaves hfirst⟩
    · obtain ⟨other, hother, hleaf⟩ := HasLeaf.exists_of_mem_leavesOfAll hrest
      exact ⟨other, List.mem_cons_of_mem _ hother, hleaf⟩

end

/-- Flattening a change gives its leaves. -/
theorem mem_leaves_iff {change : Change} {leaf : Leaf} :
    leaf ∈ change.leaves ↔ change.HasLeaf leaf := by
  constructor
  · exact HasLeaf.of_mem_leaves
  · intro h
    induction h with
    | edit => exact List.mem_singleton_self _
    | noop => exact List.mem_singleton_self _
    | part mem _ ih =>
      rw [leaves, leavesOfAll_eq_flatMap]
      exact List.mem_flatMap_of_mem mem ih

/-- An edit among the leaves names its file. -/
theorem HasLeaf.path?_isSome {change : Change} {leaf : Leaf} (h : change.HasLeaf leaf)
    (edits : leaf.edit?.isSome = true) : leaf.path?.isSome = true := by
  induction h with
  | edit => rfl
  | noop => cases edits
  | part _ _ ih => exact ih edits

/-- The edits among the leaves, in the order in which they are applied. -/
def fileEdits (change : Change) : List FileEdit := change.leaves.filterMap Leaf.fileEdit?

/-- No leaf of the change, if it is a bundle, names another file than the bundle. -/
def Accepted (change : Change) : Prop :=
  ∀ owner order parts, change = .bundle owner order parts →
    ∀ leaf, change.HasLeaf leaf → leaf.Names owner

/-- The change is a bundle of the owner, and the first leaf that names another file names the
child. -/
inductive Refuses : Change → Path → Path → Prop
  | intro {owner child : Path} {order : Int64} {parts : List Change} {front back : List Leaf}
      {leaf : Leaf} (flat : (Change.bundle owner order parts).leaves = front ++ leaf :: back)
      (own : ∀ other ∈ front, other.Names owner) (names : leaf.path? = some child)
      (foreign : child.same owner = false) : Refuses (.bundle owner order parts) owner child

/-- A change that refuses a child is not accepted. -/
theorem Refuses.not_accepted {change : Change} {owner child : Path}
    (h : change.Refuses owner child) : ¬change.Accepted := by
  intro haccepted
  obtain @⟨_, _, order, parts, front, back, leaf, flat, -, names, foreign⟩ := h
  have hleaf : leaf ∈ (Change.bundle owner order parts).leaves := by
    rw [flat]
    exact List.mem_append_right _ List.mem_cons_self
  have hsame := haccepted owner order parts rfl leaf (mem_leaves_iff.mp hleaf) child names
  rw [foreign] at hsame
  cases hsame

/-- A change is accepted or refused. -/
theorem accepted_of_foreign?_eq_none {change : Change} (h : change.foreign? = none) :
    change.Accepted := by
  rintro owner order parts rfl leaf hleaf path hpath
  have hon := isOn_of_leaf h (mem_leaves_iff.mpr hleaf) hpath
  rw [Path.same_comm]
  exact hon

/-- The child that is found foreign is refused. -/
theorem refuses_of_foreign? {change : Change} {owner child : Path}
    (h : change.foreign? = some (owner, child)) : change.Refuses owner child := by
  cases change with
  | edit path order action => cases h
  | noop path order => cases h
  | bundle own order parts =>
    obtain ⟨found, hfound, hpair⟩ := Option.map_eq_some_iff.mp h
    cases hpair
    obtain ⟨front, leaf, back, hflat, hown, hnames, hforeign⟩ :=
      Leaf.exists_of_firstForeign? hfound
    exact .intro hflat hown hnames hforeign

/-- What comes of a change on a host. -/
inductive Course (change : Change) (host : MemoryHost) :
    EStateM.Result ChangeError MemoryHost Unit → Prop
  /-- The bundle is refused, and nothing is touched. -/
  | refused {owner child : Path} (refuses : change.Refuses owner child) :
      Course change host (.error (.foreignPath owner child) host)
  /-- The edits among its leaves are performed as far as they fit. -/
  | edited {result : EStateM.Result ChangeError MemoryHost Unit} (accepted : change.Accepted)
      (edits : EditCourse change.fileEdits host result) : Course change host result

/-- Whatever is applied takes one of the courses. -/
theorem course_apply (change : Change) (host : MemoryHost) :
    change.Course host (change.apply host) := by
  unfold apply
  cases hforeign : change.foreign? with
  | some pair => exact .refused (refuses_of_foreign? hforeign)
  | none =>
    refine .edited (accepted_of_foreign?_eq_none hforeign) ?_
    exact Leaf.editCourse_applyAll (fun leaf hm => (mem_leaves_iff.mp hm).path?_isSome) host

end Change

section MissingPath

variable {error : ChangeError} {host left : MemoryHost}

/-- The first fault of a range is never a missing path. -/
theorem Edit.Misfits.ne_missingPath {edit : Edit} {path : Path} {content : String}
    (h : edit.Misfits path content error) : error ≠ .missingPath := by
  cases h <;> exact ChangeError.noConfusion

/-- A change never fails for want of a path. -/
theorem Change.Course.ne_missingPath {change : Change}
    (h : change.Course host (.error error left)) : error ≠ .missingPath := by
  cases h with
  | refused _ => exact ChangeError.noConfusion
  | edited _ edits =>
    cases edits with
    | stuck _ _ misfits => exact misfits.ne_missingPath

end MissingPath

namespace Change

/-- A change leaves the files of none of its edits as they are. -/
theorem content?_after_apply {change : Change} {path : Path}
    (other : ∀ edit ∈ change.fileEdits, edit.path.same path = false) (host : MemoryHost) :
    (Task.after change.apply host).content? path = host.content? path := by
  have hcourse := change.course_apply host
  unfold Task.after
  generalize change.apply host = result at hcourse ⊢
  cases hcourse with
  | refused _ => rfl
  | edited _ edits =>
    cases edits with
    | done performed => exact performed.content?_other other
    | stuck parts performed _ =>
      refine performed.content?_other fun edit hedit => other edit ?_
      rw [parts]
      exact List.mem_append_left _ hedit

/-- A change is refused exactly if one of its leaves, at whatever depth, names another file. -/
theorem not_accepted_iff_refused (change : Change) (host : MemoryHost) :
    ¬change.Accepted ↔ ∃ owner child, change.Refuses owner child ∧
      change.apply host = .error (.foreignPath owner child) host := by
  constructor
  · intro hnot
    have hcourse := change.course_apply host
    generalize change.apply host = result at hcourse ⊢
    cases hcourse with
    | refused refuses => exact ⟨_, _, refuses, rfl⟩
    | edited accepted _ => exact absurd accepted hnot
  · rintro ⟨owner, child, hrefuses, -⟩
    exact hrefuses.not_accepted

/-- Two lists of parts that differ only in the bundles among and in them, which may have other
paths and orders. -/
inductive Repathed : List Change → List Change → Prop
  /-- There are no parts. -/
  | nil : Repathed [] []
  /-- The first part is the same. -/
  | keep {parts others : List Change} (part : Change) (rest : Repathed parts others) :
      Repathed (part :: parts) (part :: others)
  /-- The first part is a bundle, and may have got another path. -/
  | bundle {inner otherInner parts others : List Change} (path newPath : Path)
      (order newOrder : Int64) (into : Repathed inner otherInner) (rest : Repathed parts others) :
      Repathed (.bundle path order inner :: parts) (.bundle newPath newOrder otherInner :: others)

/-- Bundles of other paths have the same leaves. -/
theorem Repathed.leavesOfAll_eq {parts others : List Change} (h : Repathed parts others) :
    leavesOfAll others = leavesOfAll parts := by
  induction h with
  | nil => rfl
  | keep part _ ih => rw [leavesOfAll, leavesOfAll, ih]
  | bundle path newPath order newOrder _ _ hinto hrest =>
    rw [leavesOfAll, leavesOfAll, leaves, leaves, hinto, hrest]

/-- The paths of inner bundles play no role. -/
theorem Repathed.apply_eq {parts others : List Change} (h : Repathed parts others) (owner : Path)
    (order : Int64) : ((Change.bundle owner order others).apply : Task ChangeError MemoryHost Unit) =
      (Change.bundle owner order parts).apply := by
  have hleaves : (Change.bundle owner order others).leaves =
      (Change.bundle owner order parts).leaves := h.leavesOfAll_eq
  unfold apply
  rw [foreign?, foreign?, hleaves]

/-- In memory a change is refused without effect if it is a bundle and one of its leaves, at
whatever depth, names another file; the error tells the first such leaf, and the paths of bundles
in it play no role. Otherwise its edits are performed in order up to the first one that does not
fit. An edit fits exactly if it succeeds, and then the bytes of its range are replaced, which gives
UTF-8 again, and no other file changes; one that does not fit fails with the first fault of its
range and changes nothing. No change fails for want of a path. -/
theorem apply_leaf_by_leaf (change : Change) (host : MemoryHost) :
    change.Course host (change.apply host) ∧
      (¬change.Accepted ↔ ∃ owner child, change.Refuses owner child ∧
        change.apply host = .error (.foreignPath owner child) host) ∧
      (∀ owner order parts others, change = .bundle owner order parts → Repathed parts others →
        (Change.bundle owner order others).apply host = change.apply host) ∧
      (∀ left, change.apply host ≠ .error .missingPath left) ∧
      (∀ path, (∀ edit ∈ change.fileEdits, edit.path.same path = false) →
        (Task.after change.apply host).content? path = host.content? path) ∧
      ∀ (edit : Edit) (path : Path) (left : MemoryHost),
        (edit.apply path host = .ok () left ↔ edit.Fits (host.text path) ∧
          ∃ revised, edit.Replaces (host.text path) revised ∧ revised.toByteArray.IsValidUTF8 ∧
            left = host.put path revised ∧
            ∀ other, left.content? other =
              if path.same other then some revised else host.content? other) ∧
        ∀ error, edit.apply path host = .error error left ↔
          edit.Misfits path (host.text path) error ∧ left = host := by
  have hcourse := change.course_apply host
  refine ⟨hcourse, not_accepted_iff_refused change host, ?_, ?_, ?_, ?_⟩
  · rintro owner order parts others rfl hrepathed
    rw [hrepathed.apply_eq]
  · intro left happly
    rw [happly] at hcourse
    exact hcourse.ne_missingPath rfl
  · intro path hother
    exact content?_after_apply hother host
  · intro edit path left
    refine ⟨?_, fun error => Edit.apply_eq_error_iff⟩
    rw [Edit.apply_eq_ok_iff]
    refine and_congr_right fun _ => exists_congr fun revised => and_congr_right fun _ => ?_
    constructor
    · rintro rfl
      exact ⟨revised.isValidUTF8, rfl, host.content?_put path revised⟩
    · exact fun h => h.2.1

end Change

end Scaffold
