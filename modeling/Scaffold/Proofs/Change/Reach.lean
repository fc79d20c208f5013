import Scaffold.Change.Apply
import Scaffold.Proofs.Contents

/-!
# What a change reaches

A change reads and writes the file it names and no other: a leaf has one path, and a bundle is
refused unless its leaves name its own. Whatever holds of reading and writing that file therefore
holds of applying the change, be it a property that is kept or a view that is mirrored. Seen from
one file, applying changes is applying those of this file to a host that holds nothing else.
-/

namespace Scaffold

variable {ω χ : Type} [FileHost ω] [FileHost χ]

/-- Reading and writing a file keep a property of the host. -/
structure KeepsFile (kept : ω → Prop) (path : Path) : Prop where
  /-- Reading keeps it. -/
  read : Task.Keeps kept (FileHost.read path : Task ChangeError ω String)
  /-- Writing keeps it. -/
  write (content : String) :
    Task.Keeps kept (FileHost.write path content : Task ChangeError ω Unit)

/-- Reading and writing a file look, through a view of the host, as they do on its image. -/
structure MirrorsFile (view : ω → χ) (path : Path) : Prop where
  /-- Reading does. -/
  read : Task.Mirrors view (FileHost.read path : Task ChangeError ω String) (FileHost.read path)
  /-- Writing does. -/
  write (content : String) :
    Task.Mirrors view (FileHost.write path content : Task ChangeError ω Unit)
      (FileHost.write path content)

/-- Views of a file can be put behind one another. -/
theorem MirrorsFile.comp {ξ : Type} [FileHost ξ] {view : ω → χ} {further : χ → ξ} {path : Path}
    (near : MirrorsFile view path) (far : MirrorsFile further path) :
    MirrorsFile (further ∘ view) path :=
  ⟨near.read.comp far.read, fun content => (near.write content).comp (far.write content)⟩

/-- An edit is a read and, if the range fits, a write. -/
theorem Edit.apply_eq (edit : Edit) (path : Path) :
    (edit.apply path : Task ChangeError ω Unit) =
      FileHost.read path >>= fun content =>
        match edit.revise path content with
        | .ok revised => FileHost.write path revised
        | .error error => throw error := by
  funext host
  rw [Edit.apply, Task.bind_apply]
  cases (FileHost.read path : Task ChangeError ω String) host with
  | error error left => rfl
  | ok content left =>
    simp only
    cases edit.revise path content <;> rfl

/-- What a file keeps is kept by its edits. -/
theorem Edit.keeps_apply {kept : ω → Prop} {path : Path} (h : KeepsFile kept path) (edit : Edit) :
    Task.Keeps kept (edit.apply path : Task ChangeError ω Unit) := by
  rw [Edit.apply_eq]
  apply Task.keeps_bind h.read
  intro content
  cases edit.revise path content with
  | ok revised => exact h.write revised
  | error error => exact Task.keeps_throw kept error

/-- A view that mirrors a file mirrors its edits. -/
theorem Edit.mirrors_apply {view : ω → χ} {path : Path} (h : MirrorsFile view path) (edit : Edit) :
    Task.Mirrors view (edit.apply path) (edit.apply path) := by
  rw [Edit.apply_eq, Edit.apply_eq]
  apply Task.mirrors_bind h.read
  intro content
  cases edit.revise path content with
  | ok revised => exact h.write revised
  | error error => exact Task.mirrors_throw view error

theorem Leaf.keeps_apply {kept : ω → Prop} {leaf : Leaf}
    (h : ∀ path, leaf.path? = some path → KeepsFile kept path) :
    Task.Keeps kept (leaf.apply : Task ChangeError ω Unit) := by
  obtain ⟨path?, order, edit?⟩ := leaf
  cases edit? with
  | none => exact Task.keeps_pure kept ()
  | some edit =>
    cases path? with
    | none => exact Task.keeps_throw kept _
    | some path => exact Edit.keeps_apply (h path rfl) edit

theorem Leaf.mirrors_apply {view : ω → χ} {leaf : Leaf}
    (h : ∀ path, leaf.path? = some path → MirrorsFile view path) :
    Task.Mirrors view leaf.apply leaf.apply := by
  obtain ⟨path?, order, edit?⟩ := leaf
  cases edit? with
  | none => exact Task.mirrors_pure view ()
  | some edit =>
    cases path? with
    | none => exact Task.mirrors_throw view _
    | some path => exact Edit.mirrors_apply (h path rfl) edit

theorem Leaf.keeps_applyAll {kept : ω → Prop} {leaves : List Leaf}
    (h : ∀ leaf ∈ leaves, ∀ path, leaf.path? = some path → KeepsFile kept path) :
    Task.Keeps kept (Leaf.applyAll leaves : Task ChangeError ω Unit) := by
  induction leaves with
  | nil => exact Task.keeps_pure kept ()
  | cons leaf rest ih =>
    have hfirst := Leaf.keeps_apply (h leaf List.mem_cons_self)
    have hrest := ih (fun other hm => h other (List.mem_cons_of_mem _ hm))
    exact Task.keeps_bind hfirst (fun _ => hrest)

theorem Leaf.mirrors_applyAll {view : ω → χ} {leaves : List Leaf}
    (h : ∀ leaf ∈ leaves, ∀ path, leaf.path? = some path → MirrorsFile view path) :
    Task.Mirrors view (Leaf.applyAll leaves) (Leaf.applyAll leaves) := by
  induction leaves with
  | nil => exact Task.mirrors_pure view ()
  | cons leaf rest ih =>
    have hfirst := Leaf.mirrors_apply (h leaf List.mem_cons_self)
    have hrest := ih (fun other hm => h other (List.mem_cons_of_mem _ hm))
    exact Task.mirrors_bind hfirst (fun _ => hrest)

namespace Change

/-- Whether the change names the file. -/
def isOn (path : Path) (change : Change) : Bool :=
  match change.path? with
  | some own => own.same path
  | none => false

/-- The changes that name the file. -/
def on (path : Path) (changes : List Change) : List Change := changes.filter (isOn path)

/-- It does not matter how the path of a file is spelled. -/
theorem isOn_congr {left right : Path} (h : left.same right = true) (change : Change) :
    change.isOn left = change.isOn right := by
  unfold isOn
  cases change.path? with
  | none => rfl
  | some own =>
    simp only
    rw [Bool.eq_iff_iff, Path.same_iff, Path.same_iff, Path.same_iff.mp h]

/-- The changes on a file do not depend on how its path is spelled. -/
theorem on_congr {left right : Path} (h : left.same right = true) (changes : List Change) :
    on left changes = on right changes :=
  List.filter_congr (fun change _ => isOn_congr h change)

/-- A change names one file. -/
theorem same_of_isOn {left right : Path} {change : Change} (hleft : change.isOn left = true)
    (hright : change.isOn right = true) : left.same right = true := by
  unfold isOn at hleft hright
  cases hp : change.path? with
  | none => rw [hp] at hleft; cases hleft
  | some named =>
    rw [hp] at hleft hright
    rw [Path.same_iff, ← Path.same_iff.mp hleft]
    exact Path.same_iff.mp hright

/-- The leaves of a change that is not refused name no other file than the change does. -/
theorem isOn_of_leaf {change : Change} (h : change.foreign? = none) {leaf : Leaf}
    (hm : leaf ∈ change.leaves) {path : Path} (hp : leaf.path? = some path) :
    change.isOn path = true := by
  cases change with
  | edit own order action =>
    rw [Change.leaves, List.mem_singleton] at hm
    subst hm
    cases hp
    exact Path.same_self _
  | noop own order =>
    rw [Change.leaves, List.mem_singleton] at hm
    subst hm
    change own = some path at hp
    subst hp
    exact Path.same_self _
  | bundle own order parts =>
    rw [foreign?, Option.map_eq_none_iff, Leaf.firstForeign?, List.findSome?_eq_none_iff] at h
    have hsame := h leaf hm
    rw [hp] at hsame
    change (if path.same own then none else some path) = none at hsame
    change own.same path = true
    rw [Path.same_comm]
    by_contra hn
    rw [if_neg hn] at hsame
    cases hsame

/-- A change keeps what reading and writing its file keep. -/
theorem keeps_apply {kept : ω → Prop} {change : Change}
    (h : ∀ path, change.isOn path = true → KeepsFile kept path) :
    Task.Keeps kept (change.apply : Task ChangeError ω Unit) := by
  unfold apply
  cases hf : change.foreign? with
  | some paths => exact Task.keeps_throw kept _
  | none =>
    apply Leaf.keeps_applyAll
    intro leaf hm path hp
    exact h path (isOn_of_leaf hf hm hp)

/-- A view that mirrors reading and writing the file of a change mirrors the change. -/
theorem mirrors_apply {view : ω → χ} {change : Change}
    (h : ∀ path, change.isOn path = true → MirrorsFile view path) :
    Task.Mirrors view change.apply change.apply := by
  unfold apply
  cases hf : change.foreign? with
  | some paths => exact Task.mirrors_throw view _
  | none =>
    apply Leaf.mirrors_applyAll
    intro leaf hm path hp
    exact h path (isOn_of_leaf hf hm hp)

/-- What all their files keep is kept by changes. -/
theorem keeps_applyAll {kept : ω → Prop} {changes : List Change}
    (h : ∀ change ∈ changes, ∀ path, change.isOn path = true → KeepsFile kept path) :
    Task.Keeps kept (applyAll changes : Task ChangeError ω Unit) := by
  induction changes with
  | nil => exact Task.keeps_pure kept ()
  | cons change rest ih =>
    have hfirst := keeps_apply (h change List.mem_cons_self)
    have hrest := ih (fun other hm => h other (List.mem_cons_of_mem _ hm))
    exact Task.keeps_bind hfirst (fun _ => hrest)

/-- A view that mirrors all their files mirrors changes. -/
theorem mirrors_applyAll {view : ω → χ} {changes : List Change}
    (h : ∀ change ∈ changes, ∀ path, change.isOn path = true → MirrorsFile view path) :
    Task.Mirrors view (applyAll changes) (applyAll changes) := by
  induction changes with
  | nil => exact Task.mirrors_pure view ()
  | cons change rest ih =>
    have hfirst := mirrors_apply (h change List.mem_cons_self)
    have hrest := ih (fun other hm => h other (List.mem_cons_of_mem _ hm))
    exact Task.mirrors_bind hfirst (fun _ => hrest)

end Change

/-- Every file of a host of contents is mirrored by the contents. -/
theorem ContentHost.mirrorsFile [ContentHost ω] (path : Path) :
    MirrorsFile (contents : ω → Contents) path := ⟨mirrors_read path, mirrors_write path⟩

/-- A host of one file, which it takes every path for. -/
structure SoleFile where
  /-- Its content. -/
  text : String
  deriving Repr, DecidableEq

instance : FileHost SoleFile where
  read _ := fun file => .ok file.text file
  write _ content := fun _ => .ok () ⟨content⟩
  has _ _ := true
  ensureFile _ := pure ()

namespace Contents

/-- One file of the contents; an absent one counts as empty. -/
def sole (path : Path) (contents : Contents) : SoleFile := ⟨contents.text path⟩

/-- Spellings of the path of a file are that file. -/
theorem mirrorsFile_sole {path own : Path} (h : own.same path = true) :
    MirrorsFile (sole path) own := by
  have hc := Path.same_iff.mp h
  refine ⟨fun contents => ?_, fun content contents => ?_⟩
  · change EStateM.Result.ok (contents.text own) _ = .ok (contents.text path) _
    rw [text, text, hc]
  · change EStateM.Result.ok () (sole path (contents.put own content)) = .ok () ⟨content⟩
    rw [sole, text, ← hc, put_self]
    rfl

/-- Reading and writing a file leave the others alone. -/
theorem keepsFile_other {own : Path} {components : List PathComponent}
    (h : own.components ≠ components) (content? : Option String) :
    KeepsFile (fun contents : Contents => contents components = content?) own :=
  ⟨fun _ hk => hk, fun _ _ hk => (put_other h).trans hk⟩

/-- Reading and writing delete no file. -/
theorem keepsFile_present (own : Path) (components : List PathComponent) :
    KeepsFile (fun contents : Contents => (contents components).isSome = true) own := by
  refine ⟨fun _ hk => hk, fun content contents hk => ?_⟩
  change (contents.put own content components).isSome = true
  by_cases hc : own.components = components
  · rw [← hc, put_self]
    rfl
  · rw [put_other hc]
    exact hk

end Contents

namespace Change

/-- Seen from a file, a change of it is the same change of a host that holds nothing else. -/
theorem mirrors_sole {path : Path} {change : Change} (h : change.isOn path = true) :
    Task.Mirrors (Contents.sole path) change.apply change.apply := by
  apply mirrors_apply
  intro own hown
  exact Contents.mirrorsFile_sole (same_of_isOn hown h)

/-- Seen from a file, a change of another one does nothing. -/
theorem sole_apply_other {path : Path} {change : Change} (h : change.isOn path = false)
    (contents : Contents) :
    Contents.sole path (Task.after change.apply contents) = Contents.sole path contents := by
  have hkept : Task.Keeps (fun left : Contents => left path.components = contents path.components)
      (change.apply : Task ChangeError Contents Unit) := by
    apply keeps_apply
    intro own hown
    apply Contents.keepsFile_other
    intro hc
    rw [isOn_congr (Path.same_iff.mpr hc), h] at hown
    cases hown
  rw [Contents.sole, Contents.sole, Contents.text, Contents.text, hkept contents rfl]

theorem on_cons_of_isOn {path : Path} {change : Change} (h : change.isOn path = true)
    (rest : List Change) : on path (change :: rest) = change :: on path rest :=
  List.filter_cons_of_pos h

theorem on_cons_of_not {path : Path} {change : Change} (h : change.isOn path = false)
    (rest : List Change) : on path (change :: rest) = on path rest :=
  List.filter_cons_of_neg (by rw [h]; exact Bool.false_ne_true)

/-- A change that was applied is seen from a file as the first of its changes, or not at all. -/
theorem applyAll_on_cons {change : Change} {contents next : Contents}
    (h : change.apply contents = .ok () next) (rest : List Change) (path : Path) :
    applyAll (on path (change :: rest)) (contents.sole path) =
      applyAll (on path rest) (next.sole path) := by
  cases hon : change.isOn path with
  | true =>
    have hfirst := (mirrors_sole hon).of_ok h
    rw [on_cons_of_isOn hon, applyAll, Task.bind_of_ok hfirst]
  | false =>
    have hfirst := sole_apply_other hon contents
    rw [Task.after_of_ok h] at hfirst
    rw [on_cons_of_not hon, hfirst]

/-- Changes that were all applied leave of each file what its own changes leave. -/
theorem applyAll_sole_of_ok {changes : List Change} {contents left : Contents}
    (h : applyAll changes contents = .ok () left) (path : Path) :
    applyAll (on path changes) (contents.sole path) = .ok () (left.sole path) := by
  induction changes generalizing contents with
  | nil =>
    cases h
    rfl
  | cons change rest ih =>
    rw [applyAll, Task.bind_apply] at h
    cases hr : (change.apply : Task ChangeError Contents Unit) contents with
    | error error stuck => rw [hr] at h; cases h
    | ok _ next =>
      rw [hr] at h
      rw [applyAll_on_cons hr]
      exact ih h

/-- Changes that were applied leave the rest to be applied where they end. -/
theorem applyAll_append_of_ok {first rest : List Change} {host left : ω}
    (h : applyAll first host = .ok () left) :
    applyAll (first ++ rest) host = applyAll rest left := by
  induction first generalizing host with
  | nil =>
    cases h
    rfl
  | cons change others ih =>
    rw [applyAll, Task.bind_apply] at h
    cases hr : (change.apply : Task ChangeError ω Unit) host with
    | error error stuck => rw [hr] at h; cases h
    | ok _ next =>
      rw [hr] at h
      rw [List.cons_append, applyAll, Task.bind_of_ok hr]
      exact ih h

/-- A change without a path does nothing. -/
theorem apply_of_pathless {change : Change} (h : change.path? = none) (host : ω) :
    change.apply host = .ok () host := by
  cases change with
  | edit path order action => cases h
  | bundle path order parts => cases h
  | noop path order => rfl

/-- If a change cannot be applied, those of its file fail in the same way by themselves. -/
theorem applyAll_sole_of_error {changes : List Change} {contents left : Contents}
    {error : ChangeError} (h : applyAll changes contents = .error error left) :
    ∃ path, on path changes ≠ [] ∧
      applyAll (on path changes) (contents.sole path) = .error error (left.sole path) := by
  induction changes generalizing contents with
  | nil => cases h
  | cons change rest ih =>
    rw [applyAll, Task.bind_apply] at h
    cases hr : (change.apply : Task ChangeError Contents Unit) contents with
    | ok _ next =>
      rw [hr] at h
      obtain ⟨path, hne, hrest⟩ := ih h
      refine ⟨path, ?_, (applyAll_on_cons hr rest path).trans hrest⟩
      cases hon : change.isOn path with
      | true => rw [on_cons_of_isOn hon]; exact List.cons_ne_nil _ _
      | false => rw [on_cons_of_not hon]; exact hne
    | error error stuck =>
      rw [hr] at h
      cases h
      cases hp : change.path? with
      | none => rw [apply_of_pathless hp] at hr; cases hr
      | some own =>
        have hon : change.isOn own = true := by
          unfold isOn
          rw [hp]
          exact Path.same_self own
        refine ⟨own, ?_, ?_⟩
        · rw [on_cons_of_isOn hon]
          exact List.cons_ne_nil _ _
        · rw [on_cons_of_isOn hon, applyAll]
          exact Task.bind_of_error ((mirrors_sole hon).of_error hr)

/-- Changes can be applied together exactly if those of each file can be. -/
theorem applyAll_succeeds_iff (changes : List Change) (contents : Contents) :
    (applyAll changes : Task ChangeError Contents Unit).succeeds contents = true ↔
      ∀ path, on path changes ≠ [] →
        (applyAll (on path changes) : Task ChangeError SoleFile Unit).succeeds
          (contents.sole path) = true := by
  constructor
  · intro h path _
    obtain ⟨_, left, hr⟩ := Task.succeeds_iff.mp h
    exact Task.succeeds_iff.mpr ⟨(), _, applyAll_sole_of_ok hr path⟩
  · intro h
    cases hr : (applyAll changes : Task ChangeError Contents Unit) contents with
    | ok _ left => exact Task.succeeds_iff.mpr ⟨(), left, hr⟩
    | error error left =>
      obtain ⟨path, hne, hfails⟩ := applyAll_sole_of_error hr
      obtain ⟨_, _, hok⟩ := Task.succeeds_iff.mp (h path hne)
      rw [hfails] at hok
      cases hok

end Change

end Scaffold
