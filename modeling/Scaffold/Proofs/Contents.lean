import Scaffold.Host.Layered
import Scaffold.Host.Workspace
import Scaffold.Proofs.PathMap
import Scaffold.Proofs.Task

/-!
# Hosts seen as contents

The least that a host can be is a function from paths to contents. Files in memory, workspaces
and layers over them are compared with it through a view: each operation does to the view what
the same operation does to the function. Layers never reach the host under them.
-/

namespace Scaffold

/-- What a host holds: under the components of a path the content of a file, if there is one. -/
abbrev Contents := List PathComponent → Option String

namespace Contents

/-- The content that reading a path gives; an absent file is empty. -/
def text (contents : Contents) (path : Path) : String := (contents path.components).getD ""

/-- The contents with a file set. -/
def put (contents : Contents) (path : Path) (content : String) : Contents :=
  Function.update contents path.components (some content)

/-- The contents with an absent file created empty. -/
def touch (contents : Contents) (path : Path) : Contents :=
  if (contents path.components).isSome then contents else contents.put path ""

instance : FileHost Contents where
  read path := fun contents => .ok (contents.text path) contents
  write path content := fun contents => .ok () (contents.put path content)
  has path contents := (contents path.components).isSome
  ensureFile path := fun contents => .ok () (contents.touch path)

/-- What is put at a path is there. -/
theorem put_self {contents : Contents} {path : Path} {content : String} :
    contents.put path content path.components = some content := Function.update_self ..

/-- Nothing else is put anywhere. -/
theorem put_other {contents : Contents} {path : Path} {content : String}
    {components : List PathComponent} (h : path.components ≠ components) :
    contents.put path content components = contents components :=
  Function.update_of_ne (Ne.symm h) _ _

/-- Touching a path puts an empty text there if there is none. -/
theorem touch_apply (contents : Contents) (path : Path) (components : List PathComponent) :
    contents.touch path components =
      if path.components = components ∧ contents components = none then some ""
      else contents components := by
  unfold touch
  by_cases hp : path.components = components
  · subst hp
    cases hc : contents path.components with
    | none => simp only [Option.isSome_none, Bool.false_eq_true, if_false, put_self, and_self, if_true]
    | some content => simp only [Option.isSome_some, if_true, hc, reduceCtorEq, and_false, if_false]
  · have hn : ¬(path.components = components ∧ contents components = none) := fun h => hp h.1
    rw [if_neg hn]
    cases (contents path.components).isSome with
    | true => rfl
    | false => exact put_other hp

end Contents

/-- Hosts whose operations always succeed and do to the contents what they say. -/
class ContentHost (ω : Type) [FileHost ω] where
  /-- What the host holds. -/
  contents : ω → Contents
  /-- Reading is reading the contents. -/
  mirrors_read (path : Path) :
    Task.Mirrors contents (FileHost.read path : Task ChangeError ω String) (FileHost.read path)
  /-- Writing sets the contents. -/
  mirrors_write (path : Path) (content : String) :
    Task.Mirrors contents (FileHost.write path content : Task ChangeError ω Unit)
      (FileHost.write path content)
  /-- There is something where there is content. -/
  has_contents (path : Path) (host : ω) :
    FileHost.has path (contents host) = FileHost.has path host
  /-- Creating a file creates it in the contents. -/
  mirrors_ensureFile (path : Path) :
    Task.Mirrors contents (FileHost.ensureFile path : Task ChangeError ω Unit)
      (FileHost.ensureFile path)

/-- Hosts that reading leaves as they are. -/
class QuietReads (ω : Type) [FileHost ω] : Prop where
  /-- The host after a read is the host before it. -/
  after_read (path : Path) (host : ω) :
    (FileHost.read path : Task ChangeError ω String).after host = host

instance : QuietReads Contents := ⟨fun _ _ => rfl⟩

namespace MemoryHost

/-- A file is looked up in memory by the components of its path. -/
theorem content?_eq (host : MemoryHost) (path : Path) :
    host.content? path = host.files.at? path.components := PathMap.find?_eq_at? host.files path

/-- What reading a file in memory gives; an absent file is empty. -/
def text (host : MemoryHost) (path : Path) : String := (host.content? path).getD ""

/-- What is put on a host is put into its contents. -/
theorem at?_put (host : MemoryHost) (path : Path) (content : String) :
    (host.put path content).files.at? = Contents.put host.files.at? path content :=
  PathMap.at?_insert host.files path content

/-- What is touched on a host is touched in its contents. -/
theorem at?_touch (host : MemoryHost) (path : Path) :
    (host.touch path).files.at? = Contents.touch host.files.at? path := by
  unfold touch Contents.touch
  rw [PathMap.contains_eq]
  split
  · rfl
  · exact at?_put host path ""

instance : ContentHost MemoryHost where
  contents host := host.files.at?
  mirrors_read path host := by
    change EStateM.Result.ok ((host.content? path).getD "") host.files.at? = _
    rw [content?_eq]
    rfl
  mirrors_write path content host := congrArg (EStateM.Result.ok ()) (at?_put host path content)
  has_contents path host := (PathMap.contains_eq host.files path).symm
  mirrors_ensureFile path host := congrArg (EStateM.Result.ok ()) (at?_touch host path)

instance : QuietReads MemoryHost := ⟨fun _ _ => rfl⟩

end MemoryHost

namespace Workspace

/-- A task on the files of a workspace looks like the task on the files. -/
theorem mirrors_onFiles {ε α : Type} (task : Task ε MemoryHost α) :
    Task.Mirrors Workspace.files (onFiles task) task := by
  intro workspace
  unfold onFiles
  cases task workspace.files <;> rfl

/-- What mirrors the contents of files does so beside a disk. -/
theorem mirrors_contents {ε α : Type} {task : Task ε MemoryHost α} {image : Task ε Contents α}
    (h : Task.Mirrors ContentHost.contents task image) :
    Task.Mirrors (fun workspace : Workspace => ContentHost.contents workspace.files)
      (onFiles task) image := by
  intro workspace
  rw [← h workspace.files, ← mirrors_onFiles task workspace]
  cases onFiles task workspace <;> rfl

instance : ContentHost Workspace where
  contents workspace := ContentHost.contents workspace.files
  mirrors_read path := mirrors_contents (ContentHost.mirrors_read path)
  mirrors_write path content := mirrors_contents (ContentHost.mirrors_write path content)
  has_contents path workspace := ContentHost.has_contents path workspace.files
  mirrors_ensureFile path := mirrors_contents (ContentHost.mirrors_ensureFile path)

instance : QuietReads Workspace := ⟨fun _ _ => rfl⟩

end Workspace

instance : QuietReads RootedDisk where
  after_read path host := by
    change Task.after (fun host => match RootedDisk.readAt host.disk (host.resolve path) with
      | .ok content => .ok content host
      | .error error => .error error host) host = host
    unfold Task.after
    cases hr : RootedDisk.readAt host.disk (host.resolve path) <;> simp only [hr]

namespace Layered

variable {ω : Type} [FileHost ω]

/-- What is seen through the layers. -/
def contents [ContentHost ω] : Layered ω → Contents
  | ground host => ContentHost.contents host
  | covered base overlay => fun components =>
    match overlay.at? components with
    | some content => content
    | none => base.contents components

/-- A cover shows what it holds, and what is below it elsewhere. -/
theorem contents_covered [ContentHost ω] (base : Layered ω) (overlay : Overlay)
    (components : List PathComponent) :
    (covered base overlay).contents components =
      match overlay.at? components with
      | some content => content
      | none => base.contents components := rfl

/-- What a layer takes over of a path is what is seen there from then on. -/
theorem contents_insert [ContentHost ω] (base : Layered ω) (overlay : Overlay) (path : Path)
    (content : Option String) :
    (covered base (overlay.insert path content)).contents =
      Function.update (covered base overlay).contents path.components content := by
  funext components
  rw [contents_covered, PathMap.at?_insert, Function.update_apply, Function.update_apply]
  by_cases hc : components = path.components
  · rw [if_pos hc, if_pos hc]
  · rw [if_neg hc, if_neg hc, contents_covered]

/-- Taking over what is seen of a path changes nothing of what is seen. -/
theorem contents_insert_seen [ContentHost ω] {base : Layered ω} {overlay : Overlay} {path : Path}
    {content : Option String} (h : (covered base overlay).contents path.components = content) :
    (covered base (overlay.insert path content)).contents = (covered base overlay).contents := by
  rw [contents_insert, ← h, Function.update_eq_self]

/-- A cover shows the same over the same contents. -/
theorem contents_covered_congr [ContentHost ω] {left base : Layered ω}
    (h : left.contents = base.contents) (overlay : Overlay) :
    (covered left overlay).contents = (covered base overlay).contents := by
  funext components
  rw [contents_covered, contents_covered, h]

/-- There is a file in the layers if there is one in their contents. -/
theorem has_contents [ContentHost ω] (path : Path) (layers : Layered ω) :
    FileHost.has path layers.contents = layers.has path := by
  induction layers with
  | ground host => exact ContentHost.has_contents path host
  | covered base overlay ih =>
    change ((covered base overlay).contents path.components).isSome = _
    rw [contents_covered]
    unfold has
    rw [PathMap.find?_eq_at?]
    cases overlay.at? path.components with
    | some content => rfl
    | none => exact ih

/-- Reading shows what is seen, and what is seen stays, although layers take it over. -/
theorem mirrors_read [ContentHost ω] (path : Path) :
    Task.Mirrors contents (Layered.read path : Task ChangeError (Layered ω) String)
      (FileHost.read path) := by
  intro layers
  induction layers with
  | ground host =>
    have h := ContentHost.mirrors_read path host
    rw [Layered.read]
    cases hr : (FileHost.read path : Task ChangeError ω String) host with
    | ok content left => rw [hr] at h; exact h
    | error error left => rw [hr] at h; exact h
  | covered base overlay ih =>
    unfold Layered.read
    rw [PathMap.find?_eq_at?]
    cases ho : overlay.at? path.components with
    | some content =>
      change EStateM.Result.ok (content.getD "") _ = EStateM.Result.ok _ _
      rw [Contents.text, contents_covered, ho]
    | none =>
      have hseen : (covered base overlay).contents path.components =
          base.contents path.components := by rw [contents_covered, ho]
      have hhas : (base.contents path.components).isSome = base.has path := has_contents path base
      simp only
      cases hb : base.has path with
      | false =>
        have hnone : base.contents path.components = none := by
          rw [hb] at hhas
          exact Option.not_isSome_iff_eq_none.mp (by rw [hhas]; exact Bool.false_ne_true)
        change EStateM.Result.ok "" (covered base (overlay.insert path none)).contents = .ok _ _
        rw [contents_insert_seen (hseen.trans hnone), Contents.text, hseen, hnone]
        rfl
      | true =>
        obtain ⟨content, hsome⟩ := Option.isSome_iff_exists.mp (hhas.trans hb)
        have htext : base.contents.text path = content := by rw [Contents.text, hsome]; rfl
        simp only [if_true]
        cases hr : Layered.read path base with
        | error error left => rw [hr] at ih; cases ih
        | ok value left =>
          rw [hr] at ih
          change EStateM.Result.ok value left.contents = .ok (base.contents.text path) base.contents
            at ih
          obtain ⟨rfl, hleft⟩ := EStateM.Result.ok.inj ih
          have hkept : (covered left overlay).contents path.components = some content := by
            rw [contents_covered_congr hleft, hseen, hsome]
          change EStateM.Result.ok _ (covered left (overlay.insert path _)).contents = .ok _ _
          rw [htext, contents_insert_seen hkept, contents_covered_congr hleft, Contents.text, hseen,
            hsome]
          rfl

/-- Layers are written as their contents are. -/
theorem mirrors_write [ContentHost ω] (path : Path) (content : String) :
    Task.Mirrors contents (Layered.write path content : Task ChangeError (Layered ω) Unit)
      (FileHost.write path content) := by
  intro layers
  cases layers with
  | ground host =>
    have h := ContentHost.mirrors_write path content host
    rw [Layered.write]
    cases hr : (FileHost.write path content : Task ChangeError ω Unit) host with
    | ok value left => rw [hr] at h; exact h
    | error error left => rw [hr] at h; exact h
  | covered base overlay =>
    exact congrArg (EStateM.Result.ok ()) (contents_insert base overlay path (some content))

/-- A file is ensured in layers as in their contents. -/
theorem mirrors_ensureFile [ContentHost ω] (path : Path) :
    Task.Mirrors contents (Layered.ensureFile path : Task ChangeError (Layered ω) Unit)
      (FileHost.ensureFile path) := by
  intro layers
  cases layers with
  | ground host =>
    have h := ContentHost.mirrors_ensureFile path host
    rw [Layered.ensureFile]
    cases hr : (FileHost.ensureFile path : Task ChangeError ω Unit) host with
    | ok value left => rw [hr] at h; exact h
    | error error left => rw [hr] at h; exact h
  | covered base overlay =>
    have hhas := has_contents path (covered base overlay)
    change ((covered base overlay).contents path.components).isSome = _ at hhas
    change _ = EStateM.Result.ok () (Contents.touch (covered base overlay).contents path)
    rw [Layered.ensureFile, Contents.touch, hhas]
    split
    · rfl
    · exact congrArg (EStateM.Result.ok ()) (contents_insert base overlay path (some ""))

instance [ContentHost ω] : ContentHost (Layered ω) where
  contents := contents
  mirrors_read := mirrors_read
  mirrors_write := mirrors_write
  has_contents := has_contents
  mirrors_ensureFile := mirrors_ensureFile

/-- A fresh layer shows the host. -/
theorem contents_shadow [ContentHost ω] (host : ω) :
    ContentHost.contents (shadow host) = ContentHost.contents host := rfl

/-- There is a layer over the host. -/
def Covers (host : ω) (layers : Layered ω) : Prop := 0 < layers.height ∧ layers.host = host

omit [FileHost ω] in
/-- A new layer covers its host. -/
theorem covers_shadow (host : ω) : Covers host (shadow host) := ⟨Nat.one_pos, rfl⟩

/-- Reading through layers leaves the host under them as it is. -/
theorem host_read [QuietReads ω] (path : Path) (layers : Layered ω) :
    (Task.after (Layered.read path) layers).host = layers.host ∧
      (Task.after (Layered.read path) layers).height = layers.height := by
  induction layers with
  | ground host =>
    have h := QuietReads.after_read path host
    simp only [Task.after, Layered.read] at h ⊢
    cases hr : (FileHost.read path : Task ChangeError ω String) host <;>
      rw [hr] at h <;> exact ⟨h, rfl⟩
  | covered base overlay ih =>
    simp only [Task.after] at ih
    simp only [Task.after, Layered.read]
    cases overlay.find? path with
    | some content => exact ⟨rfl, rfl⟩
    | none =>
      cases base.has path with
      | false => exact ⟨rfl, rfl⟩
      | true =>
        simp only [if_true]
        cases hr : Layered.read path base with
        | ok content left => rw [hr] at ih; exact ⟨ih.1, congrArg (· + 1) ih.2⟩
        | error error left => rw [hr] at ih; exact ⟨ih.1, congrArg (· + 1) ih.2⟩

/-- Reading leaves the host below as it is. -/
theorem keeps_covers_read [QuietReads ω] (host : ω) (path : Path) :
    Task.Keeps (Covers host) (FileHost.read path : Task ChangeError (Layered ω) String) := by
  intro layers h
  obtain ⟨hhost, hheight⟩ := host_read path layers
  exact ⟨lt_of_lt_of_eq h.1 hheight.symm, hhost.trans h.2⟩

/-- Writing leaves the host below as it is. -/
theorem keeps_covers_write (host : ω) (path : Path) (content : String) :
    Task.Keeps (Covers host) (FileHost.write path content : Task ChangeError (Layered ω) Unit) := by
  intro layers h
  cases layers with
  | ground host => exact absurd h.1 (Nat.lt_irrefl 0)
  | covered base overlay => exact ⟨Nat.succ_pos _, h.2⟩

end Layered

end Scaffold
