import Scaffold.Proofs.Contents
import Scaffold.Proofs.Disk.Tree

/-!
# The texts of a tree

The texts below a directory are contents like those of files in memory: under the names that lead
to a file from the directory stands its text. Files in memory that were filled with the files below
a directory hold these contents. They change with what is put below the directory as contents do.
-/

namespace Scaffold

/-- The name that a component is. -/
def PathComponent.name? : PathComponent → Option String
  | .name text => some text
  | _ => none

namespace Disk

/-- The text of the file at a place. -/
def textAt? (disk : Disk) (place : Place) : Option String :=
  match disk.entry? place with
  | some (.file (.text content)) => some content
  | _ => none

/-- The texts below a directory, under the names that lead to them from there. -/
def textsBelow (disk : Disk) (base : Place) : Contents := fun components =>
  (components.mapM PathComponent.name?).bind fun names => disk.textAt? (base ++ names)

/-- The files below a directory with their texts. -/
def filesBelow (disk : Disk) (base : Place) : List (Path × String) :=
  (disk.below base).filterMap fun (names, _) =>
    (disk.textAt? (base ++ names)).map (Path.ofNames names, ·)

/-- Components that all are names spell names. -/
theorem mapM_name? {components : List PathComponent} {names : List String} :
    components.mapM PathComponent.name? = some names ↔ components = names.map .name := by
  induction components generalizing names with
  | nil => cases names <;> simp
  | cons component rest ih =>
    cases component with
    | name text =>
      simp only [List.mapM_cons, PathComponent.name?, Option.bind_eq_bind, Option.bind_some,
        Option.pure_def, Option.bind_eq_some_iff, Option.some.injEq, ih]
      constructor
      · rintro ⟨others, rfl, rfl⟩
        rfl
      · intro h
        cases names with
        | nil => cases h
        | cons first others =>
          obtain ⟨hfirst, hothers⟩ := List.cons.inj h
          exact ⟨others, hothers, congrArg (· :: others) (PathComponent.name.inj hfirst)⟩
    | _ => cases names <;> simp [PathComponent.name?]

section Texts

variable {disk : Disk} {base place : Place} {names : List String} {content : String}

/-- A text is what a file of text holds. -/
theorem textAt?_eq_some :
    disk.textAt? place = some content ↔ disk.entry? place = some (.file (.text content)) := by
  unfold textAt?
  constructor
  · intro h
    split at h
    · next held hentry =>
      cases h
      exact hentry
    · cases h
  · intro h
    rw [h]

/-- What is below a place under names is what is at them. -/
theorem textsBelow_names (disk : Disk) (base : Place) (names : List String) :
    disk.textsBelow base (names.map .name) = disk.textAt? (base ++ names) := by
  rw [textsBelow, mapM_name?.mpr rfl, Option.bind_some]

/-- Texts stand under names. -/
theorem exists_names_of_textsBelow {components : List PathComponent}
    (h : disk.textsBelow base components = some content) :
    ∃ names, components = names.map .name ∧ disk.textAt? (base ++ names) = some content := by
  obtain ⟨names, hnames, htext⟩ := Option.bind_eq_some_iff.mp h
  exact ⟨names, mapM_name?.mp hnames, htext⟩

/-- What is found behind a place is below it. -/
theorem mem_below_of_entry? {entry : DiskEntry} (hne : names ≠ [])
    (h : disk.entry? (base ++ names) = some entry) : (names, entry) ∈ disk.below base := by
  have hplace : base ++ names ≠ [] := List.append_ne_nil_of_right_ne_nil base hne
  refine List.mem_filterMap.mpr ⟨_, mem_entries_of_entry? hplace h, ?_⟩
  have hbelow : base.isPrefixOf (base ++ names) = true :=
    List.isPrefixOf_iff_prefix.mpr (List.prefix_append _ _)
  have hother : (base ++ names != base) = true := by
    simpa using hne
  simp only [hbelow, hother, Bool.and_self, if_true, List.drop_left]

/-- Where no text of a tree is, there is no file. -/
theorem IsTree.not_file_of_textAt? (tree : disk.IsTree base)
    (h : disk.textAt? (base ++ names) = none) (content : FileContent) :
    disk.entry? (base ++ names) ≠ some (.file content) := by
  intro hfile
  have hplain := tree.isPlain hfile
  cases content with
  | text content => rw [textAt?_eq_some.mpr hfile] at h; cases h
  | binary bytes => cases hplain

/-- The names that lead to a text of a tree spell a path with these names. -/
theorem IsTree.names_of_textAt? (tree : disk.IsTree base)
    (h : disk.textAt? (base ++ names) = some content) :
    names ≠ [] ∧ (Path.ofNames names).components = names.map .name := by
  have hentry := textAt?_eq_some.mp h
  have hne : names ≠ [] := by
    rintro rfl
    rw [List.append_nil, tree.directory] at hentry
    cases hentry
  have hown := Path.names_ofNames hne (tree.isName hentry)
  have hplain : (Path.ofNames names).IsPlain := by
    rw [Path.IsPlain, hown]
    exact tree.isName hentry
  refine ⟨hne, (Path.components_of_isPlain hplain).trans ?_⟩
  exact congrArg (List.map PathComponent.name) hown

/-- The files of a tree are listed under names that lead to their texts. -/
theorem IsTree.mem_filesBelow (tree : disk.IsTree base) {pair : Path × String} :
    pair ∈ disk.filesBelow base ↔
      ∃ names, pair.1 = Path.ofNames names ∧ disk.textAt? (base ++ names) = some pair.2 := by
  unfold filesBelow
  rw [List.mem_filterMap]
  constructor
  · rintro ⟨⟨names, entry⟩, -, hpair⟩
    obtain ⟨content, htext, rfl⟩ := Option.map_eq_some_iff.mp hpair
    exact ⟨names, rfl, htext⟩
  · rintro ⟨names, hpath, htext⟩
    obtain ⟨hne, -⟩ := tree.names_of_textAt? htext
    refine ⟨_, mem_below_of_entry? hne (textAt?_eq_some.mp htext), ?_⟩
    simp only [htext, Option.map_some, ← hpath]

/-- Files in memory that were filled with the files of a tree hold its texts. -/
theorem IsTree.contents_withFiles (tree : disk.IsTree base) :
    ContentHost.contents (MemoryHost.withFiles (disk.filesBelow base)) = disk.textsBelow base := by
  have hvalues : ∀ pair ∈ disk.filesBelow base,
      disk.textsBelow base pair.1.components = some pair.2 := by
    intro pair hm
    obtain ⟨names, hpath, htext⟩ := tree.mem_filesBelow.mp hm
    rw [hpath, (tree.names_of_textAt? htext).2, textsBelow_names, htext]
  funext components
  refine (PathMap.at?_ofList hvalues components).trans ?_
  split
  · rfl
  · next hunlisted =>
    by_contra hne
    obtain ⟨content, hcontent⟩ := Option.ne_none_iff_exists'.mp (Ne.symm hne)
    obtain ⟨names, rfl, htext⟩ := exists_names_of_textsBelow hcontent
    exact hunlisted ⟨(Path.ofNames names, content), tree.mem_filesBelow.mpr ⟨names, rfl, htext⟩,
      (tree.names_of_textAt? htext).2⟩

/-- Components that are not all names lead to no text. -/
theorem textsBelow_of_names {components : List PathComponent}
    (h : ∀ names : List String, components ≠ names.map .name) :
    disk.textsBelow base components = none := by
  cases hnames : components.mapM PathComponent.name? with
  | none => rw [textsBelow, hnames, Option.bind_none]
  | some names => exact absurd (mapM_name?.mp hnames) (h names)

/-- What is put elsewhere does not change a text. -/
theorem textAt?_put (hne : place ≠ []) (entry : DiskEntry) {other : Place} (h : other ≠ place) :
    (disk.put place entry).textAt? other = disk.textAt? other := by
  rw [textAt?, textAt?, entry?_put disk hne, if_neg h]

/-- A text put below a directory is put to its texts. -/
theorem textsBelow_put_text (hne : names ≠ []) (content : String) :
    (disk.put (base ++ names) (.file (.text content))).textsBelow base =
      Function.update (disk.textsBelow base) (names.map .name) (some content) := by
  have hplace : base ++ names ≠ [] := List.append_ne_nil_of_right_ne_nil base hne
  funext components
  rw [Function.update_apply]
  split
  · next h =>
    rw [h, textsBelow_names, textAt?_eq_some, entry?_put disk hplace, if_pos rfl]
  · next h =>
    by_cases hnames : ∃ others, components = List.map .name others
    · obtain ⟨others, rfl⟩ := hnames
      have hother : base ++ others ≠ base ++ names :=
        fun hsame => h (congrArg (List.map PathComponent.name) (List.append_cancel_left hsame))
      rw [textsBelow_names, textsBelow_names, textAt?_put hplace _ hother]
    · have hnone := not_exists.mp hnames
      rw [textsBelow_of_names hnone, textsBelow_of_names hnone]

/-- A directory put where nothing is changes no text. -/
theorem textAt?_put_directory (hne : place ≠ []) (hfree : disk.entry? place = none)
    (other : Place) : (disk.put place .directory).textAt? other = disk.textAt? other := by
  by_cases h : other = place
  · subst h
    rw [textAt?, textAt?, entry?_put disk hne, if_pos rfl, hfree]
  · exact textAt?_put hne _ h

/-- A new directory changes no text. -/
theorem textsBelow_put_directory (hne : place ≠ []) (hfree : disk.entry? place = none) :
    (disk.put place .directory).textsBelow base = disk.textsBelow base := by
  funext components
  simp only [textsBelow, textAt?_put_directory hne hfree]

end Texts

end Disk

end Scaffold
