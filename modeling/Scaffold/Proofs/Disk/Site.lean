import Scaffold.Proofs.Disk.Locating
import Scaffold.Proofs.Disk.Texts

/-!
# Sites of plans

A site is a root that leads to a tree, with targets that can be files there: no target is a
directory or leads through a file, and none lies above another one. Names that lead to a target are
found at their place, free in a directory, or not at all. A site stays one when a directory on the
way to a target is created, and when a target is written.
-/

namespace Scaffold

/-- A character of a path taken from a root comes from either, or is the separator. -/
theorem Path.mem_join_text {root path : Path} {char : Char}
    (h : char ∈ (root.join path).text.toList) :
    char ∈ root.text.toList ∨ char = '/' ∨ char ∈ path.text.toList := by
  unfold join at h
  simp only at h
  split at h
  · exact .inr (.inr h)
  · split at h
    · simp only [String.toList_append, List.mem_append] at h
      exact h.imp_right .inr
    · simp only [String.toList_append, List.mem_append, or_assoc] at h
      exact h.imp_right (Or.imp_left List.mem_singleton.mp)

namespace Disk

/-- A root that leads to a tree, and targets that can be files there. -/
structure Site (disk : Disk) (root : Path) (base : Place) (targets : List Path) : Prop where
  /-- The root leads to the directory. -/
  leads : disk.IsAt root base
  /-- Below the directory there are only directories and texts. -/
  tree : disk.IsTree base
  /-- Targets are spelled with names. -/
  plain : ∀ target ∈ targets, target.IsPlain
  /-- Targets are not too far from the root. -/
  short : ∀ target ∈ targets, (root.join target).text.utf8ByteSize ≤ pathLimit
  /-- No target lies above another one. -/
  apart : ∀ target ∈ targets, ∀ other ∈ targets, target.names <+: other.names →
    target.names = other.names
  /-- No target is a directory. -/
  notDirectory : ∀ target ∈ targets, disk.entry? (base ++ target.names) ≠ some .directory
  /-- No target leads through a file. -/
  notThrough : ∀ target ∈ targets, ∀ count < target.names.length,
    disk.textAt? (base ++ target.names.take count) = none

section Site

variable {disk : Disk} {root : Path} {base : Place} {targets : List Path} {target : Path}
  {names : List String}

/-- A target is spelled by its names under the root. -/
theorem Site.join_target (site : disk.Site root base targets) (ht : target ∈ targets) :
    root.join target = root.under target.names :=
  Path.join_of_isPlain (isAt_iff.mp site.leads).1.nonempty (site.plain target ht)

/-- Names that lead to a target can be followed. -/
theorem Site.canBeFollowed (site : disk.Site root base targets) (ht : target ∈ targets)
    (hne : names ≠ []) (htoward : names <+: target.names) :
    (root.under names).CanBeFollowed := by
  have hroot := (isAt_iff.mp site.leads).1
  have hnonempty : ∀ {names : List String}, names ≠ [] → (root.under names).text ≠ "" := by
    intro names hne hempty
    have hstarts := Path.text_isPrefix_under root hne
    rw [hempty] at hstarts
    exact hroot.nonempty (String.toList_eq_nil_iff.mp (List.prefix_nil.mp hstarts))
  have htarget : (root.under target.names).CanBeFollowed := by
    refine ⟨hnonempty target.names_ne_nil, ?_, ?_⟩
    · rw [← site.join_target ht]
      intro hnull
      obtain hin | hin | hin := Path.mem_join_text hnull
      · exact hroot.noNull hin
      · exact absurd hin (by decide)
      · exact Path.null_not_mem_of_isPlain (site.plain target ht) hin
    · rw [← site.join_target ht]
      exact site.short target ht
  exact htarget.of_isPrefix (Path.under_text_isPrefix root htoward) (hnonempty hne)

/-- Names that lead to a target are found at their place, free in a directory or not at all. -/
theorem Site.locate (site : disk.Site root base targets) (ht : target ∈ targets)
    (hne : names ≠ []) (htoward : names <+: target.names) (purpose : Purpose) :
    disk.locate purpose (root.under names) =
      match disk.entry? (base ++ names) with
      | some entry => .ok (.taken (base ++ names) entry)
      | none =>
        if disk.entry? (base ++ names.dropLast) = some .directory then .ok (.free (base ++ names))
        else .error .notFound := by
  have hnames : ∀ name ∈ names, IsName name :=
    fun name hm => site.plain target ht name (htoward.subset hm)
  obtain ⟨left, hlocate⟩ :=
    site.leads.locate_under hne hnames (site.canBeFollowed ht hne htoward)
  rw [hlocate]
  apply site.tree.follow hne hnames
  intro count hcount content hfile
  have hfree := site.notThrough target ht count (lt_of_lt_of_le hcount htoward.length_le)
  obtain ⟨rest, hrest⟩ := htoward
  rw [← hrest, List.take_append_of_le_length (Nat.le_of_lt hcount)] at hfree
  exact site.tree.not_file_of_textAt? hfree content hfile

/-- What stands where names lead to is a directory or a text. -/
theorem Site.entry_cases (site : disk.Site root base targets) (names : List String) :
    disk.entry? (base ++ names) = none ∨ disk.entry? (base ++ names) = some .directory ∨
      ∃ content, disk.textAt? (base ++ names) = some content := by
  cases hentry : disk.entry? (base ++ names) with
  | none => exact .inl rfl
  | some entry =>
    have hplain := site.tree.isPlain hentry
    match entry, hplain with
    | .directory, _ => exact .inr (.inl rfl)
    | .file (.text content), _ => exact .inr (.inr ⟨content, textAt?_eq_some.mpr hentry⟩)

/-- Names that lead further than to a file do not lead to a target. -/
theorem Site.textAt?_toward (site : disk.Site root base targets) (ht : target ∈ targets)
    (htoward : names <+: target.names) (hne : names ≠ target.names) :
    disk.textAt? (base ++ names) = none := by
  have hlength : names.length < target.names.length :=
    lt_of_le_of_ne htoward.length_le fun h => hne (htoward.eq_of_length h)
  have hnone := site.notThrough target ht names.length hlength
  rwa [← List.prefix_iff_eq_take.mp htoward] at hnone

/-- A site stays one when a directory on the way to a target is created. -/
theorem Site.put_directory (site : disk.Site root base targets) (ht : target ∈ targets)
    {name : String} (htoward : names ++ [name] <+: target.names)
    (hne : names ++ [name] ≠ target.names)
    (hparent : disk.entry? (base ++ names) = some .directory)
    (hfree : disk.entry? (base ++ (names ++ [name])) = none) :
    (disk.put (base ++ (names ++ [name])) .directory).Site root base targets := by
  have hplace : base ++ (names ++ [name]) ≠ [] := by simp
  have hname : IsName name :=
    site.plain target ht name (htoward.subset (List.mem_append_right _ List.mem_cons_self))
  refine ⟨site.leads.grow (Grows.put hplace (by simp [hfree]) _),
    site.tree.put hname hparent (by simp [hfree]) rfl, site.plain, site.short, site.apart, ?_, ?_⟩
  · intro other hother
    rw [entry?_put disk hplace]
    split
    · next hsame =>
      have hnames := List.append_cancel_left hsame
      exact absurd (hnames.symm.trans (site.apart other hother target ht (hnames ▸ htoward))) hne
    · exact site.notDirectory other hother
  · intro other hother count hcount
    rw [textAt?_put_directory hplace hfree]
    exact site.notThrough other hother count hcount

/-- A site stays one when a target is written in its directory. -/
theorem Site.put_text (site : disk.Site root base targets) (ht : target ∈ targets)
    (hparent : disk.entry? (base ++ target.names.dropLast) = some .directory) (content : String) :
    (disk.put (base ++ target.names) (.file (.text content))).Site root base targets := by
  have hplace : base ++ target.names ≠ [] :=
    List.append_ne_nil_of_right_ne_nil base target.names_ne_nil
  have hsplit := List.dropLast_append_getLast target.names_ne_nil
  have hname : IsName (target.names.getLast target.names_ne_nil) :=
    site.plain target ht _ (List.getLast_mem _)
  have hgrows : Grows disk (disk.put (base ++ target.names) (.file (.text content))) := by
    apply Grows.put hplace
    intro entry hentry
    have hplain := site.tree.isPlain hentry
    match entry, hplain with
    | .directory, _ => exact absurd hentry (site.notDirectory target ht)
    | .file content, _ => exact ⟨content, rfl⟩
  have htree := site.tree.put hname hparent (by rw [hsplit]; exact site.notDirectory target ht)
    (rfl : (DiskEntry.file (.text content)).isPlain = true)
  rw [hsplit] at htree
  refine ⟨site.leads.grow hgrows, htree, site.plain, site.short, site.apart, ?_, ?_⟩
  · intro other hother
    rw [entry?_put disk hplace]
    split
    · simp
    · exact site.notDirectory other hother
  · intro other hother count hcount
    have hother' : base ++ other.names.take count ≠ base ++ target.names := by
      intro hsame
      have hnames := List.append_cancel_left hsame
      have habove := site.apart target ht other hother (hnames ▸ List.take_prefix _ _)
      rw [habove, List.take_eq_self_iff] at hnames
      exact absurd hcount (Nat.not_lt.mpr hnames)
    rw [textAt?_put hplace _ hother']
    exact site.notThrough other hother count hcount

end Site

end Disk

end Scaffold
