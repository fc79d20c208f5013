import Scaffold.Proofs.Disk.Site

/-!
# Paving the way to a target

The directories on the way to a target of a site are created from the last one that is there. This
always succeeds, leaves a site with the same texts, and is done as deep as the path is long.
-/

namespace Scaffold

namespace Disk

/-- What creating the directory of names leaves. -/
structure Paves (disk paved : Disk) (root : Path) (base : Place) (targets : List Path)
    (names : List String) : Prop where
  /-- A site as before. -/
  site : paved.Site root base targets
  /-- The texts are the same. -/
  texts : paved.textsBelow base = disk.textsBelow base
  /-- The directory is there. -/
  directory : paved.entry? (base ++ names) = some .directory

/-- Ways are paved one behind the other. -/
theorem Paves.trans {disk between paved : Disk} {root : Path} {base : Place} {targets : List Path}
    {names further : List String} (near : Paves disk between root base targets names)
    (far : Paves between paved root base targets further) :
    Paves disk paved root base targets further :=
  ⟨far.site, far.texts.trans near.texts, far.directory⟩

section Site

variable {disk : Disk} {root : Path} {base : Place} {targets : List Path} {target path : Path}
  {names : List String} {name : String}

/-- A path that ends in a name ends in no separator. -/
theorem withoutTrailing_under (root : Path) (names : List String) (h : IsName name) :
    withoutTrailing (root.under (names ++ [name])) = root.under (names ++ [name]) := by
  have hchars : name.toList ≠ [] := fun hnil => h.nonempty (String.toList_eq_nil_iff.mp hnil)
  have hlast : ((root.under (names ++ [name])).text.toList.reverse.dropWhile (· == '/')).reverse =
      (root.under (names ++ [name])).text.toList := by
    rw [Path.under_concat_text, ← List.dropLast_append_getLast hchars, ← List.cons_append,
      ← List.append_assoc]
    apply List.rdropWhile_concat_neg
    intro hseparator
    exact h.noSeparator (beq_iff_eq.mp hseparator ▸ List.getLast_mem hchars)
  unfold withoutTrailing
  simp only [hlast]
  split
  · rfl
  · rw [String.ofList_toList]

/-- A directory on the way to a target is created where its parent is. -/
theorem Site.createDirectory (site : disk.Site root base targets) (ht : target ∈ targets)
    (htoward : names ++ [name] <+: target.names) :
    disk.createDirectory (root.under (names ++ [name])) =
      match disk.entry? (base ++ (names ++ [name])) with
      | some _ => .error .alreadyThere
      | none =>
        if disk.entry? (base ++ names) = some .directory then
          .ok (disk.put (base ++ (names ++ [name])) .directory)
        else .error .notFound := by
  have hname : IsName name :=
    site.plain target ht name (htoward.subset (List.mem_append_right _ List.mem_cons_self))
  have hlocate := site.locate ht (List.append_ne_nil_of_right_ne_nil names (List.cons_ne_nil _ _))
    htoward .inspect
  rw [List.dropLast_concat] at hlocate
  unfold Disk.createDirectory create
  rw [withoutTrailing_under root names hname, hlocate]
  cases disk.entry? (base ++ (names ++ [name])) with
  | some entry => rfl
  | none =>
    by_cases hparent : disk.entry? (base ++ names) = some .directory
    · simp only [if_pos hparent]
    · simp only [if_neg hparent]

/-- A directory on the way to a target, where its parent is: it is created or already there. -/
theorem Site.pave (site : disk.Site root base targets) (ht : target ∈ targets)
    (htoward : names ++ [name] <+: target.names) (hne : names ++ [name] ≠ target.names)
    (hparent : disk.entry? (base ++ names) = some .directory) :
    (∃ made, disk.createDirectory (root.under (names ++ [name])) = .ok made ∧
        Paves disk made root base targets (names ++ [name])) ∨
      disk.IsAt (root.under (names ++ [name])) (base ++ (names ++ [name])) ∧
        Paves disk disk root base targets (names ++ [name]) := by
  have hplace : base ++ (names ++ [name]) ≠ [] := by simp
  have hcreate := site.createDirectory ht htoward
  rw [if_pos hparent] at hcreate
  obtain hfree | hdirectory | ⟨content, htext⟩ := site.entry_cases (names ++ [name])
  · rw [hfree] at hcreate
    refine .inl ⟨_, hcreate, site.put_directory ht htoward hne hparent hfree,
      textsBelow_put_directory hplace hfree, ?_⟩
    rw [entry?_put disk hplace, if_pos rfl]
  · have hlocate := site.locate ht
      (List.append_ne_nil_of_right_ne_nil names (List.cons_ne_nil _ _)) htoward .use
    rw [hdirectory] at hlocate
    exact .inr ⟨hlocate, site, rfl, hdirectory⟩
  · rw [site.textAt?_toward ht htoward hne] at htext
    cases htext

/-- The directories on the way to a target are created. The path is the root, spelled in any way,
or spelled with names under it. -/
theorem Site.createDirectoriesWithin (site : disk.Site root base targets) (ht : target ∈ targets)
    (htoward : names <+: target.names) (hne : names ≠ target.names)
    (hpath : names = [] ∧ disk.IsAt path base ∨ names ≠ [] ∧ path = root.under names)
    {depth : Nat} (hdepth : names.length < depth) :
    ∃ paved, createDirectoriesWithin depth path disk = .ok () paved ∧
      Paves disk paved root base targets names := by
  induction names using List.reverseRecOn generalizing path depth with
  | nil =>
    obtain ⟨depth, rfl⟩ := Nat.exists_eq_succ_of_ne_zero (Nat.ne_zero_of_lt hdepth)
    obtain ⟨-, hat⟩ | ⟨habsurd, -⟩ := hpath
    · refine ⟨disk, hat.createDirectoriesWithin depth, site, rfl, ?_⟩
      rw [List.append_nil]
      exact site.tree.directory
    · exact absurd rfl habsurd
  | append_singleton names name ih =>
    obtain ⟨depth, rfl⟩ := Nat.exists_eq_succ_of_ne_zero (Nat.ne_zero_of_lt hdepth)
    have hnonempty : names ++ [name] ≠ [] :=
      List.append_ne_nil_of_right_ne_nil names (List.cons_ne_nil _ _)
    obtain ⟨habsurd, -⟩ | ⟨-, rfl⟩ := hpath
    · exact absurd habsurd hnonempty
    by_cases hparent : disk.entry? (base ++ names) = some .directory
    · obtain ⟨made, hmade, hpaves⟩ | ⟨hat, hpaves⟩ := site.pave ht htoward hne hparent
      · exact ⟨made, createDirectoriesWithin_of_ok hmade depth, hpaves⟩
      · exact ⟨disk, hat.createDirectoriesWithin depth, hpaves⟩
    · -- The parent is missing, so this is not the first of the names.
      have hnames : names ≠ [] := by
        rintro rfl
        rw [List.append_nil] at hparent
        exact hparent site.tree.directory
      have hmissing := site.createDirectory ht htoward
      rw [site.tree.none_below hparent (List.cons_ne_nil _ _), if_neg hparent] at hmissing
      have hup : names <+: target.names := (List.prefix_append names [name]).trans htoward
      have hproper : names ≠ target.names := by
        rintro rfl
        exact absurd htoward.length_le (by simp)
      rw [List.length_append, List.length_singleton, Nat.succ_lt_succ_iff] at hdepth
      obtain ⟨between, hbetween, hpaved⟩ := ih hup hproper (.inr ⟨hnames, rfl⟩) hdepth
      have hplain : ∀ own ∈ names ++ [name], IsName own :=
        fun own hm => site.plain target ht own (htoward.subset hm)
      have hfollowed := site.canBeFollowed ht hnonempty htoward
      obtain ⟨made, hmade, hpaves⟩ | ⟨hat, hpaves⟩ :=
        hpaved.site.pave ht htoward hne hpaved.directory
      · refine ⟨made, createDirectoriesWithin_of_missing hmissing hfollowed.nonempty
          (Path.parent?_under_concat hnames hplain) hbetween (settleDirectory_of_ok hmade),
          hpaved.trans hpaves⟩
      · refine ⟨between, createDirectoriesWithin_of_missing hmissing hfollowed.nonempty
          (Path.parent?_under_concat hnames hplain) hbetween hat.settleDirectory,
          hpaved.trans hpaves⟩

end Site

end Disk

end Scaffold
