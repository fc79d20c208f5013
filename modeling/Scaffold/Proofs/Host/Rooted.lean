import Scaffold.Proofs.Disk.Paving

/-!
# Targets on a rooted disk

On a site, reading, creating and writing a target do to the texts of the tree what they do to
contents. Creating a target always succeeds; writing one does when it is there.
-/

namespace Scaffold

namespace Disk

section Site

variable {disk : Disk} {root : Path} {base : Place} {targets : List Path} {target : Path}

/-- The components of a target are its names. -/
theorem Site.components_target (site : disk.Site root base targets) (ht : target ∈ targets) :
    target.components = target.names.map .name := Path.components_of_isPlain (site.plain target ht)

/-- What stands at a target is a text or nothing. -/
theorem Site.target_cases (site : disk.Site root base targets) (ht : target ∈ targets) :
    disk.entry? (base ++ target.names) = none ∧
        disk.textsBelow base target.components = none ∨
      ∃ content, disk.entry? (base ++ target.names) = some (.file (.text content)) ∧
        disk.textsBelow base target.components = some content := by
  rw [site.components_target ht, textsBelow_names]
  obtain hnone | hdirectory | ⟨content, htext⟩ := site.entry_cases target.names
  · exact .inl ⟨hnone, by rw [textAt?, hnone]⟩
  · exact absurd hdirectory (site.notDirectory target ht)
  · exact .inr ⟨content, textAt?_eq_some.mp htext, htext⟩

/-- A target is located where its names lead. -/
theorem Site.locate_target (site : disk.Site root base targets) (ht : target ∈ targets)
    (purpose : Purpose) :
    disk.locate purpose (root.join target) =
      match disk.entry? (base ++ target.names) with
      | some entry => .ok (.taken (base ++ target.names) entry)
      | none =>
        if disk.entry? (base ++ target.names.dropLast) = some .directory then
          .ok (.free (base ++ target.names))
        else .error .notFound := by
  rw [site.join_target ht]
  exact site.locate ht target.names_ne_nil List.prefix_rfl purpose

/-- A target is found with its text, or not at all. -/
theorem Site.find_target (site : disk.Site root base targets) (ht : target ∈ targets) :
    disk.find .use (root.join target) =
      match disk.textsBelow base target.components with
      | some content => .ok (base ++ target.names, .file (.text content))
      | none => .error .notFound := by
  have hlocate := site.locate_target ht .use
  unfold find
  obtain ⟨hentry, htext⟩ | ⟨content, hentry, htext⟩ := site.target_cases ht
  · rw [hentry] at hlocate
    rw [hlocate, htext]
    by_cases hparent : disk.entry? (base ++ target.names.dropLast) = some .directory
    · simp only [if_pos hparent]
    · simp only [if_neg hparent]
  · rw [hentry] at hlocate
    rw [hlocate, htext]

/-- Reading a target gives its text, and none if it is absent. -/
theorem Site.readAt_target (site : disk.Site root base targets) (ht : target ∈ targets) :
    RootedDisk.readAt disk (root.join target) = .ok ((disk.textsBelow base).text target) := by
  unfold RootedDisk.readAt readText readContent Contents.text
  rw [site.find_target ht]
  cases disk.textsBelow base target.components <;> rfl

/-- There is something at a target if it has a text. -/
theorem Site.has_target (site : disk.Site root base targets) (ht : target ∈ targets) :
    disk.has (root.join target) = (disk.textsBelow base target.components).isSome := by
  unfold has
  rw [site.find_target ht]
  cases disk.textsBelow base target.components <;> rfl

/-- Writing a target in its directory sets its text. -/
theorem Site.writeAt_target (site : disk.Site root base targets) (ht : target ∈ targets)
    (hparent : disk.entry? (base ++ target.names.dropLast) = some .directory) (content : String) :
    ∃ left : Disk, RootedDisk.writeAt (root.join target) content disk = .ok () left ∧
      left.Site root base targets ∧
      left.textsBelow base = (disk.textsBelow base).put target content := by
  refine ⟨disk.put (base ++ target.names) (.file (.text content)), ?_,
    site.put_text ht hparent content, ?_⟩
  · have hlocate := site.locate_target ht .write
    unfold RootedDisk.writeAt writeContent
    obtain ⟨hentry, -⟩ | ⟨old, hentry, -⟩ := site.target_cases ht
    · rw [hentry, if_pos hparent] at hlocate
      rw [hlocate]
    · rw [hentry] at hlocate
      rw [hlocate]
  · rw [textsBelow_put_text target.names_ne_nil, Contents.put, site.components_target ht]

/-- A target that is there stands in a directory. -/
theorem Site.parent_of_text (site : disk.Site root base targets) (ht : target ∈ targets)
    (h : (disk.textsBelow base target.components).isSome = true) :
    disk.entry? (base ++ target.names.dropLast) = some .directory := by
  obtain ⟨-, htext⟩ | ⟨content, hentry, -⟩ := site.target_cases ht
  · rw [htext] at h
    cases h
  · rw [← List.dropLast_append_getLast target.names_ne_nil] at hentry
    exact (site.tree.closed hentry).2.2

/-- The directories that lead to a target are created. -/
theorem Site.prepareParent_target (site : disk.Site root base targets) (ht : target ∈ targets) :
    ∃ paved, RootedDisk.prepareParent (root.join target) disk = .ok () paved ∧
      Paves disk paved root base targets target.names.dropLast := by
  obtain ⟨front, last, hsplit⟩ := (List.eq_nil_or_concat' target.names).resolve_left
    target.names_ne_nil
  have hnames := site.plain target ht
  unfold Path.IsPlain at hnames
  have hfollowed := site.canBeFollowed ht target.names_ne_nil List.prefix_rfl
  have hproper : front ≠ target.names := by
    intro h
    have hlength := congrArg List.length hsplit
    rw [h, List.length_append, List.length_singleton] at hlength
    omega
  have htoward : front <+: target.names := hsplit ▸ List.prefix_append _ _
  have hparent : ∃ parent, (root.join target).parent? = some parent ∧
      (front = [] ∧ disk.IsAt parent base ∨ front ≠ [] ∧ parent = root.under front) ∧
      front.length < parent.components.length + 2 := by
    rw [site.join_target ht]
    rw [hsplit] at hnames hfollowed ⊢
    by_cases hnil : front = []
    · subst hnil
      obtain ⟨above, habove, hat⟩ :=
        site.leads.exists_parent (hnames last List.mem_cons_self) hfollowed
      exact ⟨above, habove, .inl ⟨rfl, hat⟩, Nat.succ_pos _⟩
    · have hlength := @Path.length_le_components_under root front
        fun own hm => hnames own (List.mem_append_left _ hm)
      exact ⟨_, Path.parent?_under_concat hnil hnames, .inr ⟨hnil, rfl⟩, by omega⟩
  obtain ⟨parent, hparent, hpath, hdepth⟩ := hparent
  obtain ⟨paved, hpaved, hpaves⟩ :=
    site.createDirectoriesWithin ht htoward hproper hpath hdepth
  refine ⟨paved, ?_, ?_⟩
  · unfold RootedDisk.prepareParent createDirectories
    rw [hparent]
    simp only [hpaved]
  · rw [hsplit, List.dropLast_concat]
    exact hpaves

/-- A target is created empty unless it is there. -/
theorem Site.ensureAt_target (site : disk.Site root base targets) (ht : target ∈ targets) :
    ∃ left : Disk, RootedDisk.ensureAt (root.join target) disk = .ok () left ∧
      left.Site root base targets ∧
      left.textsBelow base = (disk.textsBelow base).touch target := by
  have hhas := site.has_target ht
  unfold RootedDisk.ensureAt Contents.touch
  rw [Task.get_bind_apply, hhas]
  cases hthere : (disk.textsBelow base target.components).isSome with
  | true => exact ⟨disk, rfl, site, rfl⟩
  | false =>
    obtain ⟨paved, hpaved, hpaves⟩ := site.prepareParent_target ht
    obtain ⟨left, hleft, hsite, htexts⟩ := hpaves.site.writeAt_target ht hpaves.directory ""
    rw [hpaves.texts] at htexts
    refine ⟨left, ?_, hsite, htexts⟩
    exact (Task.bind_of_ok hpaved).trans hleft

end Site

end Disk

end Scaffold
