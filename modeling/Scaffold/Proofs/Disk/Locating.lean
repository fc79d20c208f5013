import Scaffold.Proofs.Disk.Following

/-!
# Locating paths

A path that leads to a directory is a root for others: names under it are followed from there, and
so is the parent of a single name. The directory is there already when it is to be created.
-/

namespace Scaffold

/-- A path that can be followed at all. -/
structure Path.CanBeFollowed (path : Path) : Prop where
  /-- It is not empty. -/
  nonempty : path.text ≠ ""
  /-- It holds no null character. -/
  noNull : '\x00' ∉ path.text.toList
  /-- It is not too long. -/
  short : path.text.utf8ByteSize ≤ Disk.pathLimit

/-- A path that another one starts with can be followed if that one can. -/
theorem Path.CanBeFollowed.of_isPrefix {path further : Path} (h : further.CanBeFollowed)
    (hstarts : path.text.toList <+: further.text.toList) (hne : path.text ≠ "") :
    path.CanBeFollowed := by
  obtain ⟨rest, hrest⟩ := hstarts
  have htext : further.text = path.text ++ String.ofList rest := by
    rw [← String.toList_inj, String.toList_append, String.toList_ofList, hrest]
  refine ⟨hne, fun hnull => h.noNull ?_, le_trans ?_ h.short⟩
  · rw [← hrest]
    exact List.mem_append_left _ hnull
  · rw [htext, String.utf8ByteSize_append]
    exact Nat.le_add_right _ _

namespace Disk

/-- Where a path starts. -/
def start (disk : Disk) (path : Path) : Place := if path.isAbsolute then [] else disk.cwd

/-- Paths that begin alike start at the same place. -/
theorem start_of_isPrefix {path further : Path} (disk : Disk)
    (hstarts : path.text.toList <+: further.text.toList) (hne : path.text ≠ "") :
    disk.start path = disk.start further := by
  obtain ⟨rest, hrest⟩ := hstarts
  have hhead : path.text.toList.head? = further.text.toList.head? := by
    rw [← hrest, List.head?_append_of_ne_nil _ fun h => hne (String.toList_eq_nil_iff.mp h)]
  rw [start, start, Path.isAbsolute, Path.isAbsolute, hhead]

/-- A path that can be followed is followed step by step. -/
theorem locate_of_canBeFollowed {path : Path} (h : path.CanBeFollowed) (disk : Disk)
    (purpose : Purpose) :
    disk.locate purpose path =
      disk.follow purpose linkLimit (disk.start path) (steps path.text) := by
  have hnull : path.text.toList.contains '\x00' = false := by
    rw [Bool.eq_false_iff, ne_eq, List.contains_iff_mem]
    exact h.noNull
  have hnonempty : path.text.isEmpty = false :=
    Bool.eq_false_iff.mpr fun hempty => h.nonempty (String.isEmpty_iff.mp hempty)
  unfold locate
  simp only [hnull, hnonempty, Bool.false_eq_true, if_false, if_neg (Nat.not_lt.mpr h.short)]
  rfl

/-- Only paths that can be followed are located. -/
theorem canBeFollowed_of_locate {disk : Disk} {purpose : Purpose} {path : Path} {spot : Spot}
    (h : disk.locate purpose path = .ok spot) : path.CanBeFollowed := by
  unfold locate at h
  simp only at h
  split at h
  · cases h
  · next hnull =>
    split at h
    · cases h
    · next hempty =>
      split at h
      · cases h
      · next hshort =>
        rw [List.contains_iff_mem] at hnull
        exact ⟨fun htext => hempty (String.isEmpty_iff.mpr htext), hnull, Nat.not_lt.mp hshort⟩

/-- A path leads to a directory. -/
def IsAt (disk : Disk) (path : Path) (base : Place) : Prop :=
  disk.locate .use path = .ok (.taken base .directory)

/-- A path is at the place to which its steps lead. -/
theorem isAt_iff {disk : Disk} {path : Path} {base : Place} :
    disk.IsAt path base ↔ path.CanBeFollowed ∧
      ∃ left, Leads disk linkLimit (disk.start path) (steps path.text) left base := by
  constructor
  · intro h
    have hpath := canBeFollowed_of_locate h
    rw [IsAt, locate_of_canBeFollowed hpath] at h
    exact ⟨hpath, leads_of_follow h⟩
  · rintro ⟨hpath, left, h⟩
    rw [IsAt, locate_of_canBeFollowed hpath]
    exact h.follow

/-- A path leads to the same directory when the disk has grown. -/
theorem IsAt.grow {disk grown : Disk} {path : Path} {base : Place} (h : disk.IsAt path base)
    (hgrows : Grows disk grown) : grown.IsAt path base := by
  obtain ⟨hpath, left, hleads⟩ := isAt_iff.mp h
  have hstart : grown.start path = disk.start path := by rw [start, start, hgrows.cwd]
  exact isAt_iff.mpr ⟨hpath, left, hstart ▸ hleads.grow hgrows⟩

section Root

variable {disk : Disk} {root : Path} {base : Place} {names : List String} {name : String}

/-- The lead of a root leads where the root does. -/
theorem IsAt.leads_lead (h : disk.IsAt root base) :
    ∃ left, Leads disk linkLimit (disk.start root) (root.lead.map String.ofList) left base := by
  obtain ⟨_, left, hleads⟩ := isAt_iff.mp h
  obtain ⟨tail, hsteps, htail⟩ := root.steps_eq_lead
  exact ⟨left, (hsteps ▸ hleads).of_append_idle htail⟩

/-- Names under a root are followed from where it leads, for any purpose. -/
theorem IsAt.locate_under (h : disk.IsAt root base) (hne : names ≠ [])
    (hnames : ∀ name ∈ names, IsName name) (hunder : (root.under names).CanBeFollowed) :
    ∃ left, ∀ purpose, disk.locate purpose (root.under names) =
      disk.follow purpose left base names := by
  obtain ⟨left, hleads⟩ := h.leads_lead
  refine ⟨left, fun purpose => ?_⟩
  have hroot := (isAt_iff.mp h).1
  have htrailing : isTrailing names = false := by
    obtain ⟨first, others, rfl⟩ := List.exists_cons_of_ne_nil hne
    have hfirst := (hnames first List.mem_cons_self).nonempty
    rw [isTrailing, List.all_cons, beq_eq_false_iff_ne.mpr hfirst, Bool.false_and]
  rw [locate_of_canBeFollowed hunder, Path.steps_under hnames,
    ← start_of_isPrefix disk (Path.text_isPrefix_under root hne) hroot.nonempty]
  exact hleads.follow_append (.inr htrailing)

/-- The parent of a name under a root leads where the root does. -/
theorem IsAt.exists_parent (h : disk.IsAt root base) (hname : IsName name)
    (hunder : (root.under [name]).CanBeFollowed) :
    ∃ above, (root.under [name]).parent? = some above ∧ disk.IsAt above base := by
  obtain ⟨left, hleads⟩ := h.leads_lead
  obtain ⟨above, hparent, hne, hstarts, kept, idle, tail, hlead, hsteps, hidle, htail⟩ :=
    @Path.parent?_under_singleton root name hname
  have hroot := (isAt_iff.mp h).1
  have hstart : disk.start root = disk.start above :=
    (start_of_isPrefix disk (Path.text_isPrefix_under root (List.cons_ne_nil _ _))
      hroot.nonempty).trans (start_of_isPrefix disk hstarts hne).symm
  rw [hlead, hstart] at hleads
  refine ⟨above, hparent, isAt_iff.mpr ⟨hunder.of_isPrefix hstarts hne, left, ?_⟩⟩
  rw [hsteps]
  exact (hleads.of_append_idle hidle).append_idle htail

end Root

section Creating

variable {disk : Disk} {path : Path} {base : Place}

/-- Separators at the end of a path are idle steps. -/
theorem exists_withoutTrailing (hne : path.text ≠ "") :
    (withoutTrailing path).text ≠ "" ∧ (withoutTrailing path).text.toList <+: path.text.toList ∧
      ∃ tail, steps path.text = steps (withoutTrailing path).text ++ tail ∧
        ∀ step ∈ tail, IsIdle step := by
  obtain ⟨count, hcount⟩ := Path.exists_dropSeparators path.text.toList
  unfold withoutTrailing
  generalize (path.text.toList.reverse.dropWhile (· == '/')).reverse = chars at hcount ⊢
  cases chars with
  | nil => exact ⟨hne, List.prefix_rfl, [], (List.append_nil _).symm, List.forall_mem_nil _⟩
  | cons char rest =>
    simp only [List.isEmpty_cons, Bool.false_eq_true, if_false, String.toList_ofList]
    refine ⟨fun h => ?_, ?_, List.replicate count "", ?_, ?_⟩
    · have hchars := congrArg String.toList h
      rw [String.toList_ofList] at hchars
      cases hchars
    · rw [hcount]
      exact List.prefix_append _ _
    · rw [steps, steps, hcount, Path.pieces_append_separators, List.map_append,
        List.map_replicate, String.toList_ofList]
    · intro step hm
      exact .inl (List.eq_of_mem_replicate hm)

/-- What a path leads to is something at its place, also without the separators at its end. -/
theorem IsAt.createDirectory (h : disk.IsAt path base) :
    disk.createDirectory path = .error .alreadyThere := by
  obtain ⟨hpath, left, hleads⟩ := isAt_iff.mp h
  obtain ⟨hne, hstarts, tail, hsteps, htail⟩ := exists_withoutTrailing hpath.nonempty
  rw [hsteps, ← start_of_isPrefix disk hstarts hne] at hleads
  obtain ⟨place, entry, hfollow⟩ := (hleads.of_append_idle htail).follow_inspect
  unfold Disk.createDirectory create
  rw [locate_of_canBeFollowed (hpath.of_isPrefix hstarts hne), hfollow]

/-- A directory that can be created is settled. -/
theorem settleDirectory_of_ok {made : Disk} (h : disk.createDirectory path = .ok made) :
    disk.settleDirectory path = .ok made := by
  unfold settleDirectory
  rw [h]

/-- A directory that can be created needs none above it. -/
theorem createDirectoriesWithin_of_ok {made : Disk} (h : disk.createDirectory path = .ok made)
    (depth : Nat) : createDirectoriesWithin (depth + 1) path disk = .ok () made := by
  unfold createDirectoriesWithin
  rw [h]

/-- Where the parent is missing, it is created first. -/
theorem createDirectoriesWithin_of_missing {parent : Path} {paved made : Disk} {depth : Nat}
    (missing : disk.createDirectory path = .error .notFound) (hne : path.text ≠ "")
    (hparent : path.parent? = some parent)
    (hpaved : createDirectoriesWithin depth parent disk = .ok () paved)
    (hmade : paved.settleDirectory path = .ok made) :
    createDirectoriesWithin (depth + 1) path disk = .ok () made := by
  have hnonempty : path.text.isEmpty = false :=
    Bool.eq_false_iff.mpr fun hempty => hne (String.isEmpty_iff.mp hempty)
  unfold createDirectoriesWithin
  simp only [missing, hnonempty, Bool.false_eq_true, if_false, if_true, hparent, Option.map_some,
    hpaved, hmade]

/-- A path that is at a place is a directory. -/
theorem IsAt.isDirectory (h : disk.IsAt path base) : disk.isDirectory path = true := by
  rw [Disk.isDirectory, find, h]

/-- A directory that is there is settled as it is. -/
theorem IsAt.settleDirectory (h : disk.IsAt path base) :
    disk.settleDirectory path = .ok disk := by
  unfold Disk.settleDirectory
  simp only [h.createDirectory, h.isDirectory, if_true]

/-- A directory that is there is not created. -/
theorem IsAt.createDirectoriesWithin (h : disk.IsAt path base) (depth : Nat) :
    createDirectoriesWithin (depth + 1) path disk = .ok () disk := by
  have hpath := (isAt_iff.mp h).1
  have hnonempty : path.text.isEmpty = false :=
    Bool.eq_false_iff.mpr fun hempty => hpath.nonempty (String.isEmpty_iff.mp hempty)
  unfold Disk.createDirectoriesWithin
  simp only [h.createDirectory, hnonempty, h.isDirectory, Bool.false_eq_true, reduceCtorEq,
    if_false, if_true]

end Creating

end Disk

end Scaffold
