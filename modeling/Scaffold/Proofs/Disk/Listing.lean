import Mathlib.Data.List.Nodup
import Scaffold.Proofs.Disk.Site
import Scaffold.Proofs.Text.Utf8

/-!
# What is in a directory

On an orderly disk, with one entry at a place and names that entries can have, the directories in a
directory are told by their names, each once and in the order of its bytes. The path of an entry in
a directory leads there unless the entry is a link or the path too long.
-/

namespace Scaffold.Disk

section Entries

variable {disk : Disk} {place : Place} {names : List String} {name : String} {entry : DiskEntry}

/-- What is below a place is an entry behind it. -/
theorem mem_below_iff :
    (names, entry) ∈ disk.below place ↔ names ≠ [] ∧ (place ++ names, entry) ∈ disk.entries := by
  rw [below, List.mem_filterMap]
  constructor
  · rintro ⟨⟨key, held⟩, hmem, hsome⟩
    dsimp only at hsome
    split at hsome
    · next hbelow =>
      cases hsome
      rw [Bool.and_eq_true, List.isPrefixOf_iff_prefix, bne_iff_ne] at hbelow
      obtain ⟨⟨names, rfl⟩, hne⟩ := hbelow
      rw [List.drop_left]
      exact ⟨fun hnil => hne (by rw [hnil, List.append_nil]), hmem⟩
    · cases hsome
  · rintro ⟨hne, hmem⟩
    refine ⟨(place ++ names, entry), hmem, ?_⟩
    have hbelow : place.isPrefixOf (place ++ names) = true :=
      List.isPrefixOf_iff_prefix.mpr (List.prefix_append place names)
    have hother : (place ++ names != place) = true := by simpa using hne
    simp only [hbelow, hother, Bool.and_self, if_true, List.drop_left]

/-- The children of a place are the entries with one name behind it. -/
theorem mem_children_iff :
    (name, entry) ∈ disk.children place ↔ (place ++ [name], entry) ∈ disk.entries := by
  rw [children, List.mem_mergeSort, List.mem_filterMap]
  constructor
  · rintro ⟨⟨names, held⟩, hmem, hsome⟩
    dsimp only at hsome
    split at hsome
    · cases hsome
      exact (mem_below_iff.mp hmem).2
    · cases hsome
  · intro hmem
    exact ⟨([name], entry), mem_below_iff.mpr ⟨List.cons_ne_nil _ _, hmem⟩, rfl⟩

/-- The names of the directories in a directory are those under which there is one. -/
theorem mem_subdirectories_iff :
    name ∈ disk.subdirectories place ↔ (place ++ [name], .directory) ∈ disk.entries := by
  rw [subdirectories, List.mem_filterMap, ← mem_children_iff]
  constructor
  · rintro ⟨⟨other, held⟩, hmem, hsome⟩
    dsimp only at hsome
    split at hsome
    · next hheld =>
      cases hsome
      exact hheld ▸ hmem
    · cases hsome
  · exact fun hmem => ⟨(name, .directory), hmem, if_pos rfl⟩

/-- A directory in a place is one of its subdirectories. -/
theorem mem_subdirectories_of_entry? (h : disk.entry? (place ++ [name]) = some .directory) :
    name ∈ disk.subdirectories place := by
  have hmem := mem_entries_of_entry? (by simp) h
  exact mem_subdirectories_iff.mpr hmem

end Entries

/-- A disk as file systems keep it. -/
structure IsOrderly (disk : Disk) : Prop where
  /-- There is one entry at a place. -/
  distinct : (disk.entries.map Prod.fst).Nodup
  /-- Places are told by names that entries can have. -/
  named : ∀ pair ∈ disk.entries, ∀ name ∈ pair.1, IsName name

section Orderly

variable {disk : Disk} {place : Place} {name : String} {entry : DiskEntry}
  (orderly : disk.IsOrderly)
include orderly

/-- On an orderly disk every entry is where it says. -/
theorem IsOrderly.entry?_of_mem (h : (place, entry) ∈ disk.entries) (hne : place ≠ []) :
    disk.entry? place = some entry := by
  obtain ⟨found, hfound⟩ := entry?_isSome_of_mem h
  have hmem := mem_entries_of_entry? hne hfound
  cases List.inj_on_of_nodup_map orderly.distinct h hmem rfl
  exact hfound

/-- On an orderly disk only names are found in a place. -/
theorem IsOrderly.isName (h : disk.entry? (place ++ [name]) = some entry) : IsName name := by
  have hmem := mem_entries_of_entry? (by simp) h
  exact orderly.named _ hmem name (List.mem_append_right place List.mem_cons_self)

/-- On an orderly disk the subdirectories are the directories in a place. -/
theorem IsOrderly.mem_subdirectories_iff :
    name ∈ disk.subdirectories place ↔ disk.entry? (place ++ [name]) = some .directory := by
  refine ⟨fun h => ?_, mem_subdirectories_of_entry?⟩
  exact orderly.entry?_of_mem (Disk.mem_subdirectories_iff.mp h) (by simp)

/-- No two entries of a directory have one name. -/
theorem IsOrderly.pairwise_children (place : Place) :
    (disk.children place).Pairwise fun left right => left.1 ≠ right.1 := by
  have hentries : disk.entries.Pairwise fun left right => left.1 ≠ right.1 :=
    List.pairwise_map.mp orderly.distinct
  have hbelow : (disk.below place).Pairwise fun left right => left.1 ≠ right.1 := by
    refine hentries.filterMap _ fun left right hne first hfirst second hsecond heq => hne ?_
    dsimp only at hfirst hsecond
    split at hfirst <;> cases hfirst
    split at hsecond <;> cases hsecond
    next hleft hright =>
      rw [Bool.and_eq_true, List.isPrefixOf_iff_prefix] at hleft hright
      exact (List.prefix_iff_eq_append.mp hleft.1).symm.trans
        ((congrArg (place ++ ·) heq).trans (List.prefix_iff_eq_append.mp hright.1))
  refine ((List.mergeSort_perm _ _).pairwise_iff Ne.symm).mpr (hbelow.filterMap _ ?_)
  rintro ⟨left, held⟩ ⟨right, other⟩ hne first hfirst second hsecond heq
  dsimp only at hfirst hsecond
  split at hfirst <;> cases hfirst
  split at hsecond <;> cases hsecond
  exact hne (congrArg (fun name => [name]) heq)

/-- The names of directories are told in the order of their bytes, each once. -/
theorem IsOrderly.subdirectories_ascending (place : Place) :
    (disk.subdirectories place).Pairwise fun left right =>
      Text.encode left.toList < Text.encode right.toList := by
  have hsorted : (disk.children place).Pairwise fun left right => left.1 ≤ right.1 := by
    refine (List.pairwise_mergeSort ?_ ?_ _).imp fun hle => by
      simpa only [Bool.not_eq_true', decide_eq_false_iff_not, String.not_lt] using hle
    · intro first second third hfirst hsecond
      simp only [Bool.not_eq_true', decide_eq_false_iff_not, String.not_lt] at hfirst hsecond ⊢
      exact String.le_trans hfirst hsecond
    · intro left right
      simp only [Bool.or_eq_true, Bool.not_eq_true', decide_eq_false_iff_not, String.not_lt]
      exact String.le_total _ _
  refine (hsorted.and (orderly.pairwise_children place)).filterMap _ ?_
  rintro ⟨left, held⟩ ⟨right, other⟩ ⟨hle, hne⟩ first hfirst second hsecond
  dsimp only at hfirst hsecond
  split at hfirst <;> cases hfirst
  split at hsecond <;> cases hsecond
  have hless : left < right :=
    String.not_le.mp fun hge => hne (String.le_antisymm hle hge)
  exact Text.encode_lt (String.lt_iff.mp hless)

end Orderly

section Paths

variable {disk : Disk} {directory : Path} {base : Place} {name : String}

/-- A name behind a path that can be followed is under it. -/
theorem join_eq_under (hdirectory : directory.CanBeFollowed) (hname : IsName name) :
    directory.join ⟨name⟩ = directory.under [name] := by
  have hnames : (Path.mk name).names = [name] := by
    rw [Path.names, steps, Path.pieces_of_not_mem hname.noSeparator, List.map_singleton,
      String.ofList_toList]
  have hplain : (Path.mk name).IsPlain := fun other hother => by
    rw [hnames] at hother
    exact List.mem_singleton.mp hother ▸ hname
  rw [Path.join_of_isPlain hdirectory.nonempty hplain, hnames]

/-- The path of a name in a directory has what the path of the directory has to have, unless it is
too long. -/
theorem nonempty_join (hdirectory : directory.CanBeFollowed) (hname : IsName name) :
    (directory.join ⟨name⟩).text ≠ "" ∧ '\x00' ∉ (directory.join ⟨name⟩).text.toList := by
  constructor
  · rw [join_eq_under hdirectory hname]
    intro hempty
    have hstarts := directory.text_isPrefix_under (List.cons_ne_nil name [])
    rw [hempty] at hstarts
    exact hdirectory.nonempty (String.toList_eq_nil_iff.mp (List.prefix_nil.mp hstarts))
  · intro hnull
    obtain hin | hin | hin := Path.mem_join_text hnull
    · exact hdirectory.noNull hin
    · exact absurd hin (by decide)
    · exact hname.noNull hin

/-- A path that is too long leads nowhere. -/
theorem find_join_of_long (hdirectory : directory.CanBeFollowed) (hname : IsName name)
    (long : pathLimit < (directory.join ⟨name⟩).text.utf8ByteSize) (purpose : Purpose) :
    disk.find purpose (directory.join ⟨name⟩) = .error .nameTooLong := by
  obtain ⟨hne, hnull⟩ := nonempty_join hdirectory hname
  have hcontains : (directory.join ⟨name⟩).text.toList.contains '\x00' = false := by
    rw [Bool.eq_false_iff, ne_eq, List.contains_iff_mem]
    exact hnull
  have hnonempty : (directory.join ⟨name⟩).text.isEmpty = false :=
    Bool.eq_false_iff.mpr fun hempty => hne (String.isEmpty_iff.mp hempty)
  unfold find locate
  simp only [hcontains, hnonempty, Bool.false_eq_true, if_false, if_pos long]

/-- A name in a directory leads to what stands there, if that is no link. -/
theorem IsAt.find_join (h : disk.IsAt directory base) (hname : IsName name)
    (short : (directory.join ⟨name⟩).text.utf8ByteSize ≤ pathLimit) {entry : DiskEntry}
    (hentry : disk.entry? (base ++ [name]) = some entry) (notLink : ∀ target, entry ≠ .link target) :
    disk.find .use (directory.join ⟨name⟩) = .ok (base ++ [name], entry) := by
  have hdirectory := (isAt_iff.mp h).1
  obtain ⟨hne, hnull⟩ := nonempty_join hdirectory hname
  have hfollowed : (directory.join ⟨name⟩).CanBeFollowed := ⟨hne, hnull, short⟩
  rw [join_eq_under hdirectory hname] at hfollowed ⊢
  obtain ⟨left, hlocate⟩ := h.locate_under (List.cons_ne_nil name [])
    (List.forall_mem_singleton.mpr hname) hfollowed
  rw [find, hlocate, follow_isStep hname.isStep (.inr (.inl rfl)), hentry]
  cases entry with
  | directory => rw [Disk.follow]
  | file content => rfl
  | link target => exact absurd rfl (notLink target)

/-- A subdirectory with a path that is not too long leads to its place. -/
theorem IsAt.join (h : disk.IsAt directory base) (hname : IsName name)
    (short : (directory.join ⟨name⟩).text.utf8ByteSize ≤ pathLimit)
    (hentry : disk.entry? (base ++ [name]) = some .directory) :
    disk.IsAt (directory.join ⟨name⟩) (base ++ [name]) := by
  have hfind := h.find_join hname short hentry fun _ => DiskEntry.noConfusion
  unfold find at hfind
  unfold IsAt
  split at hfind
  · next hlocate =>
    cases hfind
    exact hlocate
  · cases hfind
  · cases hfind

end Paths

end Scaffold.Disk
