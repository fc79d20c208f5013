import Scaffold.Proofs.Disk.Following

/-!
# Trees of directories and texts

A tree is a directory below which there are directories and files of text only, each under a name
in a directory. Nothing is found below a place that is no directory. Names are followed through a
tree to what stands at their place, to a free place in a directory, or nowhere. A directory or a
text put at a place of a directory leaves a tree unless it covers a directory.
-/

namespace Scaffold

/-- A directory or a file of text. -/
def DiskEntry.isPlain : DiskEntry → Bool
  | directory => true
  | file (.text _) => true
  | file (.binary _) => false
  | link _ => false

namespace Disk

/-- What is put in is found at its place, and nothing else changes. -/
theorem lookup_putIn (place : Place) (entry : DiskEntry) (entries : List (Place × DiskEntry))
    (other : Place) :
    (putIn place entry entries).lookup other =
      if other = place then some entry else entries.lookup other := by
  induction entries with
  | nil =>
    by_cases h : other = place
    · simp [putIn, h]
    · simp [putIn, List.lookup_cons, beq_eq_false_iff_ne.mpr h, h]
  | cons first rest ih =>
    obtain ⟨key, old⟩ := first
    rw [putIn]
    by_cases hkey : key = place
    · subst hkey
      simp only [beq_self_eq_true, if_true, List.lookup_cons]
      by_cases h : other = key
      · simp [h]
      · simp [beq_eq_false_iff_ne.mpr h, h]
    · simp only [beq_eq_false_iff_ne.mpr hkey, Bool.false_eq_true, if_false, List.lookup_cons, ih]
      by_cases h : other = key
      · subst h
        simp [hkey]
      · simp [beq_eq_false_iff_ne.mpr h]

/-- What is put at a place below the root stands there, and nothing else changes. -/
theorem entry?_put (disk : Disk) {place : Place} (hne : place ≠ []) (entry : DiskEntry)
    (other : Place) :
    entry? (disk.put place entry) other =
      if other = place then some entry else disk.entry? other := by
  unfold entry?
  by_cases hnil : other = []
  · subst hnil
    simp only [List.isEmpty_nil, if_true, if_neg (Ne.symm hne)]
  · rw [if_neg (mt List.isEmpty_iff.mp hnil), if_neg (mt List.isEmpty_iff.mp hnil)]
    exact lookup_putIn place entry disk.entries other

/-- What stands at a place below the root is one of the entries. -/
theorem mem_entries_of_entry? {disk : Disk} {place : Place} {entry : DiskEntry} (hne : place ≠ [])
    (h : disk.entry? place = some entry) : (place, entry) ∈ disk.entries := by
  unfold entry? at h
  rw [if_neg (mt List.isEmpty_iff.mp hne)] at h
  obtain ⟨front, back, hentries, -⟩ := List.lookup_eq_some_iff.mp h
  rw [hentries]
  exact List.mem_append_right _ List.mem_cons_self

/-- Something is found where an entry is. -/
theorem entry?_isSome_of_mem {disk : Disk} {pair : Place × DiskEntry} (h : pair ∈ disk.entries) :
    ∃ entry, disk.entry? pair.1 = some entry := by
  rw [← Option.isSome_iff_exists, entry?]
  split
  · rfl
  · exact List.lookup_isSome_iff.mpr ⟨pair, h, beq_self_eq_true _⟩

/-- A directory below which there are directories and files of text only, each under a name in a
directory. -/
structure IsTree (disk : Disk) (base : Place) : Prop where
  /-- It is a directory. -/
  directory : disk.entry? base = some .directory
  /-- What stands below stands in a directory. -/
  closed {names : List String} {name : String} {entry : DiskEntry}
    (h : disk.entry? (base ++ (names ++ [name])) = some entry) :
    IsName name ∧ entry.isPlain = true ∧ disk.entry? (base ++ names) = some .directory

/-- A tree can be recognized by its entries. -/
theorem isTree_iff {disk : Disk} {base : Place} :
    disk.IsTree base ↔ disk.entry? base = some .directory ∧
      ∀ pair ∈ disk.entries, base.isPrefixOf pair.1 = true → pair.1 ≠ base →
        (∀ name ∈ pair.1.getLast?, IsName name) ∧
          (∀ entry ∈ disk.entry? pair.1, entry.isPlain = true) ∧
          disk.entry? pair.1.dropLast = some .directory := by
  constructor
  · intro tree
    refine ⟨tree.directory, fun pair hm hbelow hne => ?_⟩
    obtain ⟨rest, hrest⟩ := List.isPrefixOf_iff_prefix.mp hbelow
    obtain rfl | ⟨names, name, rfl⟩ := List.eq_nil_or_concat' rest
    · exact absurd (by rw [← hrest, List.append_nil]) hne
    · obtain ⟨entry, hentry⟩ := entry?_isSome_of_mem hm
      rw [← hrest] at hentry ⊢
      obtain ⟨hname, hplain, hparent⟩ := tree.closed hentry
      rw [hentry, ← List.append_assoc, List.getLast?_concat, List.dropLast_concat]
      exact ⟨fun _ h => Option.some.inj h ▸ hname, fun _ h => Option.some.inj h ▸ hplain, hparent⟩
  · rintro ⟨hdirectory, h⟩
    refine ⟨hdirectory, @fun names name entry hentry => ?_⟩
    have hm := mem_entries_of_entry? (by simp) hentry
    obtain ⟨hname, hplain, hparent⟩ :=
      h _ hm (List.isPrefixOf_iff_prefix.mpr (List.prefix_append _ _)) (by simp)
    rw [← List.append_assoc, List.getLast?_concat] at hname
    rw [← List.append_assoc, List.dropLast_concat] at hparent
    exact ⟨hname name rfl, hplain entry hentry, hparent⟩

instance (disk : Disk) (base : Place) : Decidable (disk.IsTree base) :=
  decidable_of_iff _ isTree_iff.symm

section Tree

variable {disk : Disk} {base : Place} {names rest : List String} {name : String}

/-- Nothing stands below a place that is no directory. -/
theorem IsTree.none_below (tree : disk.IsTree base)
    (h : disk.entry? (base ++ names) ≠ some .directory) (hne : rest ≠ []) :
    disk.entry? (base ++ (names ++ rest)) = none := by
  induction rest using List.reverseRecOn with
  | nil => exact absurd rfl hne
  | append_singleton front name ih =>
    cases hentry : disk.entry? (base ++ (names ++ (front ++ [name]))) with
    | none => rfl
    | some entry =>
      rw [← List.append_assoc names] at hentry
      obtain ⟨-, -, hparent⟩ := tree.closed hentry
      by_cases hnil : front = []
      · subst hnil
        rw [List.append_nil] at hparent
        exact absurd hparent h
      · rw [ih hnil] at hparent
        cases hparent

/-- What leads to an entry of a tree are names. -/
theorem IsTree.isName (tree : disk.IsTree base) {entry : DiskEntry}
    (h : disk.entry? (base ++ names) = some entry) : ∀ name ∈ names, IsName name := by
  induction names using List.reverseRecOn generalizing entry with
  | nil => exact List.forall_mem_nil _
  | append_singleton front name ih =>
    obtain ⟨hname, -, hparent⟩ := tree.closed h
    intro own hm
    obtain hfront | hlast := List.mem_append.mp hm
    · exact ih hparent own hfront
    · exact List.mem_singleton.mp hlast ▸ hname

/-- There are no links and no other files in a tree. -/
theorem IsTree.isPlain (tree : disk.IsTree base) {entry : DiskEntry}
    (h : disk.entry? (base ++ names) = some entry) : entry.isPlain = true := by
  obtain rfl | ⟨front, name, rfl⟩ := List.eq_nil_or_concat' names
  · rw [List.append_nil, tree.directory] at h
    cases h
    rfl
  · exact (tree.closed h).2.1

/-- A directory in a tree is a tree. -/
theorem IsTree.sub (tree : disk.IsTree base)
    (h : disk.entry? (base ++ names) = some .directory) : disk.IsTree (base ++ names) := by
  refine ⟨h, @fun further name entry hentry => ?_⟩
  rw [List.append_assoc, ← List.append_assoc names] at hentry
  obtain ⟨hname, hplain, hparent⟩ := tree.closed hentry
  rw [← List.append_assoc] at hparent
  exact ⟨hname, hplain, hparent⟩

/-- Names are followed through a tree to what stands at their place. They must not lead through a
file. -/
theorem IsTree.follow (tree : disk.IsTree base) (hne : names ≠ [])
    (hnames : ∀ name ∈ names, IsName name)
    (hopen : ∀ count < names.length, ∀ content,
      disk.entry? (base ++ names.take count) ≠ some (.file content))
    (purpose : Purpose) (links : Nat) :
    disk.follow purpose links base names =
      match disk.entry? (base ++ names) with
      | some entry => .ok (.taken (base ++ names) entry)
      | none =>
        if disk.entry? (base ++ names.dropLast) = some .directory then .ok (.free (base ++ names))
        else .error .notFound := by
  induction names generalizing base with
  | nil => exact absurd rfl hne
  | cons name rest ih =>
    obtain ⟨hname, hrest⟩ := List.forall_mem_cons.mp hnames
    by_cases hlast : rest = []
    · subst hlast
      rw [follow_isStep hname.isStep (.inr (.inl rfl)), List.dropLast_singleton, List.append_nil,
        if_pos tree.directory]
      cases hentry : disk.entry? (base ++ [name]) with
      | none => rfl
      | some entry =>
        have hplain := tree.isPlain hentry
        cases entry with
        | directory => exact Disk.follow.eq_1 ..
        | file content => rfl
        | link target => cases hplain
    · have htrailing : isTrailing rest = false := by
        obtain ⟨first, others, rfl⟩ := List.exists_cons_of_ne_nil hlast
        have hfirst := (hrest first List.mem_cons_self).nonempty
        rw [isTrailing, List.all_cons, beq_eq_false_iff_ne.mpr hfirst, Bool.false_and]
      rw [follow_isStep hname.isStep (.inr (.inr htrailing)), List.dropLast_cons_of_ne_nil hlast]
      cases hentry : disk.entry? (base ++ [name]) with
      | none =>
        have hno : disk.entry? (base ++ [name]) ≠ some .directory := by rw [hentry]; simp
        have hbelow := tree.none_below hno hlast
        have hparent : disk.entry? (base ++ (name :: rest.dropLast)) ≠ some .directory := by
          by_cases hnil : rest.dropLast = []
          · rw [hnil]
            exact hno
          · rw [← List.singleton_append, tree.none_below hno hnil]
            exact Option.some_ne_none _ ∘ Eq.symm
        rw [List.singleton_append] at hbelow
        simp only [htrailing, Bool.false_eq_true, if_false, hbelow, if_neg hparent]
      | some entry =>
        have hplain := tree.isPlain hentry
        cases entry with
        | directory =>
          have hdeeper := ih (tree.sub hentry) hlast hrest (fun count hcount content => by
            have h := hopen (count + 1) (Nat.succ_lt_succ hcount) content
            rwa [List.take_succ_cons, ← List.singleton_append, ← List.append_assoc] at h)
          simp only [List.append_assoc, List.singleton_append] at hdeeper
          exact hdeeper
        | file content =>
          have hpos : 0 < rest.length := List.length_pos_iff.mpr hlast
          exact absurd hentry (hopen 1 (Nat.succ_lt_succ hpos) content)
        | link target => cases hplain

/-- A tree stays one when a directory or a text is put where no directory is. -/
theorem IsTree.put (tree : disk.IsTree base) (hname : IsName name)
    (hparent : disk.entry? (base ++ names) = some .directory)
    (huncovered : disk.entry? (base ++ (names ++ [name])) ≠ some .directory)
    {entry : DiskEntry} (hplain : entry.isPlain = true) :
    (disk.put (base ++ (names ++ [name])) entry).IsTree base := by
  have hne : base ++ (names ++ [name]) ≠ [] := by simp
  refine ⟨?_, @fun others other held h => ?_⟩
  · rw [entry?_put disk hne, if_neg (by simp)]
    exact tree.directory
  · rw [entry?_put disk hne] at h ⊢
    split at h
    · next hplace =>
      obtain ⟨rfl, hsame⟩ := List.append_inj' (List.append_cancel_left hplace) rfl
      cases hsame
      cases h
      rw [if_neg (by simp)]
      exact ⟨hname, hplain, hparent⟩
    · obtain ⟨hother, hheld, hdirectory⟩ := tree.closed h
      have hkept : base ++ others ≠ base ++ (names ++ [name]) :=
        fun hplace => huncovered (hplace ▸ hdirectory)
      rw [if_neg hkept]
      exact ⟨hother, hheld, hdirectory⟩

/-- A disk grows when something is put where nothing or a file is. -/
theorem Grows.put {place : Place} (hne : place ≠ [])
    (h : ∀ entry, disk.entry? place = some entry → ∃ content, entry = .file content)
    (entry : DiskEntry) : Grows disk (disk.put place entry) := by
  refine ⟨rfl, @fun other held hheld notFile => ?_⟩
  rw [entry?_put disk hne]
  split
  · next hplace =>
    obtain ⟨content, hcontent⟩ := h held (hplace ▸ hheld)
    exact absurd hcontent (notFile content)
  · exact hheld

end Tree

end Disk

end Scaffold
