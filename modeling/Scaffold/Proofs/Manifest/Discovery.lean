import Scaffold.Proofs.CommandLine.Naming
import Scaffold.Proofs.Disk.Listing
import Scaffold.Proofs.Registry
import Scaffold.Proofs.Result

/-!
# Blueprints of a project

The manifests of a project are those that stand in the directories of one directory. They are looked
at in the order of the bytes of their names, and either all of them are loaded or the first one with
a defect is told. Every manifest that is loaded has names that a command line can tell apart, and a
registry keeps one blueprint of each name, so that the blueprints of a program and of a project make
up one command.
-/

namespace Scaffold

/-- Whether the bytes of a text come before those of another one. -/
def Text.IsBefore (left right : String) : Prop := encode left.toList < encode right.toList

instance (left right : String) : Decidable (Text.IsBefore left right) :=
  inferInstanceAs (Decidable (_ < _))

theorem Text.ne_of_isBefore {left right : String} (h : IsBefore left right) : left ≠ right :=
  fun heq => absurd (heq ▸ h) (List.lt_irrefl _)

namespace ManifestBlueprint

/-- The path of the manifest in a directory in the one that blueprints are looked for in. -/
def manifestPath (directory : Path) (name : String) : Path :=
  (directory.join ⟨name⟩).join ⟨Manifest.fileName⟩

/-- Whether there is a directory under a name, and not a link to one, and the manifest in it is a
file with this content. -/
def HasManifest (disk : Disk) (base : Place) (name : String) (content : FileContent) : Prop :=
  disk.entry? (base ++ [name]) = some .directory ∧
    disk.entry? (base ++ [name, Manifest.fileName]) = some (.file content)

/-- Whether the path of a directory in another one is short enough for the directory to be opened. -/
def CanBeOpened (directory : Path) (name : String) : Prop :=
  (directory.join ⟨name⟩).text.utf8ByteSize ≤ Disk.pathLimit

instance (directory : Path) (name : String) : Decidable (CanBeOpened directory name) :=
  inferInstanceAs (Decidable (_ ≤ _))

/-- A directory whose manifest can be read, holds a manifest and has no fault. -/
structure IsGood (disk : Disk) (directory : Path) (base : Place) (name : String)
    (manifest : Manifest) : Prop where
  /-- The directory can be opened, -/
  opened : CanBeOpened directory name
  /-- and so can the file, -/
  near : (manifestPath directory name).text.utf8ByteSize ≤ Disk.pathLimit
  /-- which holds the manifest. -/
  parsed : ∃ text, HasManifest disk base name (.text text) ∧ Manifest.ofYaml? text = some manifest
  /-- Nothing is wrong with it. -/
  valid : manifest.fault? disk (directory.join ⟨name⟩) = none

/-- A directory that can be opened, and whose manifest has a defect. -/
inductive IsBad (disk : Disk) (directory : Path) (base : Place) (name : String) :
    ManifestDefect → Prop
  /-- The path of the file is too long. -/
  | far {content : FileContent} (opened : CanBeOpened directory name)
    (held : HasManifest disk base name content)
    (long : Disk.pathLimit < (manifestPath directory name).text.utf8ByteSize) :
    IsBad disk directory base name .unreadable
  /-- The file is no text. -/
  | binary {bytes : List UInt8} (opened : CanBeOpened directory name)
    (near : (manifestPath directory name).text.utf8ByteSize ≤ Disk.pathLimit)
    (held : HasManifest disk base name (.binary bytes)) :
    IsBad disk directory base name .unreadable
  /-- The text holds no manifest. -/
  | malformed {text : String} (opened : CanBeOpened directory name)
    (near : (manifestPath directory name).text.utf8ByteSize ≤ Disk.pathLimit)
    (held : HasManifest disk base name (.text text)) (unparsed : Manifest.ofYaml? text = none) :
    IsBad disk directory base name .malformed
  /-- The manifest has a fault. -/
  | invalid {text : String} {manifest : Manifest} {fault : ManifestFault}
    (opened : CanBeOpened directory name)
    (near : (manifestPath directory name).text.utf8ByteSize ≤ Disk.pathLimit)
    (held : HasManifest disk base name (.text text))
    (parsed : Manifest.ofYaml? text = some manifest)
    (faulty : manifest.fault? disk (directory.join ⟨name⟩) = some fault) :
    IsBad disk directory base name (.invalid fault)

/-- A bad manifest is one that is held where it can be opened. -/
theorem IsBad.held {disk : Disk} {directory : Path} {base : Place} {name : String}
    {defect : ManifestDefect} (bad : IsBad disk directory base name defect) :
    CanBeOpened directory name ∧ ∃ content, HasManifest disk base name content := by
  cases bad with
  | far opened held _ => exact ⟨opened, _, held⟩
  | binary opened _ held => exact ⟨opened, _, held⟩
  | malformed opened _ held _ => exact ⟨opened, _, held⟩
  | invalid opened _ held _ _ => exact ⟨opened, _, held⟩

section Loading

variable {disk : Disk} {directory : Path} {base : Place} {name : String} {content : FileContent}
  {manifest : Manifest} {defect : ManifestDefect}

/-- A directory with a manifest has a good one or one with a defect. -/
theorem isGood_or_isBad (opened : CanBeOpened directory name)
    (held : HasManifest disk base name content) :
    (∃ manifest, IsGood disk directory base name manifest) ∨
      ∃ defect, IsBad disk directory base name defect := by
  by_cases near : (manifestPath directory name).text.utf8ByteSize ≤ Disk.pathLimit
  · cases content with
    | binary bytes => exact .inr ⟨_, .binary opened near held⟩
    | text text =>
      cases hparse : Manifest.ofYaml? text with
      | none => exact .inr ⟨_, .malformed opened near held hparse⟩
      | some manifest =>
        cases hfault : manifest.fault? disk (directory.join ⟨name⟩) with
        | none => exact .inl ⟨manifest, opened, near, ⟨text, held, hparse⟩, hfault⟩
        | some fault => exact .inr ⟨_, .invalid opened near held hparse hfault⟩
  · exact .inr ⟨_, .far opened held (Nat.not_le.mp near)⟩

/-- Of directories in order, all have good manifests, or there is a first one that has not. -/
theorem forall₂_isGood_or_first {names : List String} (ascending : names.Pairwise Text.IsBefore)
    (decided : ∀ name ∈ names, (∃ manifest, IsGood disk directory base name manifest) ∨
      ∃ defect, IsBad disk directory base name defect) :
    (∃ manifests, List.Forall₂ (IsGood disk directory base) names manifests) ∨
      ∃ name ∈ names, (∃ defect, IsBad disk directory base name defect) ∧
        ∀ earlier ∈ names, Text.IsBefore earlier name →
          ∃ manifest, IsGood disk directory base earlier manifest := by
  induction names with
  | nil => exact .inl ⟨[], .nil⟩
  | cons first rest ih =>
    obtain ⟨hfirst, hrest⟩ := List.pairwise_cons.mp ascending
    obtain ⟨hdecided, hdecidedRest⟩ := List.forall_mem_cons.mp decided
    obtain ⟨manifest, hgood⟩ | hbad := hdecided
    · obtain ⟨manifests, hgoods⟩ | ⟨name, hname, hbad, hearlier⟩ := ih hrest hdecidedRest
      · exact .inl ⟨manifest :: manifests, .cons hgood hgoods⟩
      · exact .inr ⟨name, List.mem_cons_of_mem first hname, hbad,
          List.forall_mem_cons.mpr ⟨fun _ => ⟨manifest, hgood⟩, hearlier⟩⟩
    · refine .inr ⟨first, List.mem_cons_self, hbad, List.forall_mem_cons.mpr ⟨?_, ?_⟩⟩
      · exact fun hbefore => absurd hbefore (List.lt_irrefl _)
      · exact fun earlier hearlier hbefore =>
          absurd hbefore (List.lt_asymm (hfirst earlier hearlier))

variable (orderly : disk.IsOrderly) (leads : disk.IsAt directory base)
include orderly leads

/-- A subdirectory that can be opened leads to its place. -/
theorem isAt_join (opened : CanBeOpened directory name)
    (inside : disk.entry? (base ++ [name]) = some .directory) :
    disk.IsAt (directory.join ⟨name⟩) (base ++ [name]) :=
  leads.join (orderly.isName inside) opened inside

/-- A file beside a manifest is found. -/
theorem isFile_join {file : String} (opened : CanBeOpened directory name)
    (inside : disk.entry? (base ++ [name]) = some .directory)
    (isName : Disk.IsName file)
    (short : ((directory.join ⟨name⟩).join ⟨file⟩).text.utf8ByteSize ≤ Disk.pathLimit)
    (held : disk.entry? (base ++ [name] ++ [file]) = some (.file content)) :
    disk.isFile ((directory.join ⟨name⟩).join ⟨file⟩) = true := by
  have hfind := (isAt_join orderly leads opened inside).find_join isName short held
    fun _ => DiskEntry.noConfusion
  rw [Disk.isFile, hfind]

/-- The content of a manifest is what stands at its place. -/
theorem readContent_manifestPath (opened : CanBeOpened directory name)
    (near : (manifestPath directory name).text.utf8ByteSize ≤ Disk.pathLimit)
    (held : HasManifest disk base name content) :
    disk.readContent (manifestPath directory name) = .ok content := by
  have hentry : disk.entry? (base ++ [name] ++ [Manifest.fileName]) = some (.file content) := by
    rw [List.append_assoc]
    exact held.2
  have hfind := (isAt_join orderly leads opened held.1).find_join (by decide) near hentry
    fun _ => DiskEntry.noConfusion
  rw [Disk.readContent, manifestPath, hfind]

/-- The text of a manifest is read by the path of the manifest. -/
theorem readText_manifestPath {text : String} (opened : CanBeOpened directory name)
    (near : (manifestPath directory name).text.utf8ByteSize ≤ Disk.pathLimit)
    (held : HasManifest disk base name (.text text)) :
    disk.readText (manifestPath directory name) = .ok text := by
  rw [Disk.readText, readContent_manifestPath orderly leads opened near held]

/-- A good manifest is loaded as what it tells. -/
theorem load_of_isGood (good : IsGood disk directory base name manifest) :
    load disk (directory.join ⟨name⟩) =
      .ok ⟨directory.join ⟨name⟩, manifest, Replacements.empty⟩ := by
  obtain ⟨text, held, parsed⟩ := good.parsed
  have hread := readText_manifestPath orderly leads good.opened good.near held
  rw [manifestPath] at hread
  unfold load
  simp only [hread, parsed, good.valid]

/-- A bad manifest is refused with its defect. -/
theorem load_of_isBad (bad : IsBad disk directory base name defect) :
    load disk (directory.join ⟨name⟩) =
      .error (.badManifest (manifestPath directory name) defect) := by
  cases bad with
  | far opened held long =>
    have hinside := (Disk.isAt_iff.mp (isAt_join orderly leads opened held.1)).1
    have hread : disk.readText (manifestPath directory name) = .error .nameTooLong := by
      rw [Disk.readText, Disk.readContent, manifestPath,
        Disk.find_join_of_long hinside (by decide) long]
    rw [manifestPath] at hread ⊢
    unfold load
    simp only [hread]
  | binary opened near held =>
    have hread : disk.readText (manifestPath directory name) = .error .notText := by
      rw [Disk.readText, readContent_manifestPath orderly leads opened near held]
    rw [manifestPath] at hread ⊢
    unfold load
    simp only [hread]
  | @malformed text opened near held unparsed =>
    have hread := readText_manifestPath orderly leads opened near held
    rw [manifestPath] at hread ⊢
    unfold load
    simp only [hread, unparsed]
  | @invalid text manifest fault opened near held parsed faulty =>
    have hread := readText_manifestPath orderly leads opened near held
    rw [manifestPath] at hread ⊢
    unfold load
    simp only [hread, parsed, faulty]

end Loading

/-- Whether the manifest under a name is a file. -/
def holdsManifest (disk : Disk) (base : Place) (name : String) : Bool :=
  match disk.entry? (base ++ [name, Manifest.fileName]) with
  | some (.file _) => true
  | _ => false

/-- A subdirectory holds a manifest if a file of that name is in it. -/
theorem holdsManifest_iff {disk : Disk} {base : Place} {name : String} :
    holdsManifest disk base name = true ↔
      ∃ content, disk.entry? (base ++ [name, Manifest.fileName]) = some (.file content) := by
  unfold holdsManifest
  split
  · next content hentry => simp [hentry]
  · next hother => simpa using fun content hentry => hother content hentry

/-- The names of the directories that hold a manifest. -/
def candidates (disk : Disk) (base : Place) : List String :=
  (disk.subdirectories base).filter (holdsManifest disk base)

/-- What is loaded from the manifests in a directory: all of them, or none because of the first one
that has a defect. The names are those of their directories. -/
structure LoadsAllOrNone (disk : Disk) (running : String) (directory : Path) (base : Place)
    (names : List String) : Prop where
  /-- There is a directory under each name, and no link to one, in which the manifest is a file. All
  of these are considered, and nothing else, -/
  considered : ∀ name, name ∈ names ↔ ∃ content, HasManifest disk base name content
  /-- in the order of the bytes of their names. -/
  ascending : names.Pairwise Text.IsBefore
  /-- If their directories can be opened, all of them are good or there is a first one that is not,
  which has a defect. -/
  decided : (∀ name ∈ names, CanBeOpened directory name) →
    (∃ manifests, List.Forall₂ (IsGood disk directory base) names manifests) ∨
      ∃ name ∈ names, (∃ defect, IsBad disk directory base name defect) ∧
        ∀ earlier ∈ names, Text.IsBefore earlier name →
          ∃ manifest, IsGood disk directory base earlier manifest
  /-- If all of them are good, there is a blueprint for each of them in this order, and so are the
  warnings. -/
  all : (∀ name, disk.entry? (base ++ [name]) = some .directory → CanBeOpened directory name) →
    ∀ manifests, List.Forall₂ (IsGood disk directory base) names manifests →
      loadAll disk running directory =
        .ok ((names.zip manifests).map fun (name, manifest) =>
            ⟨directory.join ⟨name⟩, manifest, Replacements.empty⟩,
          manifests.filterMap fun manifest =>
            manifest.version?.bind (Version.warning? running manifest.name))
  /-- The first one with a defect is told. -/
  firstBad : ∀ name defect, IsBad disk directory base name defect →
    (∀ earlier ∈ names, Text.IsBefore earlier name →
      ∃ manifest, IsGood disk directory base earlier manifest) →
    (∀ earlier, disk.entry? (base ++ [earlier]) = some .directory → Text.IsBefore earlier name →
      CanBeOpened directory earlier) →
    loadAll disk running directory = .error (.badManifest (manifestPath directory name) defect)
  /-- A directory whose path is too long is told where nothing before it has a defect. -/
  unopened : ∀ name, disk.entry? (base ++ [name]) = some .directory →
    ¬CanBeOpened directory name →
    (∀ earlier ∈ names, Text.IsBefore earlier name →
      ∃ manifest, IsGood disk directory base earlier manifest) →
    (∀ earlier, disk.entry? (base ++ [earlier]) = some .directory → Text.IsBefore earlier name →
      CanBeOpened directory earlier) →
    loadAll disk running directory =
      .error (.scan directory (directory.join ⟨name⟩) .nameTooLong)

section Visiting

variable {disk : Disk} {directory : Path} {base : Place} {name running : String}
  {content : FileContent} {manifest : Manifest} {defect : ManifestDefect}

/-- What a visit finds is what is loaded from the directory, if it holds a manifest. -/
theorem visit_cases {found : Option ManifestBlueprint}
    (visited : visit disk directory base name = .ok found) :
    found = none ∧ holdsManifest disk base name = false ∨
      ∃ blueprint, found = some blueprint ∧ load disk (directory.join ⟨name⟩) = .ok blueprint := by
  unfold visit at visited
  dsimp only at visited
  split at visited
  · cases visited
  · split at visited
    · cases hload : load disk (directory.join ⟨name⟩) with
      | error error =>
        rw [hload] at visited
        cases visited
      | ok blueprint =>
        rw [hload] at visited
        cases visited
        exact .inr ⟨blueprint, rfl, rfl⟩
    · next hother =>
      cases visited
      refine .inl ⟨rfl, Bool.eq_false_iff.mpr fun hholds => ?_⟩
      obtain ⟨content, hentry⟩ := holdsManifest_iff.mp hholds
      exact hother content hentry

/-- The subdirectories of the directory are visited one by one. -/
theorem loadAll_of_isAt (leads : disk.IsAt directory base) (running : String) :
    loadAll disk running directory =
      ((disk.subdirectories base).mapM (visit disk directory base)).map fun found =>
        (found.filterMap id, (found.filterMap id).filterMap (versionWarning? running)) := by
  have hfind : disk.find .use directory = .ok (base, .directory) := by
    rw [Disk.find, leads]
  unfold loadAll
  rw [hfind]
  dsimp only
  cases (disk.subdirectories base).mapM (visit disk directory base) with
  | error _ => rfl
  | ok _ => rfl

/-- A directory that is not there is passed over with a warning. -/
theorem loadAll_of_missing (missing : disk.isDirectory directory = false) (running : String) :
    loadAll disk running directory =
      .ok ([], ["Blueprints directory " ++ directory.text ++ " does not exist"]) := by
  unfold loadAll
  split
  · next place hfind =>
    have hdirectory : disk.isDirectory directory = true := by
      rw [Disk.isDirectory, hfind]
    rw [missing] at hdirectory
    cases hdirectory
  · rfl

variable (orderly : disk.IsOrderly) (leads : disk.IsAt directory base)
include orderly leads

/-- A subdirectory that can be opened is found by its path. -/
theorem find_join (opened : CanBeOpened directory name)
    (inside : disk.entry? (base ++ [name]) = some .directory) :
    disk.find .use (directory.join ⟨name⟩) = .ok (base ++ [name], .directory) :=
  leads.find_join (orderly.isName inside) opened inside fun _ => DiskEntry.noConfusion

/-- A subdirectory whose path is too long cannot be visited. -/
theorem visit_of_unopened (closed : ¬CanBeOpened directory name)
    (inside : disk.entry? (base ++ [name]) = some .directory) :
    visit disk directory base name =
      .error (.scan directory (directory.join ⟨name⟩) .nameTooLong) := by
  have hfind : disk.find .use (directory.join ⟨name⟩) = .error .nameTooLong :=
    Disk.find_join_of_long (Disk.isAt_iff.mp leads).1 (orderly.isName inside)
      (Nat.not_le.mp closed) .use
  unfold visit
  simp only [hfind]

/-- A visit to a good manifest finds what it tells. -/
theorem visit_of_isGood (good : IsGood disk directory base name manifest) :
    visit disk directory base name =
      .ok (some ⟨directory.join ⟨name⟩, manifest, Replacements.empty⟩) := by
  obtain ⟨text, ⟨inside, held⟩, -⟩ := good.parsed
  unfold visit
  simp only [find_join orderly leads good.opened inside, held,
    load_of_isGood orderly leads good]
  rfl

theorem visit_of_isBad (bad : IsBad disk directory base name defect) :
    visit disk directory base name =
      .error (.badManifest (manifestPath directory name) defect) := by
  obtain ⟨opened, content, inside, held⟩ := bad.held
  unfold visit
  simp only [find_join orderly leads opened inside, held, load_of_isBad orderly leads bad]
  rfl

/-- A visit to a subdirectory without a manifest finds nothing. -/
theorem visit_of_nothing (opened : CanBeOpened directory name)
    (inside : disk.entry? (base ++ [name]) = some .directory)
    (nothing : holdsManifest disk base name = false) :
    visit disk directory base name = .ok none := by
  unfold visit
  simp only [find_join orderly leads opened inside]
  split
  · next content hentry =>
    rw [holdsManifest_iff.mpr ⟨content, hentry⟩] at nothing
    cases nothing
  · rfl

/-- Where a directory can be opened and a manifest in it is good, something is found there or
nothing. -/
theorem exists_visit (opened : CanBeOpened directory name)
    (inside : disk.entry? (base ++ [name]) = some .directory)
    (good : name ∈ candidates disk base → ∃ manifest, IsGood disk directory base name manifest) :
    ∃ found, visit disk directory base name = .ok found := by
  cases hholds : holdsManifest disk base name with
  | false => exact ⟨none, visit_of_nothing orderly leads opened inside hholds⟩
  | true =>
    have hmem : name ∈ disk.subdirectories base := Disk.mem_subdirectories_of_entry? inside
    obtain ⟨manifest, hgood⟩ := good (List.mem_filter.mpr ⟨hmem, hholds⟩)
    exact ⟨_, visit_of_isGood orderly leads hgood⟩

/-- The first directory that cannot be visited ends the loading. -/
theorem loadAll_of_first {error : RegistryError} (running : String)
    (inside : disk.entry? (base ++ [name]) = some .directory)
    (fails : visit disk directory base name = .error error)
    (good : ∀ earlier ∈ candidates disk base, Text.IsBefore earlier name →
      ∃ manifest, IsGood disk directory base earlier manifest)
    (opened : ∀ earlier, disk.entry? (base ++ [earlier]) = some .directory →
      Text.IsBefore earlier name → CanBeOpened directory earlier) :
    loadAll disk running directory = .error error := by
  obtain ⟨front, back, hsplit⟩ :=
    List.append_of_mem (Disk.mem_subdirectories_of_entry? inside)
  have hascending := orderly.subdirectories_ascending base
  rw [hsplit, List.pairwise_append] at hascending
  have hfront : ∀ earlier ∈ front, ∃ found, visit disk directory base earlier = .ok found := by
    intro earlier hearlier
    have hbefore : Text.IsBefore earlier name :=
      hascending.2.2 earlier hearlier name List.mem_cons_self
    have hinside : disk.entry? (base ++ [earlier]) = some .directory := by
      rw [← orderly.mem_subdirectories_iff, hsplit]
      exact List.mem_append_left _ hearlier
    exact exists_visit orderly leads (opened earlier hinside hbefore) hinside
      fun hmem => good earlier hmem hbefore
  rw [loadAll_of_isAt leads, hsplit, mapM_eq_error hfront fails, Except.map]

/-- Good manifests are loaded in the order of their directories, which others may stand between. -/
theorem exists_mapM_visit {directories : List String}
    (inside : ∀ name ∈ directories, disk.entry? (base ++ [name]) = some .directory)
    (opened : ∀ name ∈ directories, CanBeOpened directory name) {manifests : List Manifest}
    (good : List.Forall₂ (IsGood disk directory base)
      (directories.filter (holdsManifest disk base)) manifests) :
    ∃ found, directories.mapM (visit disk directory base) = .ok found ∧
      found.filterMap id = ((directories.filter (holdsManifest disk base)).zip manifests).map
        fun (name, manifest) => ⟨directory.join ⟨name⟩, manifest, Replacements.empty⟩ := by
  induction directories generalizing manifests with
  | nil => exact ⟨[], rfl, rfl⟩
  | cons name rest ih =>
    obtain ⟨hinside, hinsideRest⟩ := List.forall_mem_cons.mp inside
    obtain ⟨hopened, hopenedRest⟩ := List.forall_mem_cons.mp opened
    cases hholds : holdsManifest disk base name with
    | false =>
      rw [List.filter_cons_of_neg (by simp [hholds])] at good ⊢
      obtain ⟨found, hfound, heq⟩ := ih hinsideRest hopenedRest good
      refine ⟨none :: found, ?_, heq⟩
      rw [List.mapM_cons, visit_of_nothing orderly leads hopened hinside hholds, hfound]
      rfl
    | true =>
      rw [List.filter_cons_of_pos hholds] at good ⊢
      cases good with
      | cons hgood hgoods =>
        obtain ⟨found, hfound, heq⟩ := ih hinsideRest hopenedRest hgoods
        refine ⟨some _ :: found, ?_, congrArg (_ :: ·) heq⟩
        rw [List.mapM_cons, visit_of_isGood orderly leads hgood, hfound]
        rfl

omit leads in
/-- The candidates are the subdirectories that hold a manifest. -/
theorem mem_candidates_iff :
    name ∈ candidates disk base ↔ ∃ content, HasManifest disk base name content := by
  rw [candidates, List.mem_filter, orderly.mem_subdirectories_iff, holdsManifest_iff]
  exact exists_and_left.symm

omit leads in
/-- What is considered in an order is determined. -/
theorem candidates_eq_of_ascending {names : List String}
    (ascending : names.Pairwise Text.IsBefore)
    (considered : ∀ name, name ∈ names ↔ ∃ content, HasManifest disk base name content) :
    candidates disk base = names := by
  have hascending := (orderly.subdirectories_ascending base).filter (holdsManifest disk base)
  have hperm : (candidates disk base).Perm names :=
    (List.perm_ext_iff_of_nodup (hascending.imp Text.ne_of_isBefore)
      (ascending.imp Text.ne_of_isBefore)).mpr fun name =>
        (mem_candidates_iff orderly).trans (considered name).symm
  exact hperm.eq_of_pairwise
    (fun _ _ _ _ hbefore hafter => absurd hbefore (List.lt_asymm hafter)) hascending ascending

/-- Of the candidates, all are loaded or none. -/
theorem loadsAllOrNone_candidates (running : String) :
    LoadsAllOrNone disk running directory base (candidates disk base) where
  considered _ := mem_candidates_iff orderly
  ascending := (orderly.subdirectories_ascending base).filter _
  decided opened :=
    forall₂_isGood_or_first ((orderly.subdirectories_ascending base).filter _) fun name hname => by
      obtain ⟨content, held⟩ := (mem_candidates_iff orderly).mp hname
      exact isGood_or_isBad (opened name hname) held
  all opened manifests good := by
    have hinside : ∀ name ∈ disk.subdirectories base,
        disk.entry? (base ++ [name]) = some .directory :=
      fun name hname => orderly.mem_subdirectories_iff.mp hname
    obtain ⟨found, hfound, heq⟩ := exists_mapM_visit orderly leads hinside
      (fun name hname => opened name (hinside name hname)) good
    rw [loadAll_of_isAt leads, hfound, Except.map, heq, List.filterMap_map]
    have hmanifests : ((candidates disk base).zip manifests).map Prod.snd = manifests :=
      List.map_snd_zip good.length_eq.ge
    refine congrArg (fun warnings => Except.ok (_, warnings)) ?_
    conv_rhs => rw [← hmanifests, List.filterMap_map]
    rfl
  firstBad name defect bad good opened := by
    obtain ⟨-, content, inside, -⟩ := bad.held
    exact loadAll_of_first orderly leads running inside (visit_of_isBad orderly leads bad) good
      opened
  unopened name inside closed good opened :=
    loadAll_of_first orderly leads running inside (visit_of_unopened orderly leads closed inside)
      good opened

end Visiting

end ManifestBlueprint

end Scaffold
