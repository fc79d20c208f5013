import Scaffold.Proofs.Manifest.Discovery

/-!
# The command that is discovered

The registry of a run holds blueprints of the program and of the project. If those of the program
can be commands, then so can all of them together: whatever was loaded from manifests was checked
for its own names, and of each name one blueprint is kept.
-/

namespace Scaffold

section Steady

variable {β γ ω : Type}

/-- Blueprints that keep their parameters when they are asked whether they can be used. -/
class SteadyParameters (β ω : Type) [Blueprint β ω] : Prop where
  /-- The parameters are those from before. -/
  parameters_availability (world : ω) (blueprint : β) :
    Declared.parameters (Blueprint.availability world blueprint).2 = Declared.parameters blueprint

instance [FileHost ω] : SteadyParameters FixedBlueprint ω where
  parameters_availability _ _ := rfl

instance [FileHost ω] [HasDisk ω] : SteadyParameters SetupBlueprint ω where
  parameters_availability _ _ := rfl

instance [FileHost ω] [HasDisk ω] : SteadyParameters FeatureBlueprint ω where
  parameters_availability _ _ := rfl

instance [FileHost ω] [HasDisk ω] : SteadyParameters ManifestBlueprint ω where
  parameters_availability _ _ := rfl

instance [Blueprint β ω] [Blueprint γ ω] [SteadyParameters β ω] [SteadyParameters γ ω] :
    SteadyParameters (β ⊕ γ) ω where
  parameters_availability world
    | .inl blueprint => SteadyParameters.parameters_availability world blueprint
    | .inr blueprint => SteadyParameters.parameters_availability world blueprint

end Steady

/-- A blueprint that can be a command of which each flag takes some value. -/
structure IsWellFormed {β : Type} [Declared β] (blueprint : β) : Prop where
  /-- Its name can be that of a command, and those of its parameters can be flags. -/
  names : CommandNames blueprint
  /-- A parameter with choices has one. -/
  choices : ∀ parameter ∈ Declared.parameters blueprint, parameter.kind ≠ .choice []

/-- A registry whose blueprints make up the command of a program. -/
structure Registry.MakesCommand {β : Type} [Declared β] (registry : Registry β) : Prop where
  /-- No name of a subcommand is empty, -/
  nonempty : ∀ entry ∈ registry.entries, entry.name ≠ ""
  /-- and each can be given on a command line. -/
  valid : ∀ entry ∈ registry.entries, Name.isValid entry.name = true
  /-- No name occurs twice, -/
  distinct : (registry.entries.map RegistryEntry.name).Nodup
  /-- nor is one that of another command. -/
  free : ∀ entry ∈ registry.entries, entry.name ∉ Name.reservedCommands
  /-- The flags of each subcommand can be given, are distinct, and none is one of every command. -/
  flags : ∀ entry ∈ registry.entries, FlagNames (Declared.parameters entry.blueprint)
  /-- A parameter with choices has one. -/
  choices : ∀ entry ∈ registry.entries, ∀ parameter ∈ Declared.parameters entry.blueprint,
    ∀ choices, parameter.kind = .choice choices → choices ≠ []

/-- Parameters without fault have some choice where they have choices. -/
theorem ne_choice_nil_of_parametersFault? {seen : List String} {parameters : List Parameter}
    (hnone : Manifest.parametersFault? seen parameters = none) :
    ∀ parameter ∈ parameters, parameter.kind ≠ .choice [] := by
  induction parameters generalizing seen with
  | nil => exact nofun
  | cons parameter rest ih =>
    rw [Manifest.parametersFault?] at hnone
    split at hnone
    case h_1 => cases hnone
    case h_2 hparameter =>
      refine List.forall_mem_cons.mpr ⟨fun hkind => ?_, ih hnone⟩
      unfold Manifest.parameterFault? at hparameter
      obtain ⟨-, hparameter⟩ := passes_of_ite hparameter
      obtain ⟨-, hparameter⟩ := passes_of_ite hparameter
      obtain ⟨-, hparameter⟩ := passes_of_ite hparameter
      obtain ⟨hchoices, -⟩ := passes_of_ite hparameter
      exact hchoices (beq_iff_eq.mpr hkind)

namespace ManifestBlueprint

variable {disk : Disk} {directory : Path} {blueprint : ManifestBlueprint}

/-- A manifest that is loaded has no fault. -/
theorem faultless_of_load (hload : load disk directory = .ok blueprint) :
    blueprint.manifest.fault? disk directory = none := by
  unfold load at hload
  dsimp only at hload
  split at hload
  case h_1 => cases hload
  split at hload
  case h_1 => cases hload
  split at hload
  case h_1 => cases hload
  case h_2 hnone =>
    cases hload
    exact hnone

/-- A blueprint that is loaded is well-formed. -/
theorem isWellFormed_of_load (hload : load disk directory = .ok blueprint) :
    IsWellFormed blueprint := by
  have hnone := faultless_of_load hload
  simp only [Manifest.fault?, Option.or_eq_none_iff] at hnone
  exact ⟨commandNames_of_load hload, ne_choice_nil_of_parametersFault? hnone.2.2.1⟩

/-- All blueprints that are loaded are well-formed. -/
theorem isWellFormed_of_loadAll {running : String} {blueprints : List ManifestBlueprint}
    {warnings : List String} (loaded : loadAll disk running directory = .ok (blueprints, warnings)) :
    ∀ blueprint ∈ blueprints, IsWellFormed blueprint := by
  unfold loadAll at loaded
  split at loaded
  · next place _ =>
    split at loaded
    · next found hfound =>
      cases loaded
      intro blueprint hblueprint
      obtain ⟨_, hvalue, rfl⟩ := List.mem_filterMap.mp hblueprint
      obtain ⟨name, -, hvisit⟩ := exists_of_forall₂ (forall₂_of_mapM_eq_ok hfound).flip hvalue
      obtain ⟨hnothing, -⟩ | ⟨_, hsome, hload⟩ := visit_cases hvisit
      · cases hnothing
      · cases hsome
        exact isWellFormed_of_load hload
    · cases loaded
  · cases loaded
    exact nofun

end ManifestBlueprint

namespace Registry

variable {β ω : Type} [Blueprint β ω] [SteadyNames β ω] [SteadyParameters β ω]

omit [SteadyNames β ω] [SteadyParameters β ω] in
/-- What is offered first was offered. -/
theorem mem_of_mem_firsts {builtIn project : List β} {offer : Origin × β}
    (h : offer ∈ firsts (offers builtIn project)) : offer.2 ∈ builtIn ++ project := by
  obtain ⟨placed, hplaced, rfl⟩ := List.mem_map.mp h
  have hoffer : placed.1 ∈ offers builtIn project :=
    List.fst_mem_of_mem_zipIdx (List.mem_filter.mp hplaced).1
  obtain hbuiltIn | hproject := List.mem_append.mp hoffer
  · obtain ⟨blueprint, hblueprint, heq⟩ := List.mem_map.mp hbuiltIn
    exact List.mem_append_left project (heq ▸ hblueprint)
  · obtain ⟨blueprint, hblueprint, heq⟩ := List.mem_map.mp hproject
    exact List.mem_append_right builtIn (heq ▸ hblueprint)

/-- A blueprint that was asked whether it can be used stays well-formed. -/
theorem isWellFormed_availability (world : ω) {blueprint : β} (h : IsWellFormed blueprint) :
    IsWellFormed (Blueprint.availability world blueprint).2 := by
  have hname := SteadyNames.name_availability world blueprint
  have hparameters := SteadyParameters.parameters_availability world blueprint
  refine ⟨⟨?_, ?_, ?_⟩, ?_⟩
  · rw [hname]
    exact h.names.valid
  · rw [hname]
    exact h.names.free
  · rw [hparameters]
    exact h.names.flags
  · rw [hparameters]
    exact h.choices

/-- Well-formed blueprints make up a command. -/
theorem ofBlueprints_makesCommand (world : ω) {builtIn project : List β}
    (wellFormed : ∀ blueprint ∈ builtIn ++ project, IsWellFormed blueprint) :
    (ofBlueprints world builtIn project).MakesCommand := by
  have hentries : ∀ entry ∈ (ofBlueprints world builtIn project).entries,
      IsWellFormed entry.blueprint := by
    rw [(ofBlueprints_holdsFirsts world builtIn project).entries]
    intro entry hentry
    obtain ⟨offer, hoffer, rfl⟩ := List.mem_map.mp hentry
    exact isWellFormed_availability world (wellFormed offer.2 (mem_of_mem_firsts hoffer))
  have hnamed : (ofBlueprints world builtIn project).WellNamed := ofBlueprints_wellNamed
    (fun blueprint hblueprint =>
      (isWellFormed_availability world (wellFormed blueprint hblueprint)).names)
    fun blueprint _ => SteadyNames.name_availability world blueprint
  refine ⟨fun entry hentry hempty => ?_, fun entry hentry => (hnamed.names entry hentry).valid,
    hnamed.distinct, fun entry hentry => (hnamed.names entry hentry).free,
    fun entry hentry => (hnamed.names entry hentry).flags,
    fun entry hentry parameter hparameter choices hkind hnil => ?_⟩
  · have hvalid := (hnamed.names entry hentry).valid
    rw [show Declared.name entry.blueprint = "" from hempty] at hvalid
    exact absurd hvalid (by decide)
  · subst hnil
    exact (hentries entry hentry).choices parameter hparameter hkind

end Registry

/-- What becomes of the blueprints of a program and a project. -/
structure Product.DiscoversCommand {β ω : Type} [FileHost ω] [HasDisk ω] [Blueprint β ω]
    (product : Product) (builtIns : List (β ⊕ ManifestBlueprint)) (config : ProjectConfig)
    (world : ω) : Prop where
  /-- Without a directory of the project, those of the program make up a command. -/
  alone : config.directory? = none →
    ∃ registry, product.discover builtIns config world = .ok registry ∧ registry.MakesCommand
  /-- With what was loaded from the directory, all of them do. -/
  together : ∀ directory blueprints warnings, config.directory? = some directory →
    ManifestBlueprint.loadAll (HasDisk.disk world) product.version directory =
      .ok (blueprints, warnings) →
    ∃ registry, product.discover builtIns config world = .ok registry ∧ registry.MakesCommand
  /-- Where nothing was loaded, the reason is told. -/
  failed : ∀ directory error, config.directory? = some directory →
    ManifestBlueprint.loadAll (HasDisk.disk world) product.version directory = .error error →
    product.discover builtIns config world = .error error

namespace Product

section Discovering

variable {β ω : Type} [FileHost ω] [HasDisk ω] [Blueprint β ω] [SteadyNames β ω]
  [SteadyParameters β ω]

/-- The commands that are discovered are those of well-formed blueprints. -/
theorem discoversCommand {builtIns : List (β ⊕ ManifestBlueprint)}
    (wellFormed : ∀ builtIn ∈ builtIns, IsWellFormed builtIn) (product : Product)
    (config : ProjectConfig) (world : ω) : product.DiscoversCommand builtIns config world where
  alone none := by
    refine ⟨Registry.ofBlueprints world builtIns [], by rw [discover, none], ?_⟩
    refine Registry.ofBlueprints_makesCommand world ?_
    rwa [List.append_nil]
  together directory blueprints warnings hdirectory loaded := by
    have hproject : ∀ blueprint ∈ blueprints.map (Sum.inr (α := β)), IsWellFormed blueprint := by
      intro blueprint hblueprint
      obtain ⟨loadedOne, hloadedOne, rfl⟩ := List.mem_map.mp hblueprint
      have hone := ManifestBlueprint.isWellFormed_of_loadAll loaded loadedOne hloadedOne
      exact ⟨⟨hone.names.valid, hone.names.free, hone.names.flags⟩, hone.choices⟩
    have hmakes := Registry.ofBlueprints_makesCommand world
      (List.forall_mem_append.mpr ⟨wellFormed, hproject⟩)
    refine ⟨(Registry.ofBlueprints world builtIns (blueprints.map .inr)).warned warnings, ?_, ?_⟩
    · rw [discover, hdirectory]
      simp only [loaded]
    · exact ⟨hmakes.nonempty, hmakes.valid, hmakes.distinct, hmakes.free, hmakes.flags,
        hmakes.choices⟩
  failed directory error hdirectory loaded := by
    rw [discover, hdirectory]
    simp only [loaded]

/-- The manifests in a directory of the project are all loaded or none is, and with those of the
program they make up a command. -/
theorem discovery_loads_all_or_none :
    (∀ (disk : Disk) (running : String) (directory : Path) (base : Place), disk.IsOrderly →
      disk.IsAt directory base →
      ManifestBlueprint.LoadsAllOrNone disk running directory base
        (ManifestBlueprint.candidates disk base)) ∧
    (∀ (disk : Disk) (running : String) (directory : Path), disk.isDirectory directory = false →
      ManifestBlueprint.loadAll disk running directory =
        .ok ([], ["Blueprints directory " ++ directory.text ++ " does not exist"])) ∧
    ∀ (β ω : Type) [FileHost ω] [HasDisk ω] [Blueprint β ω] [SteadyNames β ω]
      [SteadyParameters β ω] (product : Product) (builtIns : List (β ⊕ ManifestBlueprint))
      (config : ProjectConfig) (world : ω), (∀ builtIn ∈ builtIns, IsWellFormed builtIn) →
      product.DiscoversCommand builtIns config world :=
  ⟨fun _ running _ _ orderly leads =>
      ManifestBlueprint.loadsAllOrNone_candidates orderly leads running,
    fun _ running _ missing => ManifestBlueprint.loadAll_of_missing missing running,
    fun _ _ _ _ _ _ _ product _ config world wellFormed =>
      discoversCommand wellFormed product config world⟩

end Discovering

section Found

open ManifestBlueprint

/-- A manifest of a letter in one of two styles, for a newer program. -/
def letterText : String :=
  "name: letter\ndescription: A letter\nversion: 9.0.0\nparameters:\n" ++
    "- {name: style, type: enum, choices: [plain, fancy]}\nfiles:\n- {template: note}\n"

/-- What it declares. -/
def letter : Manifest :=
  ⟨"letter", "A letter", some "9.0.0",
    [⟨"style", .choice ["plain", "fancy"], "", false, false, none⟩], [], [⟨"note", none⟩], []⟩

/-- A manifest of a memo. -/
def memoText : String := "name: memo\ndescription: A memo\nfiles:\n- {template: note}\n"

/-- What it declares. -/
def memo : Manifest := ⟨"memo", "A memo", none, [], [], [⟨"note", none⟩], []⟩

-- The characters of the texts are taken from the literals first: to decode their bytes takes the
-- kernel longer than to read the manifests.
/-- Both manifests can be read. -/
theorem ofYaml?_texts :
    Manifest.ofYaml? letterText = some letter ∧ Manifest.ofYaml? memoText = some memo := by
  constructor
  · have hchars : letterText.toList = _ ++ _ :=
      String.toList_append.trans (congrArg₂ _ String.toList_ofList String.toList_ofList)
    rw [Manifest.ofYaml?, Yaml.Reading.ofText, Yaml.document?, Yaml.tokens?, Yaml.spots?, hchars]
    decide +kernel
  · have hchars : memoText.toList = _ := String.toList_ofList
    rw [Manifest.ofYaml?, Yaml.Reading.ofText, Yaml.document?, Yaml.tokens?, Yaml.spots?, hchars]
    decide +kernel

/-- The place of the manifests. -/
def kitsPlace : Place := ["srv", "kits"]

/-- A disk with two manifests behind a link, among entries that are passed over: a stray manifest, a
link to a directory, a manifest that is a link, and one that stands too deep. -/
def kitsDisk (more : List (Place × DiskEntry)) : Disk :=
  ⟨[(["kits"], .link "/srv/kits"), (["srv"], .directory), (["srv", "kits"], .directory),
    (["srv", "kits", "blueprint.yaml"], .file (.text "stray")),
    (["srv", "kits", "c"], .link "a"),
    (["srv", "kits", "b"], .directory),
    (["srv", "kits", "b", "blueprint.yaml"], .file (.text memoText)),
    (["srv", "kits", "b", "note"], .file (.text "Memo")),
    (["srv", "kits", "a"], .directory),
    (["srv", "kits", "a", "blueprint.yaml"], .file (.text letterText)),
    (["srv", "kits", "a", "note"], .file (.text "Dear")),
    (["srv", "kits", "d"], .directory),
    (["srv", "kits", "d", "blueprint.yaml"], .link "../a/blueprint.yaml"),
    (["srv", "kits", "d", "deep"], .directory),
    (["srv", "kits", "d", "deep", "blueprint.yaml"], .file (.text "deep"))] ++ more, []⟩

/-- A manifest that is no text, between the two. -/
def spoiled : List (Place × DiskEntry) :=
  [(["srv", "kits", "aa"], .directory),
    (["srv", "kits", "aa", "blueprint.yaml"], .file (.binary [255]))]

section Kits

variable {more : List (Place × DiskEntry)}

/-- The link leads to the manifests. -/
theorem kitsDisk_isAt (more : List (Place × DiskEntry)) :
    (kitsDisk more).IsAt ⟨"kits"⟩ kitsPlace := by
  have hlinked : Disk.Leads (kitsDisk more) 39 [] ["", "srv", "kits"] 39 kitsPlace :=
    .idle (.inl rfl) (.enter (Disk.IsName.isStep (by decide)) rfl
      (.enter (Disk.IsName.isStep (by decide)) rfl (.here 39 _)))
  have hleads : Disk.Leads (kitsDisk more) 40 [] ["kits"] 39 kitsPlace :=
    .jump (Disk.IsName.isStep (by decide)) rfl hlinked
  exact Disk.isAt_iff.mpr ⟨⟨by decide, by decide, by decide⟩, 39, hleads⟩

/-- A manifest whose template is the note beside it has no fault where its names have none. -/
theorem fault?_of_note (orderly : (kitsDisk more).IsOrderly) {name note : String}
    {manifest : Manifest} (opened : CanBeOpened ⟨"kits"⟩ name)
    (inside : Disk.entry? (kitsDisk more) (kitsPlace ++ [name]) = some .directory)
    (short : ((Path.join ⟨"kits"⟩ ⟨name⟩).join ⟨"note"⟩).text.utf8ByteSize ≤ Disk.pathLimit)
    (held : Disk.entry? (kitsDisk more) (kitsPlace ++ [name] ++ ["note"]) = some (.file (.text note)))
    (files : manifest.files = [⟨"note", none⟩]) (named : Manifest.nameFault? manifest.name = none)
    (parameters : Manifest.parametersFault? [] manifest.parameters = none) :
    manifest.fault? (kitsDisk more) (Path.join ⟨"kits"⟩ ⟨name⟩) = none := by
  have hnote := isFile_join orderly (kitsDisk_isAt more) opened inside (by decide) short held
  rw [Manifest.fault?, named, parameters, files, Manifest.templatesFault?, List.find?_singleton,
    hnote]
  rfl

/-- The manifest of the letter is good. -/
theorem isGood_letter (orderly : (kitsDisk more).IsOrderly) :
    IsGood (kitsDisk more) ⟨"kits"⟩ kitsPlace "a" letter where
  opened := by decide
  near := by decide
  parsed := ⟨letterText, ⟨rfl, rfl⟩, ofYaml?_texts.1⟩
  valid := fault?_of_note orderly (by decide) rfl (by decide) rfl rfl (by decide) (by decide)

/-- The manifest of the memo is good. -/
theorem isGood_memo (orderly : (kitsDisk more).IsOrderly) :
    IsGood (kitsDisk more) ⟨"kits"⟩ kitsPlace "b" memo where
  opened := by decide
  near := by decide
  parsed := ⟨memoText, ⟨rfl, rfl⟩, ofYaml?_texts.2⟩
  valid := fault?_of_note orderly (by decide) rfl (by decide) rfl rfl (by decide) (by decide)

/-- Each directory beside the manifests is one of these. -/
theorem directory_kitsDisk {name : String}
    (inside : Disk.entry? (kitsDisk more) (kitsPlace ++ [name]) = some .directory) :
    name = "b" ∨ name = "a" ∨ name = "d" ∨ (kitsPlace ++ [name], DiskEntry.directory) ∈ more := by
  have hmem := Disk.mem_entries_of_entry? (by simp) inside
  simpa [kitsDisk, kitsPlace] using hmem

end Kits

/-- The disk of both kits is orderly. -/
theorem kitsDisk_isOrderly : (kitsDisk []).IsOrderly :=
  ⟨by decide, by decide⟩

/-- The disk with a bad manifest more is orderly. -/
theorem spoiled_isOrderly : (kitsDisk spoiled).IsOrderly :=
  ⟨by decide, by decide⟩

/-- One directory comes before the one with the manifest that is no text. -/
theorem directory_before {name : String}
    (inside : Disk.entry? (kitsDisk spoiled) (kitsPlace ++ [name]) = some .directory)
    (before : Text.IsBefore name "aa") : name = "a" := by
  obtain rfl | rfl | rfl | hmore := directory_kitsDisk inside
  · exact absurd before (by decide)
  · rfl
  · exact absurd before (by decide)
  · obtain rfl : name = "aa" := by simpa [spoiled, kitsPlace] using hmore
    exact absurd before (by decide)

/-- Both kits are candidates. -/
theorem candidates_kitsDisk : candidates (kitsDisk []) kitsPlace = ["a", "b"] := by
  refine candidates_eq_of_ascending kitsDisk_isOrderly (by decide) fun name => ⟨fun hname => ?_, ?_⟩
  · obtain rfl | rfl : name = "a" ∨ name = "b" := by simpa using hname
    · exact ⟨_, rfl, rfl⟩
    · exact ⟨_, rfl, rfl⟩
  · rintro ⟨content, inside, held⟩
    obtain rfl | rfl | rfl | hmore := directory_kitsDisk inside
    · decide
    · decide
    · cases held
    · cases hmore

theorem isDirectory_missing : (kitsDisk []).isDirectory ⟨"missing"⟩ = false := by
  have hsteps : Disk.steps "missing" = ["missing"] := by decide
  have hlocate : (kitsDisk []).locate .use ⟨"missing"⟩ = .ok (.free ["missing"]) := by
    rw [Disk.locate_of_canBeFollowed ⟨by decide, by decide, by decide⟩, hsteps,
      Disk.follow_isStep (Disk.IsName.isStep (by decide)) (.inl (by decide))]
    rfl
  rw [Disk.isDirectory, Disk.find, hlocate]

set_option maxRecDepth 2000 in
/-- The blueprints of the program itself are well-formed. -/
theorem isWellFormed_builtIns : ∀ builtIn ∈ builtIns, IsWellFormed builtIn :=
  List.forall_mem_cons.mpr
    ⟨⟨⟨by decide, by decide, ⟨by decide, by decide, by decide⟩⟩, by decide⟩,
      List.forall_mem_singleton.mpr
        ⟨⟨by decide, by decide, ⟨by decide, by decide, by decide⟩⟩, by decide⟩⟩

/-- The two manifests are loaded and make up a command with the blueprints of the program, the one
that is no text spoils them, and a directory that is missing is told. -/
theorem kits_are_discovered :
    (kitsDisk []).IsOrderly ∧ (kitsDisk spoiled).IsOrderly ∧
      (∀ more, (kitsDisk more).IsAt ⟨"kits"⟩ kitsPlace) ∧
      loadAll (kitsDisk []) "0.1.0" ⟨"kits"⟩ =
        .ok ([⟨⟨"kits/a"⟩, letter, Replacements.empty⟩, ⟨⟨"kits/b"⟩, memo, Replacements.empty⟩],
          ["Blueprint 'letter' was written for CLI version 9.0.0 or newer, " ++
            "you are running 0.1.0"]) ∧
      loadAll (kitsDisk spoiled) "0.1.0" ⟨"kits"⟩ =
        .error (.badManifest ⟨"kits/aa/blueprint.yaml"⟩ .unreadable) ∧
      loadAll (kitsDisk []) "0.1.0" ⟨"missing"⟩ =
        .ok ([], ["Blueprints directory missing does not exist"]) ∧
      (∀ builtIn ∈ builtIns, IsWellFormed builtIn) ∧
      ∃ registry, tools.discover builtIns ⟨some ⟨"kits"⟩, ⟨""⟩⟩ (⟨kitsDisk [], none⟩ : RootedDisk) =
        .ok registry ∧ registry.MakesCommand := by
  obtain ⟨loads, lacks, discovers⟩ := discovery_loads_all_or_none
  have hloaded := (loads (kitsDisk []) "0.1.0" ⟨"kits"⟩ kitsPlace kitsDisk_isOrderly
    (kitsDisk_isAt [])).all ?_ [letter, memo] ?_
  · rw [candidates_kitsDisk] at hloaded
    refine ⟨kitsDisk_isOrderly, spoiled_isOrderly, kitsDisk_isAt, hloaded, ?_, ?_,
      isWellFormed_builtIns, ?_⟩
    · refine (loads (kitsDisk spoiled) "0.1.0" ⟨"kits"⟩ kitsPlace spoiled_isOrderly
        (kitsDisk_isAt spoiled)).firstBad "aa" _ ?_ ?_ ?_
      · exact .binary (by decide) (by decide) ⟨rfl, rfl⟩
      · intro earlier hearlier hbefore
        obtain ⟨_, inside, -⟩ := (mem_candidates_iff spoiled_isOrderly).mp hearlier
        cases directory_before inside hbefore
        exact ⟨letter, isGood_letter spoiled_isOrderly⟩
      · intro earlier inside hbefore
        cases directory_before inside hbefore
        decide
    · exact lacks (kitsDisk []) "0.1.0" ⟨"missing"⟩ isDirectory_missing
    · exact (discovers (SetupBlueprint ⊕ FeatureBlueprint) RootedDisk tools builtIns
        ⟨some ⟨"kits"⟩, ⟨""⟩⟩ ⟨kitsDisk [], none⟩ isWellFormed_builtIns).together ⟨"kits"⟩ _ _ rfl
        hloaded
  · intro name inside
    obtain rfl | rfl | rfl | hmore := directory_kitsDisk inside
    · decide
    · decide
    · decide
    · cases hmore
  · rw [candidates_kitsDisk]
    exact .cons (isGood_letter kitsDisk_isOrderly) (.cons (isGood_memo kitsDisk_isOrderly) .nil)

end Found

end Product

end Scaffold
