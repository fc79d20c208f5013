import Scaffold.Product
import Scaffold.Proofs.Manifest.Discovery
import Scaffold.Proofs.Product.Files
import Scaffold.Proofs.Yaml.Entry

/-!
# Configurations read back

Setting up a project writes a configuration that names a directory of blueprints. Whatever the
name, the configuration is read as that directory, and the example that is put into it is among the
blueprints that are found there.
-/

namespace Scaffold

namespace Text

/-- Nothing blank is left at the start. -/
theorem not_isBlank_of_dropBlank {chars : List Char} :
    ∀ char ∈ (dropBlank chars).head?, isBlank char = false := by
  intro char hchar
  have hhead := List.head?_dropWhile_not isBlank chars
  rw [← dropBlank, hchar] at hhead
  simpa using hhead

/-- A trimmed text starts and ends in characters that are not blank. -/
theorem not_isBlank_of_trimBlank (chars : List Char) :
    (∀ char ∈ (trimBlank chars).head?, isBlank char = false) ∧
      ∀ char ∈ (trimBlank chars).getLast?, isBlank char = false := by
  refine ⟨fun char hchar => ?_, fun char hchar => ?_⟩
  · rw [trimBlank, List.head?_reverse, dropBlank] at hchar
    have hfirst : (dropBlank chars).reverse.getLast? = some char := by
      rw [← List.takeWhile_append_dropWhile (p := isBlank) (l := (dropBlank chars).reverse),
        List.getLast?_append, hchar]
      rfl
    rw [List.getLast?_reverse] at hfirst
    exact not_isBlank_of_dropBlank char hfirst
  · rw [trimBlank, List.getLast?_reverse] at hchar
    exact not_isBlank_of_dropBlank char hchar

end Text

namespace Yaml

/-- Spaces and line ends are blank. -/
theorem ne_space_of_not_isBlank {char : Char} (h : Text.isBlank char = false) :
    char ≠ ' ' ∧ isLineEnd char = false := by
  have hne (other : Char) (hother : Text.isBlank other = true) : char ≠ other := by
    rintro rfl
    rw [h] at hother
    cases hother
  refine ⟨hne ' ' rfl, ?_⟩
  rw [isLineEnd, beq_eq_false_iff_ne.mpr (hne '\n' rfl),
    beq_eq_false_iff_ne.mpr (hne '\u2028' rfl), beq_eq_false_iff_ne.mpr (hne '\u2029' rfl)]
  rfl

/-- Neither spaces nor line ends are left around a trimmed text. -/
theorem isBound_trim {text : String} (h : (Text.trim text).isEmpty = false) :
    Writing.IsBound (Text.trim text).toList := by
  obtain ⟨hfirst, hlast⟩ := Text.not_isBlank_of_trimBlank text.toList
  have hchars : (Text.trim text).toList = Text.trimBlank text.toList := String.toList_ofList
  refine ⟨?_, ?_, ?_⟩
  · intro hnil
    rw [String.toList_eq_nil_iff.mp hnil] at h
    cases h
  · rw [hchars]
    exact fun char hchar => ne_space_of_not_isBlank (hfirst char hchar)
  · rw [hchars]
    exact fun char hchar => (ne_space_of_not_isBlank (hlast char hchar)).2

namespace Reading

/-- A scalar that does not stand for nothing is a text. -/
theorem optional_scalar {style : ScalarStyle} {value : String}
    (h : style = .plain → (value.isEmpty || Meaning.isNull value) = false) :
    optional text (.scalar none style value) = pure (some value) := by
  have habsent : isAbsent (.scalar none style value) = pure false := by
    cases style with
    | plain => rw [isAbsent, h rfl]
    | _ => rfl
  change (do if ← isAbsent (.scalar none style value) then return none
             else return some (← text (.scalar none style value))) = _
  rw [habsent]
  rfl

end Reading

/-- What is written plain does not stand for nothing. -/
theorem not_isNull_of_written {text : String} {style : ScalarStyle} {written : List Char}
    (h : Writing.Written text style written) (plain : style = .plain) :
    (text.isEmpty || Meaning.isNull text) = false := by
  cases h with
  | plain reads =>
    rw [Writing.readsAsText, Bool.and_eq_true, beq_iff_eq, Meaning.ofText] at reads
    split at reads
    · cases reads.1
    · next h => exact Bool.eq_false_iff.mpr h
  | _ => cases plain

end Yaml

namespace ProjectConfig

open Yaml

/-- The key of the directory is one that can be written plainly. -/
theorem isKey_blueprintsKey : IsKey blueprintsKey where
  plain := by decide
  letter := ⟨_, _, rfl, rfl⟩
  short := by decide

/-- A written configuration is read as the directory that it names. -/
theorem ofYaml?_yamlFor {directory : Path} (bound : Writing.IsBound directory.text.toList) :
    ofYaml? (yamlFor directory) = some (some directory) := by
  have hblank : Text.isAllBlank (yamlFor directory) = false := by
    rw [Text.isAllBlank, yamlFor, Writing.toList_entry bound]
    rfl
  have hread (style : ScalarStyle) (text : String) :
      readBlueprints
          (.mapping none [(.scalar none .plain blueprintsKey, .scalar none style text)]) = do
          let directory ← Reading.optional Reading.text (.scalar none style text)
          return directory.map Path.mk := rfl
  rw [ofYaml?, hblank, Reading.ofText, yamlFor, document?_entry isKey_blueprintsKey bound]
  simp only [Bool.false_eq_true, if_false, Option.bind_some, Reading.ofDocument, hread]
  rw [Reading.optional_scalar (not_isNull_of_written (Writing.written_scalar directory.text))]
  rfl

/-- A configuration loads as the directory that it names, from wherever it stands. -/
theorem load_yamlFor {disk : Disk} {path directory : Path}
    (bound : Writing.IsBound directory.text.toList)
    (held : disk.readText path = .ok (yamlFor directory)) :
    load disk path = .ok ⟨some directory, path.parent?.getD ⟨""⟩⟩ := by
  rw [load, held]
  simp only [ofYaml?_yamlFor bound]

/-- From a path without a directory, the directory is the one that is named. -/
theorem directory?_of_base (directory : Path) :
    (ProjectConfig.mk (some directory) ⟨""⟩).directory? = some directory := by
  have hempty : ("" : String).toList.isEmpty = true := rfl
  rw [directory?, Option.map_some, Path.join, hempty, Bool.or_true]
  rfl

end ProjectConfig

namespace ManifestBlueprint

/-- A blueprint is loaded from the manifest in its directory. -/
theorem exists_text_of_load {disk : Disk} {directory : Path} {blueprint : ManifestBlueprint}
    (h : load disk directory = .ok blueprint) :
    ∃ text, disk.readText (directory.join ⟨Manifest.fileName⟩) = .ok text ∧
      Manifest.ofYaml? text = some blueprint.manifest := by
  unfold load at h
  dsimp only at h
  split at h
  case h_1 => cases h
  case h_2 text htext =>
    split at h
    case h_1 => cases h
    case h_2 manifest hmanifest =>
      split at h
      case h_1 => cases h
      case h_2 =>
        cases h
        exact ⟨text, htext, hmanifest⟩

/-- If all blueprints of a directory load, then so does the one of a directory in it that holds a
manifest, as the manifest tells. -/
theorem exists_of_loadAll {disk : Disk} {running name : String} {directory : Path} {place : Place}
    {content : FileContent} {blueprints : List ManifestBlueprint} {warnings : List String}
    (found : disk.find .use directory = .ok (place, .directory))
    (inside : disk.entry? (place ++ [name]) = some .directory)
    (manifest : disk.entry? (place ++ [name, Manifest.fileName]) = some (.file content))
    (loaded : loadAll disk running directory = .ok (blueprints, warnings)) :
    ∃ blueprint ∈ blueprints, load disk (directory.join ⟨name⟩) = .ok blueprint := by
  rw [loadAll, found] at loaded
  simp only at loaded
  cases hvisits : (disk.subdirectories place).mapM (visit disk directory place) with
  | error error =>
    rw [hvisits] at loaded
    cases loaded
  | ok all =>
    rw [hvisits] at loaded
    cases loaded
    obtain ⟨value, hvalue, hvisit⟩ := exists_of_forall₂ (forall₂_of_mapM_eq_ok hvisits)
      (Disk.mem_subdirectories_of_entry? inside)
    obtain ⟨-, hnothing⟩ | ⟨blueprint, rfl, hload⟩ := visit_cases hvisit
    · rw [holdsManifest_iff.mpr ⟨content, manifest⟩] at hnothing
      cases hnothing
    · exact ⟨blueprint, List.mem_filterMap.mpr ⟨_, hvalue, rfl⟩, hload⟩

end ManifestBlueprint

namespace Path

/-- The text of a relative path stands at the end of the path from any directory. -/
theorem exists_join_text (base : Path) {name : String} (relative : name.toList.head? ≠ some '/') :
    ∃ front, (base.join ⟨name⟩).text.toList = front ++ name.toList := by
  have habsolute : (Path.mk name).isAbsolute = false := beq_eq_false_iff_ne.mpr relative
  unfold join
  simp only [habsolute, Bool.false_or]
  split
  · exact ⟨[], rfl⟩
  · split
    · exact ⟨_, String.toList_append⟩
    · exact ⟨_, String.toList_append⟩

/-- The last component of a file in a directory that is named is its name. -/
theorem getLast?_components_join (base : Path) {directory name : String}
    (hdirectory : directory.toList ≠ []) (hrelative : directory.toList.head? ≠ some '/')
    (hlast : directory.toList.getLast? ≠ some '/')
    (hname : '/' ∉ name.toList)
    (hcomponent : innerComponent? name.toList = some (.name name)) :
    ((base.join ⟨directory⟩).join ⟨name⟩).components.getLast? = some (.name name) := by
  obtain ⟨front, htext⟩ := exists_join_text base hrelative
  rw [components_join, List.getLast?_concat]
  · rw [htext]
    exact List.append_ne_nil_of_right_ne_nil _ hdirectory
  · rw [htext, List.getLast?_append_of_ne_nil _ hdirectory]
    exact hlast
  · exact hname
  · exact hcomponent

/-- Paths of different last names are different. -/
theorem same_eq_false_of_last {left right : Path} {first second : String}
    (hleft : left.components.getLast? = some (.name first))
    (hright : right.components.getLast? = some (.name second)) (hne : first ≠ second) :
    left.same right = false := by
  rw [Bool.eq_false_iff]
  intro hsame
  rw [same_iff.mp hsame, hright] at hleft
  cases hleft
  exact hne rfl

end Path

namespace SetupBlueprint

/-- The path of the manifest of the example in a directory. -/
def exampleManifestPath (directory : Path) : Path :=
  (directory.join ⟨"example"⟩).join ⟨Manifest.fileName⟩

/-- The text of the manifest of the example. -/
def exampleManifestText : String :=
  (Replacements.empty.insert versionToken programVersion).render exampleManifest

/-- The path of a file of the example ends with its name. -/
theorem getLast?_example (directory : Path) {name : String} (hname : '/' ∉ name.toList)
    (hcomponent : Path.innerComponent? name.toList = some (.name name)) :
    ((directory.join ⟨"example"⟩).join ⟨name⟩).components.getLast? = some (.name name) :=
  Path.getLast?_components_join directory (by decide) (by decide) (by decide) hname hcomponent

/-- The configuration and the manifest of the example are each written once. -/
theorem on_newFiles (blueprint : SetupBlueprint) :
    Change.on configPath (Change.creations blueprint.newFiles) =
        [.insert configPath 0 (ProjectConfig.yamlFor blueprint.blueprints)] ∧
      Change.on (exampleManifestPath blueprint.blueprints)
          (Change.creations blueprint.newFiles) =
        [.insert (exampleManifestPath blueprint.blueprints) 0 exampleManifestText] := by
  let template := (blueprint.blueprints.join ⟨"example"⟩).join ⟨"module.rs.txt"⟩
  have hconfig : configPath.components.getLast? = some (.name ".blueprint.yaml") := by decide
  have hmanifest : (exampleManifestPath blueprint.blueprints).components.getLast? =
      some (.name "blueprint.yaml") := getLast?_example _ (by decide) (by decide)
  have htemplate : template.components.getLast? = some (.name "module.rs.txt") :=
    getLast?_example _ (by decide) (by decide)
  have hfiles : blueprint.newFiles =
      [(configPath, ProjectConfig.yamlFor blueprint.blueprints),
        (exampleManifestPath blueprint.blueprints, exampleManifestText),
        (template, exampleTemplate)] := rfl
  rw [Change.on_creations, Change.on_creations, hfiles]
  simp only [List.filter_cons, List.filter_nil, Path.same_self,
    Path.same_eq_false_of_last hmanifest hconfig (by decide),
    Path.same_eq_false_of_last htemplate hconfig (by decide),
    Path.same_eq_false_of_last hconfig hmanifest (by decide),
    Path.same_eq_false_of_last htemplate hmanifest (by decide), if_true, Bool.false_eq_true,
    if_false]
  exact ⟨rfl, rfl⟩

section Planning

variable {ω : Type} [FileHost ω] [HasDisk ω] {blueprint prepared : SetupBlueprint}
  {host left : ω} {options : Options}

/-- A project is set up with the directory that is asked for, if it is no empty text. -/
theorem prepared_of_prepare
    (h : Blueprint.prepare options (blueprint, host) = .ok () (prepared, left)) :
    (chosenDirectory options).isEmpty = false ∧ prepared = ⟨⟨chosenDirectory options⟩⟩ ∧
      left = host := by
  simp only [Blueprint.prepare] at h
  split at h
  · cases h
  · next hsome =>
    split at h
    · cases h
    · cases h
      exact ⟨Bool.eq_false_iff.mpr hsome, rfl, rfl⟩

/-- If none of its files is there, a project can be set up. -/
theorem generate_of_absent (absent : ∀ file ∈ prepared.newFiles, FileHost.has file.1 host = false) :
    Blueprint.generate (prepared, host) =
      .ok (Change.creations prepared.newFiles) (prepared, host) := by
  simp only [Blueprint.generate]
  rw [mapM_createFile_eq_ok_iff.mpr ⟨absent, rfl⟩]

/-- Whatever directory is asked for, be it spelled with quotes, line ends or what else would mean
something in YAML: the configuration that is written loads as that directory without the blanks
around it. The manifest of the example is written to where blueprints are looked for in that
directory: if all of them load, one of them is what the manifest tells. -/
theorem configuration_leads_to_example {wanted : String}
    (asked : options.find? "blueprints-dir" = some (.text wanted))
    (accepted : Blueprint.prepare options (blueprint, host) = .ok () (prepared, left)) :
    ((∀ file ∈ prepared.newFiles, FileHost.has file.1 left = false) →
      ∃ changes, Blueprint.generate (prepared, left) = .ok changes (prepared, left)) ∧
    (∀ changes planned later,
      Blueprint.generate (prepared, left) = .ok changes (planned, later) →
        Change.on configPath changes =
          [.insert configPath 0 (ProjectConfig.yamlFor ⟨Text.trim wanted⟩)] ∧
        Change.on (exampleManifestPath ⟨Text.trim wanted⟩) changes =
          [.insert (exampleManifestPath ⟨Text.trim wanted⟩) 0 exampleManifestText]) ∧
    (∀ disk : Disk, disk.readText configPath = .ok (ProjectConfig.yamlFor ⟨Text.trim wanted⟩) →
      ∃ config directory, ProjectConfig.load disk configPath = .ok config ∧
        config.directory? = some directory ∧ directory = ⟨Text.trim wanted⟩ ∧
        ∀ running place content blueprints warnings,
          disk.find .use directory = .ok (place, .directory) →
          disk.entry? (place ++ ["example"]) = some .directory →
          disk.entry? (place ++ ["example", Manifest.fileName]) = some (.file content) →
          ManifestBlueprint.loadAll disk running directory = .ok (blueprints, warnings) →
            ∃ found ∈ blueprints, ∃ text,
              disk.readText (exampleManifestPath directory) = .ok text ∧
                Manifest.ofYaml? text = some found.manifest) := by
  obtain ⟨hsome, hprepared, -⟩ := prepared_of_prepare accepted
  have hchosen : chosenDirectory options = Text.trim wanted := by
    rw [chosenDirectory, asked]
    rfl
  rw [hchosen] at hsome hprepared
  refine ⟨fun absent => ⟨_, generate_of_absent absent⟩, ?_, ?_⟩
  · intro changes planned later hgenerates
    obtain ⟨-, rfl⟩ := creations_of_generate hgenerates
    have hwritten := on_newFiles prepared
    rw [hprepared] at hwritten ⊢
    exact hwritten
  · intro disk hheld
    have hload := ProjectConfig.load_yamlFor (Yaml.isBound_trim hsome) hheld
    refine ⟨_, ⟨Text.trim wanted⟩, hload, ProjectConfig.directory?_of_base _, rfl, ?_⟩
    intro running place content blueprints warnings hfound hinside hmanifest hloaded
    obtain ⟨found, hmem, hload⟩ :=
      ManifestBlueprint.exists_of_loadAll hfound hinside hmanifest hloaded
    exact ⟨found, hmem, ManifestBlueprint.exists_text_of_load hload⟩

end Planning

/-- A directory that means much else in YAML: quotes, a colon, a comment, nothing, line ends and a
bell, with blanks around it. -/
def oddDirectory : String := "\t\x27no\x27: #\n\"null\" \u2028\x07~ "

/-- The options that ask for it. -/
def oddOptions : Options := Options.ofList [("blueprints-dir", .text oddDirectory)]

/-- A disk with the configuration that is written for it. -/
def oddDisk : Disk :=
  Disk.blank.put ["tmp", "work", ".blueprint.yaml"]
    (.file (.text (ProjectConfig.yamlFor ⟨Text.trim oddDirectory⟩)))

/-- The configuration is read from the disk. -/
theorem readText_oddDisk :
    oddDisk.readText configPath = .ok (ProjectConfig.yamlFor ⟨Text.trim oddDirectory⟩) := by
  have hstep : Disk.IsStep ".blueprint.yaml" := Disk.IsName.isStep (by decide)
  have hlocate : oddDisk.locate .use configPath =
      oddDisk.follow .use Disk.linkLimit ["tmp", "work"] [".blueprint.yaml"] := rfl
  have hentry : oddDisk.entry? (["tmp", "work"] ++ [".blueprint.yaml"]) =
      some (.file (.text (ProjectConfig.yamlFor ⟨Text.trim oddDirectory⟩))) := rfl
  rw [Disk.readText, Disk.readContent, Disk.find, hlocate,
    Disk.follow_isStep hstep (.inr (.inl rfl)), hentry]
  rfl

/-- The directory is asked for where nothing is, and its configuration loads as the directory. -/
theorem odd_directory_leads_to_example :
    oddOptions.find? "blueprints-dir" = some (.text oddDirectory) ∧
      Blueprint.prepare oddOptions (start, (⟨.withFiles [], .blank⟩ : Workspace)) =
        .ok () (⟨⟨Text.trim oddDirectory⟩⟩, ⟨.withFiles [], .blank⟩) ∧
      (∃ changes, Blueprint.generate
          ((⟨⟨Text.trim oddDirectory⟩⟩, ⟨.withFiles [], .blank⟩) : SetupBlueprint × Workspace) =
        .ok changes (⟨⟨Text.trim oddDirectory⟩⟩, ⟨.withFiles [], .blank⟩)) ∧
      ∃ config, ProjectConfig.load oddDisk configPath = .ok config ∧
        config.directory? = some ⟨"\x27no\x27: #\n\"null\" \u2028\x07~"⟩ := by
  have hasked : oddOptions.find? "blueprints-dir" = some (.text oddDirectory) := rfl
  have haccepted : Blueprint.prepare oddOptions (start, (⟨.withFiles [], .blank⟩ : Workspace)) =
      .ok () (⟨⟨Text.trim oddDirectory⟩⟩, ⟨.withFiles [], .blank⟩) := rfl
  obtain ⟨hgenerates, -, hloads⟩ := configuration_leads_to_example hasked haccepted
  obtain ⟨config, _, hload, hdirectory, rfl, -⟩ := hloads oddDisk readText_oddDisk
  exact ⟨hasked, haccepted, hgenerates fun _ _ => rfl, config, hload, hdirectory⟩

end SetupBlueprint

end Scaffold
