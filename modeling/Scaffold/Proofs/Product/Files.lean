import Scaffold.Product.Feature
import Scaffold.Product.Setup
import Scaffold.Proofs.Blueprint.Audited
import Scaffold.Proofs.Cluster.Creating
import Scaffold.Proofs.Path.Spelling
import Scaffold.Proofs.Text.Words

/-!
# Files of the built-in blueprints

Setting up a project creates its configuration and an example; a feature is five files in a
directory of its own. Both create files only where nothing is, and a feature besides changes the
module of all features, which is none of its files.
-/

namespace Scaffold

namespace Path

/-- A relative path taken from one that ends in a name stands behind a separator. -/
theorem join_of_relative {base path : Path} (hbase : base.text.toList ≠ [])
    (hlast : base.text.toList.getLast? ≠ some '/') (hrelative : path.text.toList.head? ≠ some '/') :
    base.join path = ⟨base.text ++ "/" ++ path.text⟩ := by
  have habsolute : path.isAbsolute = false := beq_eq_false_iff_ne.mpr hrelative
  have hempty : base.text.toList.isEmpty = false := List.isEmpty_eq_false_iff.mpr hbase
  have hend : (base.text.toList.getLast? == some '/') = false := beq_eq_false_iff_ne.mpr hlast
  unfold join
  simp only [habsolute, hempty, hend, Bool.or_self, Bool.false_eq_true, if_false]

/-- A piece behind a separator adds its component. -/
theorem componentsOf_append {chars piece : List Char} {component : PathComponent}
    (hchars : chars ≠ []) (hpiece : '/' ∉ piece)
    (hcomponent : innerComponent? piece = some component) :
    componentsOf (chars ++ '/' :: piece) = componentsOf chars ++ [component] := by
  obtain ⟨first, others, hpieces⟩ := List.exists_cons_of_ne_nil (pieces_ne_nil chars)
  have hinner : (others ++ [piece]).filterMap innerComponent? =
      others.filterMap innerComponent? ++ [component] := by
    rw [List.filterMap_append, List.filterMap_cons_some hcomponent, List.filterMap_nil]
  rw [componentsOf, componentsOf, pieces_append, hpieces, pieces_of_not_mem hpiece]
  simp only [List.cons_append, hinner]
  split
  case isTrue hfirst =>
    have hothers : others ≠ [] := by
      rintro rfl
      have hjoined := joinPieces_pieces chars
      rw [hpieces, joinPieces_singleton, beq_iff_eq.mp hfirst] at hjoined
      exact hchars hjoined.symm
    rw [if_neg (by simp), if_neg (mt List.isEmpty_iff.mp hothers), List.cons_append]
  case isFalse =>
    split
    · rw [List.cons_append]
    · rw [List.append_assoc]

/-- The path of an entry in a directory has one more component. -/
theorem components_join {base : Path} {name : String} (hbase : base.text.toList ≠ [])
    (hlast : base.text.toList.getLast? ≠ some '/') (hname : '/' ∉ name.toList)
    (hcomponent : innerComponent? name.toList = some (.name name)) :
    (base.join ⟨name⟩).components = base.components ++ [.name name] := by
  have hrelative : name.toList.head? ≠ some '/' := fun hhead => hname (List.mem_of_mem_head? hhead)
  have htext : (base.text ++ "/" ++ name).toList = base.text.toList ++ '/' :: name.toList := by
    rw [String.toList_append, String.toList_append, List.append_assoc]
    rfl
  rw [join_of_relative hbase hlast hrelative, components, htext]
  exact componentsOf_append hbase hname hcomponent

end Path

section Reading

variable {ω : Type} [FileHost ω] [ContentHost ω] [QuietReads ω]

/-- Reading gives what is held. -/
theorem read_eq_ok (path : Path) (host : ω) :
    FileHost.read path host = .ok ((ContentHost.contents host).text path) host := by
  have hmirrors := ContentHost.mirrors_read (ω := ω) path host
  have hkept := QuietReads.after_read path host
  cases hr : (FileHost.read path : Task ChangeError ω String) host with
  | error error left =>
    rw [hr] at hmirrors
    cases hmirrors
  | ok text left =>
    rw [hr] at hmirrors
    rw [Task.after_of_ok hr] at hkept
    obtain ⟨htext, -⟩ := EStateM.Result.ok.inj hmirrors
    rw [hkept]
    exact congrArg (EStateM.Result.ok · host) htext

end Reading

namespace SetupBlueprint

section Planning

variable {ω : Type} [FileHost ω] [HasDisk ω] {blueprint prepared planned : SetupBlueprint}
  {host left : ω} {options : Options}

/-- Setting up a project plans without writing. -/
theorem plansQuietly : PlansQuietly SetupBlueprint ω where
  prepare options := by
    rintro ⟨blueprint, host⟩
    simp only [Task.after, Blueprint.prepare]
    cases (chosenDirectory options).isEmpty with
    | true => rfl
    | false => cases FileHost.has configPath host <;> rfl
  generate := by
    rintro ⟨blueprint, host⟩
    simp only [Task.after, Blueprint.generate]
    cases blueprint.newFiles.mapM fun file => createFile host file.1 file.2 <;> rfl

/-- A project is set up only without configuration. -/
theorem absent_of_prepare
    (h : Blueprint.prepare options (blueprint, host) = .ok () (prepared, left)) :
    FileHost.has configPath host = false := by
  simp only [Blueprint.prepare] at h
  split at h
  · cases h
  · split at h
    · cases h
    · next hnone => exact Bool.eq_false_iff.mpr hnone

/-- Setting up a project creates its files. -/
theorem creations_of_generate {changes : List Change}
    (h : Blueprint.generate (prepared, host) = .ok changes (planned, left)) :
    (∀ file ∈ prepared.newFiles, FileHost.has file.1 host = false) ∧
      changes = Change.creations prepared.newFiles := by
  simp only [Blueprint.generate] at h
  cases hmade : prepared.newFiles.mapM fun file => createFile host file.1 file.2 with
  | error error =>
    simp only [hmade] at h
    cases h
  | ok made =>
    simp only [hmade] at h
    obtain ⟨rfl, -⟩ := EStateM.Result.ok.inj h
    exact mapM_createFile_eq_ok_iff.mp hmade

end Planning

end SetupBlueprint

namespace FeatureBlueprint

/-- A name that a directory of a feature can have. -/
structure IsFeatureName (name : String) : Prop where
  /-- It is not empty. -/
  nonempty : name ≠ ""
  /-- It is made of characters of words. -/
  inWord : ∀ char ∈ name.toList, Text.IsInWord char

/-- The files of the feature with their texts. -/
def files (blueprint : FeatureBlueprint) : List (Path × String) :=
  templates.map fun (name, template) =>
    (blueprint.directory.join ⟨name⟩, blueprint.replacements.render template)

section Names

/-- A usable name is one that a directory can have. -/
theorem isFeatureName_of_usable {options : Options} (h : isUnusable (featureName options) = false) :
    IsFeatureName (featureName options) where
  nonempty hempty := by
    rw [hempty] at h
    cases h
  inWord := by
    intro char hchar
    unfold featureName at hchar
    cases hname : (options.find? "name").bind OptionValue.text? with
    | none =>
      rw [hname] at hchar
      cases hchar
    | some text =>
      rw [hname] at hchar
      exact Text.isInWord_of_mem_snakeCase hchar

variable {name file : String}

/-- A feature name holds only characters of words. -/
theorem IsFeatureName.not_mem (h : IsFeatureName name) (char : Char)
    (hchar : ¬Text.IsInWord char) : char ∉ name.toList :=
  fun hmem => hchar (h.inWord char hmem)

theorem IsFeatureName.toList_ne_nil (h : IsFeatureName name) : name.toList ≠ [] :=
  fun hnil => h.nonempty (String.toList_eq_nil_iff.mp hnil)

/-- The name is one component. -/
theorem IsFeatureName.innerComponent? (h : IsFeatureName name) :
    Path.innerComponent? name.toList = some (.name name) := by
  have hhere : name.toList ≠ ['.'] := fun hdot =>
    h.not_mem '.' (by decide) (hdot ▸ List.mem_cons_self)
  have hup : name.toList ≠ ['.', '.'] := fun hdots =>
    h.not_mem '.' (by decide) (hdots ▸ List.mem_cons_self)
  simp only [Path.innerComponent?, Bool.or_eq_true, beq_iff_eq, h.toList_ne_nil, hhere, hup,
    or_self, if_false, String.ofList_toList]

/-- The directory of a feature is named after it. -/
theorem directory_text (h : IsFeatureName name) :
    (forFeature name).directory = ⟨"src/features" ++ "/" ++ name⟩ := by
  refine Path.join_of_relative (by decide) (by decide) ?_
  intro hhead
  exact h.not_mem '/' (by decide) (List.mem_of_mem_head? hhead)

/-- The components of the directory of a feature. -/
theorem components_directory (h : IsFeatureName name) :
    (forFeature name).directory.components = [.name "src", .name "features", .name name] :=
  Path.components_join (by decide) (by decide) (h.not_mem '/' (by decide)) h.innerComponent?

/-- The components of a file of a feature. -/
theorem components_file (h : IsFeatureName name) (hfile : file ∈ templates.map Prod.fst) :
    ((forFeature name).directory.join ⟨file⟩).components =
      [.name "src", .name "features", .name name, .name file] := by
  have hspelled : (forFeature name).directory.text.toList ≠ [] := by
    rw [directory_text h, String.toList_append]
    exact List.append_ne_nil_of_right_ne_nil _ h.toList_ne_nil
  have hlast : (forFeature name).directory.text.toList.getLast? ≠ some '/' := by
    rw [directory_text h, String.toList_append, List.getLast?_append_of_ne_nil _ h.toList_ne_nil]
    exact fun hslash => h.not_mem '/' (by decide) (List.mem_of_getLast? hslash)
  have hfiles : ∀ file ∈ templates.map Prod.fst, '/' ∉ file.toList ∧
      Path.innerComponent? file.toList = some (.name file) := by decide
  obtain ⟨hseparator, hcomponent⟩ := hfiles file hfile
  rw [Path.components_join hspelled hlast hseparator hcomponent, components_directory h]
  rfl

/-- A file of a feature lies under the name of the feature. -/
theorem components_of_mem_files (h : IsFeatureName name) {file : Path × String}
    (hfile : file ∈ (forFeature name).files) :
    ∃ template ∈ templates,
      file.1.components = [.name "src", .name "features", .name name, .name template.1] := by
  obtain ⟨template, htemplate, rfl⟩ := List.mem_map.mp hfile
  exact ⟨template, htemplate, components_file h (List.mem_map_of_mem htemplate)⟩

/-- The files of a feature are five different ones. -/
theorem nodup_components_files (h : IsFeatureName name) :
    ((forFeature name).files.map fun file => file.1.components).Nodup := by
  have hcomponents : ((forFeature name).files.map fun file => file.1.components) =
      (templates.map Prod.fst).map fun file =>
        [.name "src", .name "features", .name name, .name file] := by
    rw [files, List.map_map, List.map_map]
    exact List.map_congr_left fun template htemplate =>
      components_file h (List.mem_map_of_mem htemplate)
  have hnames : (templates.map Prod.fst).Nodup := by decide
  rw [hcomponents]
  refine List.Pairwise.map _ ?_ hnames
  intro first second hdiffer hsame
  cases hsame
  exact hdiffer rfl

/-- No file of a feature is the module of all features. -/
theorem same_featuresModule_of_mem_files (h : IsFeatureName name)
    {file : Path × String} (hfile : file ∈ (forFeature name).files) :
    file.1.same featuresModule = false := by
  obtain ⟨template, -, hcomponents⟩ := components_of_mem_files h hfile
  have hmodule : featuresModule.components =
      [.name "src", .name "features", .name "mod.rs"] := by decide
  rw [Path.same, beq_eq_false_iff_ne, hcomponents, hmodule]
  intro hsame
  cases congrArg List.length hsame

end Names

section Planning

variable {ω : Type} [FileHost ω] [HasDisk ω] {blueprint prepared planned : FeatureBlueprint}
  {host left : ω} {options : Options}

omit [HasDisk ω] in
/-- The files of a feature are created where all of them are absent. -/
theorem newFiles_eq_ok_iff {changes : List Change} :
    blueprint.newFiles host = .ok changes ↔
      (∀ file ∈ blueprint.files, FileHost.has file.1 host = false) ∧
        changes = Change.creations blueprint.files := by
  rw [← mapM_createFile_eq_ok_iff, files, List.mapM_map]
  rfl

/-- A feature is prepared under a usable name. -/
theorem prepared_of_prepare
    (h : Blueprint.prepare options (blueprint, host) = .ok () (prepared, left)) :
    isUnusable (featureName options) = false ∧ prepared = forFeature (featureName options) ∧
      left = host := by
  simp only [Blueprint.prepare] at h
  cases hunusable : isUnusable (featureName options) with
  | true =>
    simp only [hunusable, if_true] at h
    cases h
  | false =>
    cases hhas : FileHost.has (forFeature (featureName options)).directory host with
    | true =>
      simp only [hunusable, hhas, Bool.false_eq_true, if_false, if_true] at h
      cases h
    | false =>
      simp only [hunusable, hhas, Bool.false_eq_true, if_false] at h
      obtain ⟨-, hleft⟩ := EStateM.Result.ok.inj h
      obtain ⟨hprepared, hhost⟩ := Prod.mk.inj hleft
      exact ⟨rfl, hprepared.symm, hhost.symm⟩

/-- A feature is prepared where its name is usable and its directory is absent. -/
theorem prepare_of_absent (husable : isUnusable (featureName options) = false)
    (habsent : FileHost.has (forFeature (featureName options)).directory host = false) :
    Blueprint.prepare options (blueprint, host) =
      .ok () (forFeature (featureName options), host) := by
  simp only [Blueprint.prepare, husable, habsent, Bool.false_eq_true, if_false]

/-- The names are taken over where they are usable, also if the feature exists already. -/
theorem after_prepare (options : Options) (blueprint : FeatureBlueprint) (host : ω) :
    Task.after (Blueprint.prepare options) (blueprint, host) =
      if isUnusable (featureName options) then (blueprint, host)
      else (forFeature (featureName options), host) := by
  simp only [Task.after, Blueprint.prepare]
  cases isUnusable (featureName options) with
  | true => rfl
  | false => cases FileHost.has (forFeature (featureName options)).directory host <;> rfl

variable [ContentHost ω] [QuietReads ω]

/-- A feature plans without writing. -/
theorem plansQuietly : PlansQuietly FeatureBlueprint ω where
  prepare options := by
    rintro ⟨blueprint, host⟩
    rw [after_prepare]
    split <;> rfl
  generate := by
    rintro ⟨blueprint, host⟩
    simp only [Task.after, Blueprint.generate, read_eq_ok]
    cases blueprint.newFiles host <;> rfl

/-- A feature is planned by creating its files and registering it in the module of all features. -/
theorem changes_of_generate {changes : List Change}
    (h : Blueprint.generate (prepared, host) = .ok changes (planned, left)) :
    (∀ file ∈ prepared.files, FileHost.has file.1 host = false) ∧
      changes = Change.creations prepared.files ++
        [prepared.register ((ContentHost.contents host).text featuresModule)] := by
  simp only [Blueprint.generate, read_eq_ok] at h
  cases hmade : prepared.newFiles host with
  | error error =>
    simp only [hmade] at h
    cases h
  | ok made =>
    simp only [hmade] at h
    obtain ⟨rfl, -⟩ := EStateM.Result.ok.inj h
    obtain ⟨habsent, rfl⟩ := newFiles_eq_ok_iff.mp hmade
    exact ⟨habsent, rfl⟩

/-- A feature can be planned where its files are absent. -/
theorem generate_of_absent
    (habsent : ∀ file ∈ prepared.files, FileHost.has file.1 host = false) :
    Blueprint.generate (prepared, host) =
      .ok (Change.creations prepared.files ++
          [prepared.register ((ContentHost.contents host).text featuresModule)])
        (prepared, host) := by
  have hmade := newFiles_eq_ok_iff.mpr ⟨habsent, rfl⟩
  simp only [Blueprint.generate, hmade, read_eq_ok]

end Planning

end FeatureBlueprint

end Scaffold
