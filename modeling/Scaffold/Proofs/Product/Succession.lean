import Scaffold.Proofs.Lifecycle.Steps
import Scaffold.Proofs.Product.ModuleText

/-!
# Features one after the other

Features of different names never come into each other's way: each is created where nothing of it
is, and finds the module of all features as the earlier ones left it. So any number of them can be
created where nothing is, and the module keeps their order.
-/

namespace Scaffold

open Text

namespace FeatureBlueprint

section Runs

variable {ω : Type} [FileHost ω] [HasDisk ω]

/-- A run of the blueprint for options, from its preparation until its changes are applied. -/
def create (blueprint : FeatureBlueprint) (options : Options) : Task BlueprintError ω Unit :=
  fun host =>
    match (do
        Session.prepare
        Session.apply : Task BlueprintError (Session FeatureBlueprint ω) Unit)
        ⟨⟨blueprint, .optionsGathered, options, none⟩, host⟩ with
    | .ok _ left => .ok () left.host
    | .error error left => .error error left.host

/-- Runs of the blueprint one after the other, each on what the earlier ones left. -/
def createAll (blueprint : FeatureBlueprint) : List Options → Task BlueprintError ω Unit
  | [] => pure ()
  | options :: rest => do
    create blueprint options
    createAll blueprint rest

/-- A run is through when its three steps are. -/
theorem create_of_ok {blueprint : FeatureBlueprint} {options : Options} {host left : ω}
    {prepared planned : FeatureBlueprint} {changes : List Change}
    (hprepares : Blueprint.prepare options (blueprint, host) = .ok () (prepared, host))
    (hgenerates : Blueprint.generate (prepared, host) = .ok changes (planned, host))
    (happlies : Session.applyCluster (ChangeCluster.ofChanges changes) host = .ok () left) :
    create blueprint options host = .ok () left := by
  have hprepared : Session.prepare
      (⟨⟨blueprint, .optionsGathered, options, none⟩, host⟩ : Session FeatureBlueprint ω) =
      .ok () ⟨⟨prepared, .prepared, options, none⟩, host⟩ :=
    @Session.prepare_of_ok _ ω _ _ (prepared, host) rfl hprepares
  have hknown : Session.cluster
      (⟨⟨prepared, .prepared, options, none⟩, host⟩ : Session FeatureBlueprint ω) =
      .ok (ChangeCluster.ofChanges changes)
        ⟨⟨planned, .prepared, options, some (ChangeCluster.ofChanges changes)⟩, host⟩ :=
    @Session.cluster_of_ok _ ω _ _ _ (planned, host) (.inl rfl) rfl hgenerates
  have happlied := Session.apply_of_prepared rfl rfl hknown
  dsimp only at happlied
  rw [happlies] at happlied
  unfold create
  rw [Task.bind_of_ok hprepared, happlied]
  rfl

end Runs

/-- What is held where features were created in this order, and nothing else was. -/
structure Holds (names : List String) (contents : Contents) : Prop where
  /-- The module of all features holds their lines once there is one of them. -/
  lines : contents featuresModule.components =
    if names.isEmpty then none else some (moduleText names)
  /-- Every file of theirs holds its text. -/
  files : ∀ name ∈ names, ∀ file ∈ (forFeature name).files,
    contents file.1.components = some file.2
  /-- Nothing else is there. -/
  others : ∀ (path : Path) (content : String), contents path.components = some content →
    path.same featuresModule = true ∨
      ∃ name ∈ names, ∃ file ∈ (forFeature name).files, file.1.same path = true

section Apart

variable {name : String} {names : List String} {contents : Contents}

/-- Where features were created, the directory of no feature is a file. -/
theorem Holds.directory_absent (h : Holds names contents)
    (hnames : ∀ name ∈ names, IsFeatureName name) (hname : IsFeatureName name) :
    contents (forFeature name).directory.components = none := by
  rw [Option.eq_none_iff_forall_ne_some]
  intro content held
  obtain hmodule | ⟨other, hother, file, hfile, hsame⟩ := h.others _ content held
  · have hcomponents := Path.same_iff.mp hmodule
    have hspelled : featuresModule.components =
        [.name "src", .name "features", .name "mod.rs"] := by decide
    rw [components_directory hname, hspelled] at hcomponents
    cases hcomponents
    exact hname.not_mem '.' (by decide) (by decide)
  · -- Files of features lie one component deeper than directories of features.
    obtain ⟨template, -, hcomponents⟩ := components_of_mem_files (hnames other hother) hfile
    rw [Path.same_iff, hcomponents, components_directory hname] at hsame
    cases congrArg List.length hsame

/-- Where features were created, no file of another one is. -/
theorem Holds.files_absent (h : Holds names contents)
    (hnames : ∀ name ∈ names, IsFeatureName name) (hname : IsFeatureName name)
    (hnew : name ∉ names) {file : Path × String} (hfile : file ∈ (forFeature name).files) :
    contents file.1.components = none := by
  rw [Option.eq_none_iff_forall_ne_some]
  intro content held
  obtain hmodule | ⟨other, hother, present, hpresent, hsame⟩ := h.others _ content held
  · rw [same_featuresModule_of_mem_files hname hfile] at hmodule
    cases hmodule
  · obtain ⟨template, -, hcomponents⟩ := components_of_mem_files hname hfile
    obtain ⟨taken, -, htaken⟩ := components_of_mem_files (hnames other hother) hpresent
    rw [Path.same_iff, htaken, hcomponents] at hsame
    obtain ⟨rfl, -⟩ : other = name ∧ taken.1 = template.1 := by simpa using hsame
    exact hnew hother

/-- The module of all features reads as the lines of the features. -/
theorem Holds.text (h : Holds names contents) :
    contents.text featuresModule = moduleText names := by
  rw [Contents.text, h.lines]
  cases names with
  | nil => rfl
  | cons first rest => rfl

/-- Another feature goes behind the earlier ones. -/
theorem Holds.concat (h : Holds names contents) (hnames : ∀ name ∈ names, IsFeatureName name)
    (hname : IsFeatureName name) (hnew : name ∉ names)
    (short : byteLength (moduleText names).toList < 2 ^ 63) {left : Contents}
    (hleft : ∀ path : Path, left path.components = (forFeature name).contentAfter contents path) :
    Holds (names ++ [name]) left where
  lines := by
    rw [hleft, contentAfter_module (Path.same_self _), h.text, registered_moduleText hnames short]
    cases names <;> rfl
  files := by
    intro other hother file hfile
    rw [hleft]
    obtain hearlier | hlast := List.mem_append.mp hother
    · have hmodule := same_featuresModule_of_mem_files (hnames other hearlier) hfile
      exact contentAfter_of_held (fun _ => h.files_absent hnames hname hnew)
        (Bool.eq_false_iff.mp hmodule) (h.files other hearlier file hfile)
    · cases List.mem_singleton.mp hlast
      exact contentAfter_file hname hfile
  others := by
    intro path content held
    rw [hleft, contentAfter] at held
    split at held
    case isTrue hmodule => exact .inl hmodule
    case isFalse =>
      split at held
      case isTrue hmine => exact .inr ⟨name, List.mem_concat_self, hmine⟩
      case isFalse =>
        obtain hmodule | ⟨other, hother, hfile⟩ := h.others path content held
        · exact .inl hmodule
        · exact .inr ⟨other, List.mem_append_left _ hother, hfile⟩

end Apart

section Creating

variable {ω : Type} [FileHost ω] [HasDisk ω] [ContentHost ω] [QuietReads ω] {host : ω}
  {blueprint : FeatureBlueprint} {options : Options} {names : List String}

/-- A feature whose name is usable and new can be created, and goes behind the earlier ones. -/
theorem create_of_holds (h : Holds names (ContentHost.contents host))
    (hnames : ∀ name ∈ names, IsFeatureName name)
    (husable : isUnusable (featureName options) = false) (hnew : featureName options ∉ names)
    (short : byteLength (moduleText names).toList < 2 ^ 63) :
    ∃ left : ω, create blueprint options host = .ok () left ∧
      Holds (names ++ [featureName options]) (ContentHost.contents left) := by
  have hname := isFeatureName_of_usable husable
  have hhas : ∀ path : Path, ContentHost.contents host path.components = none →
      FileHost.has path host = false := by
    intro path hnone
    rw [← ContentHost.has_contents]
    exact congrArg Option.isSome hnone
  have hdirectory := hhas _ (h.directory_absent hnames hname)
  have hfiles : ∀ file ∈ (forFeature (featureName options)).files,
      FileHost.has file.1 host = false := fun file hfile =>
    hhas _ (h.files_absent hnames hname hnew hfile)
  obtain ⟨left, happlies, hleft⟩ := applyCluster_feature hname hfiles (h.text.symm ▸ short)
  exact ⟨left, create_of_ok (prepare_of_absent husable hdirectory) (generate_of_absent hfiles)
    happlies, h.concat hnames hname hnew short hleft⟩

/-- The module of all features gets longer with every feature. -/
theorem byteLength_moduleText_le (names rest : List String) :
    byteLength (moduleText names).toList ≤ byteLength (moduleText (names ++ rest)).toList := by
  simp only [moduleText, declarations, takeovers, List.map_append, fromLines_append,
    String.toList_append, byteLength_append]
  omega

/-- Features whose names are usable and differ can be created one after the other, behind the
earlier ones. -/
theorem createAll_of_holds {requests : List Options}
    (h : Holds names (ContentHost.contents host)) (hnames : ∀ name ∈ names, IsFeatureName name)
    (husable : ∀ options ∈ requests, isUnusable (featureName options) = false)
    (hdistinct : (names ++ requests.map featureName).Nodup)
    (short : byteLength (moduleText (names ++ requests.map featureName)).toList < 2 ^ 63) :
    ∃ left : ω, createAll blueprint requests host = .ok () left ∧
      Holds (names ++ requests.map featureName) (ContentHost.contents left) := by
  -- What was created so far is told by `names`, which every step makes longer by one.
  induction requests generalizing names host with
  | nil => exact ⟨host, rfl, (List.append_nil names).symm ▸ h⟩
  | cons options rest ih =>
    obtain ⟨hfirst, hrest⟩ := List.forall_mem_cons.mp husable
    have hnew : featureName options ∉ names := fun hmem =>
      (List.nodup_append.mp hdistinct).2.2 _ hmem _ List.mem_cons_self rfl
    have hshort := (byteLength_moduleText_le names _).trans_lt short
    obtain ⟨between, hcreates, hholds⟩ := create_of_holds h hnames hfirst hnew hshort
    have hall : ∀ name ∈ names ++ [featureName options], IsFeatureName name := by
      intro name hname
      obtain hearlier | hlast := List.mem_append.mp hname
      · exact hnames name hearlier
      · exact List.mem_singleton.mp hlast ▸ isFeatureName_of_usable hfirst
    rw [List.map_cons, List.append_cons] at hdistinct short
    obtain ⟨left, hcreatesAll, hleft⟩ := ih hholds hall hrest hdistinct short
    rw [List.map_cons, List.append_cons]
    exact ⟨left, (Task.bind_of_ok hcreates).trans hcreatesAll, hleft⟩

end Creating

section Empty

variable {requests : List Options}

/-- Nothing is held where no feature was created. -/
theorem holds_nil (disk : Disk) :
    Holds [] (ContentHost.contents (⟨.withFiles [], disk⟩ : Workspace)) where
  lines := rfl
  files _ hname := nomatch hname
  others _ _ held := nomatch held

/-- Where nothing is in memory, every list of features whose names the blueprint takes and that
differ as directories can be created one after the other. The module of all features then holds the
declarations in that order and behind them what takes the features over, in the same order; each
feature has its five files, and nothing else is there. The module must not be longer than signed
positions in 64 bits can say. -/
theorem createAll_registers (blueprint : FeatureBlueprint) (disk : Disk)
    (accepted : ∀ options ∈ requests, Task.succeeds (Blueprint.prepare options)
      (blueprint, (⟨.withFiles [], disk⟩ : Workspace)) = true)
    (distinct : (requests.map featureName).Nodup)
    (short : byteLength (moduleText (requests.map featureName)).toList < 2 ^ 63) :
    ∃ left : Workspace, createAll blueprint requests ⟨.withFiles [], disk⟩ = .ok () left ∧
      left.files.content? featuresModule =
        (if requests.isEmpty then none else some (moduleText (requests.map featureName))) ∧
      (∀ options ∈ requests, ∀ file ∈ (forFeature (featureName options)).files,
        left.files.content? file.1 = some file.2) ∧
      ∀ (path : Path) (content : String), left.files.content? path = some content →
        path.same featuresModule = true ∨ ∃ options ∈ requests,
          ∃ file ∈ (forFeature (featureName options)).files, file.1.same path = true := by
  have husable : ∀ options ∈ requests, isUnusable (featureName options) = false := by
    intro options hoptions
    obtain ⟨⟨⟩, ⟨prepared, host⟩, hprepares⟩ :=
      Task.succeeds_iff.mp (accepted options hoptions)
    exact (prepared_of_prepare hprepares).1
  obtain ⟨left, hcreates, hholds⟩ := @createAll_of_holds Workspace _ _ _ _ _ blueprint [] requests
    (holds_nil disk) nofun husable distinct short
  rw [List.nil_append] at hholds
  refine ⟨left, hcreates, ?_, ?_, ?_⟩
  · rw [MemoryHost.content?_eq]
    exact hholds.lines.trans (by rw [List.isEmpty_map])
  · intro options hoptions file hfile
    rw [MemoryHost.content?_eq]
    exact hholds.files _ (List.mem_map_of_mem hoptions) file hfile
  · intro path content held
    rw [MemoryHost.content?_eq] at held
    obtain hmodule | ⟨name, hname, hfile⟩ := hholds.others path content held
    · exact .inl hmodule
    · obtain ⟨options, hoptions, rfl⟩ := List.mem_map.mp hname
      exact .inr ⟨options, hoptions, hfile⟩

/-- Two features, one of them with a name of two words: the module of all features, the five files
of each feature, and the data of the first one. -/
theorem createAll_registers_two :
    ∃ left : Workspace, createAll start [Options.ofList [("name", .text "Stock List")],
        Options.ofList [("name", .text "orders")]] ⟨.withFiles [], .blank⟩ = .ok () left ∧
      left.files.content? featuresModule = some ("pub mod stock_list;\npub mod orders;\n" ++
        "pub use stock_list::StockListFeature;\npub use orders::OrdersFeature;\n") ∧
      (∀ path ∈ [(⟨"src/features/stock_list/mod.rs"⟩ : Path), ⟨"src/features/stock_list/model.rs"⟩,
          ⟨"src/features/stock_list/service.rs"⟩, ⟨"src/features/stock_list/handlers.rs"⟩,
          ⟨"src/features/stock_list/tests.rs"⟩, ⟨"src/features/orders/mod.rs"⟩,
          ⟨"src/features/orders/model.rs"⟩, ⟨"src/features/orders/service.rs"⟩,
          ⟨"src/features/orders/handlers.rs"⟩, ⟨"src/features/orders/tests.rs"⟩],
        (left.files.content? path).isSome) ∧
      left.files.content? ⟨"src/features/stock_list/model.rs"⟩ = some (fromLines
        ["use serde::\x7bDeserialize, Serialize\x7d;", "",
          "#[derive(Debug, Clone, PartialEq, Serialize, Deserialize)]",
          "pub struct StockList \x7b", "    pub id: u64,", "\x7d"]) := by
  have hnames : [Options.ofList [("name", .text "Stock List")],
      Options.ofList [("name", .text "orders")]].map featureName = ["stock_list", "orders"] := by
    decide +kernel
  have htext : moduleText ["stock_list", "orders"] = "pub mod stock_list;\npub mod orders;\n" ++
      "pub use stock_list::StockListFeature;\npub use orders::OrdersFeature;\n" := by
    decide +kernel
  obtain ⟨left, hcreates, hmodule, hfiles, -⟩ := @createAll_registers
    [Options.ofList [("name", .text "Stock List")], Options.ofList [("name", .text "orders")]]
    start .blank (by decide +kernel) (by rw [hnames]; decide)
    (by rw [hnames, htext]; decide +kernel)
  rw [hnames, htext] at hmodule
  have hheld : ∀ name ∈ ["stock_list", "orders"], ∀ file ∈ (forFeature name).files,
      left.files.content? file.1 = some file.2 := by
    rw [← hnames]
    exact List.forall_mem_map.mpr hfiles
  obtain ⟨hstock, horders⟩ := List.forall_mem_cons.mp hheld
  have hmodel : (⟨"src/features/stock_list/model.rs"⟩, fromLines
      ["use serde::\x7bDeserialize, Serialize\x7d;", "",
        "#[derive(Debug, Clone, PartialEq, Serialize, Deserialize)]",
        "pub struct StockList \x7b", "    pub id: u64,", "\x7d"]) ∈
      (forFeature "stock_list").files := by
    decide +kernel
  refine ⟨left, hcreates, hmodule, ?_, hstock _ hmodel⟩
  intro path hpath
  have hpaths : path ∈ ((forFeature "stock_list").files ++ (forFeature "orders").files).map
      Prod.fst := hpath
  obtain ⟨file, hfile, rfl⟩ := List.mem_map.mp hpaths
  obtain hfile | hfile := List.mem_append.mp hfile
  · exact Option.isSome_of_eq_some (hstock file hfile)
  · exact Option.isSome_of_eq_some (horders "orders" (List.mem_singleton_self _) file hfile)

end Empty

end FeatureBlueprint

end Scaffold
