import Scaffold.Proofs.Manifest.Rendering
import Scaffold.Proofs.Product.Registration

/-!
# Scaffolding

The blueprints of the program only add to a project. Each of their plans has a landmark, a file
that has to be absent when the plan is made and that is there once it was applied. So whatever was
there before stays, a plan that could be made can be applied, and the same options make no second
plan where the first one was applied.
-/

namespace Scaffold

namespace MemoryHost

/-- Later files hold what earlier ones held; where they may grow, text can have been put in
between. -/
def Keeps (mayGrow : Path → Prop) (earlier later : MemoryHost) : Prop :=
  ∀ path content, earlier.content? path = some content →
    later.content? path = some content ∨
      mayGrow path ∧
        ∃ longer, later.content? path = some longer ∧ content.toList.Sublist longer.toList

/-- A host keeps what it has. -/
theorem Keeps.refl (mayGrow : Path → Prop) (host : MemoryHost) : host.Keeps mayGrow host :=
  fun _ _ held => .inl held

end MemoryHost

namespace Execution

variable {β ι : Type} [Blueprint β Workspace] [Interaction ι] {mayGrow : Path → Prop}
  {blueprint again : β} {host : Workspace} {options : Options} {user : ι}

/-- An execution of the blueprint only adds to the files, and another one of the same kind adds
nothing where it was applied. -/
structure Scaffolds (mayGrow : Path → Prop) (blueprint again : β) (host : Workspace)
    (options : Options) (user : ι) : Prop where
  /-- Every file that was there keeps its content, however the execution ends. -/
  keeps (active dryRun : Bool) :
    host.files.Keeps mayGrow
      (Task.after (execute active dryRun options) (start blueprint host user)).session.host.files
  /-- Once the blueprint is prepared and its changes are generated, they can be applied. -/
  applies {accepted : Options} {prepared planned : β × Workspace} {changes : List Change}
    (prepares : Blueprint.prepare accepted (blueprint, host) = .ok () prepared)
    (generates : Blueprint.generate prepared = .ok changes planned) :
    Task.succeeds (Session.applyCluster (ChangeCluster.ofChanges changes)) planned.2 = true
  /-- So an execution never stops while it applies. -/
  through (active dryRun : Bool) :
    (Task.after (execute active dryRun options) (start blueprint host user)).session.run.state ≠
      .applying
  /-- What was applied is not applied again with the same options by the same user. -/
  once {active dryRun : Bool} {left : Execution β Workspace ι}
    (applied : execute active dryRun options (start blueprint host user) = .ok .applied left)
    (active' dryRun' : Bool) :
    (∀ ended, execute active' dryRun' options (start again left.session.host user) ≠
        .ok .applied ended) ∧
      (Task.after (execute active' dryRun' options)
        (start again left.session.host user)).session.host = left.session.host

/-- What holds of every plan of a blueprint for a host: it can be applied, and then its landmark is
there. -/
structure Landmark (mayGrow : Path → Prop) (landmark : Options → Path) (blueprint : β)
    (host : Workspace) : Prop where
  /-- The plan can be applied, keeps every file and makes the landmark. -/
  applies {accepted : Options} {prepared planned : β} {changes : List Change}
    (prepares : Blueprint.prepare accepted (blueprint, host) = .ok () (prepared, host))
    (generates : Blueprint.generate (prepared, host) = .ok changes (planned, host)) :
    ∃ applied, Session.applyCluster (ChangeCluster.ofChanges changes) host = .ok () applied ∧
      host.files.Keeps mayGrow applied.files ∧ FileHost.has (landmark accepted) applied = true
  /-- The last word does nothing to the host. -/
  silent {accepted : Options} {prepared planned : β} {changes : List Change}
    (prepares : Blueprint.prepare accepted (blueprint, host) = .ok () (prepared, host))
    (generates : Blueprint.generate (prepared, host) = .ok changes (planned, host))
    (world : Workspace) :
    (Task.after (Blueprint.postApply : Task BlueprintError (β × Workspace) Unit)
      (planned, world)).2 = world

/-- A blueprint makes no plan where its landmark is. -/
def NeedsLandmarkAbsent (landmark : Options → Path) (again : β) : Prop :=
  ∀ ⦃world : Workspace⦄ ⦃accepted : Options⦄ ⦃prepared planned : β⦄ ⦃changes : List Change⦄,
    Blueprint.prepare accepted (again, world) = .ok () (prepared, world) →
    Blueprint.generate (prepared, world) = .ok changes (planned, world) →
    FileHost.has (landmark accepted) world = false

section Course

variable {landmark : Options → Path} {session : Session β Workspace}

/-- Whatever an execution ends with, its session has taken its course. -/
theorem course_after (quiet : PlansQuietly β Workspace) (active dryRun : Bool) :
    Course blueprint host options user
      (Task.after (execute active dryRun options) (start blueprint host user)).session :=
  ((ensures_course quiet active dryRun).weaken (fun _ _ h => h.1) fun _ _ h => h).after rfl

/-- A plan that was applied kept every file and left its landmark. -/
theorem keeps_of_finished (hlandmark : Landmark mayGrow landmark blueprint host)
    {run : PlannedRun blueprint host options user} (hfinished : run.Finished session) :
    host.files.Keeps mayGrow session.host.files ∧
      FileHost.has (landmark run.accepted) session.host = true := by
  obtain ⟨applied, happly, hlast⟩ := hfinished.applies
  obtain ⟨reached, hreached, hkeeps, hhas⟩ := hlandmark.applies run.prepares run.generates
  have hsame : Session.applyCluster run.cluster host = .ok () reached := hreached
  rw [hsame] at happly
  obtain ⟨-, rfl⟩ := EStateM.Result.ok.inj happly
  have hhost := hlandmark.silent run.prepares run.generates reached
  rw [hlast] at hhost
  dsimp only at hhost
  rw [hhost]
  exact ⟨hkeeps, hhas⟩

/-- No plan of a blueprint with a landmark breaks. -/
theorem not_broke (hlandmark : Landmark mayGrow landmark blueprint host)
    (run : PlannedRun blueprint host options user) : ¬run.Broke session := by
  intro hbroke
  obtain ⟨error, herror⟩ := hbroke.fails
  obtain ⟨applied, happlied, -⟩ := hlandmark.applies run.prepares run.generates
  have hsame : Session.applyCluster run.cluster host = .ok () applied := happlied
  rw [hsame] at herror
  cases herror

/-- An execution of a blueprint with a landmark keeps every file and does not stop while it
applies. -/
theorem Course.keeps (hlandmark : Landmark mayGrow landmark blueprint host)
    (h : Course blueprint host options user session) :
    host.files.Keeps mayGrow session.host.files ∧ session.run.state ≠ .applying := by
  cases h with
  | idle hidle =>
    refine ⟨by rw [hidle.host]; exact .refl mayGrow host.files, fun happlying => ?_⟩
    have hstate := hidle.state
    rw [happlying] at hstate
    cases hstate with
    | inl hopen => cases hopen
    | inr haborted => cases haborted
  | broke run hbroke => exact absurd hbroke (not_broke hlandmark run)
  | finished run hfinished =>
    refine ⟨(keeps_of_finished hlandmark hfinished).1, fun happlying => ?_⟩
    have hstate := hfinished.state
    rw [happlying] at hstate
    cases hstate with
    | inl happlied => cases happlied
    | inr hpostApplied => cases hpostApplied

/-- Where a plan was applied, the same options make no second one: its landmark would have to be
absent. -/
theorem not_plannedRun_of_finished (hlandmark : Landmark mayGrow landmark blueprint host)
    (habsent : NeedsLandmarkAbsent landmark again)
    (hparameters : Declared.parameters again = (Declared.parameters blueprint : List Parameter))
    {run : PlannedRun blueprint host options user} (hfinished : run.Finished session)
    (second : PlannedRun again session.host options user) : False := by
  have haccepted := run.accepts.unique second.accepts hparameters
  have hmissing := habsent second.prepares second.generates
  rw [haccepted, (keeps_of_finished hlandmark hfinished).2] at hmissing
  cases hmissing

/-- A blueprint with a landmark only adds to the files, and once. -/
theorem scaffolds_of_landmark (quiet : PlansQuietly β Workspace)
    (hlandmark : Landmark mayGrow landmark blueprint host)
    (habsent : NeedsLandmarkAbsent landmark again)
    (hparameters : Declared.parameters again = (Declared.parameters blueprint : List Parameter)) :
    Scaffolds mayGrow blueprint again host options user where
  keeps active dryRun := ((course_after quiet active dryRun).keeps hlandmark).1
  through active dryRun := ((course_after quiet active dryRun).keeps hlandmark).2
  applies := by
    rintro accepted ⟨prepared, between⟩ ⟨planned, world⟩ changes hprepares hgenerates
    have hbetween : between = host := (quiet.prepare accepted).of_ok hprepares
    subst hbetween
    have hworld : world = between := quiet.generate.of_ok hgenerates
    subst hworld
    obtain ⟨applied, happlied, -⟩ := hlandmark.applies hprepares hgenerates
    exact Task.succeeds_iff.mpr ⟨(), applied, happlied⟩
  once := by
    intro active dryRun left happlied active' dryRun'
    obtain ⟨-, hfinished⟩ := (ensures_course quiet active dryRun).of_ok happlied rfl
    obtain ⟨run, hrun⟩ := hfinished rfl
    have hnone := not_plannedRun_of_finished hlandmark habsent hparameters hrun
    refine ⟨fun ended hended => ?_, ?_⟩
    · obtain ⟨-, hagain⟩ := (ensures_course quiet active' dryRun').of_ok hended rfl
      obtain ⟨second, -⟩ := hagain rfl
      exact hnone second
    · cases (course_after quiet active' dryRun' :
        Course again left.session.host options user _) with
      | idle hidle => exact hidle.host
      | broke second => exact (hnone second).elim
      | finished second => exact (hnone second).elim

end Course

end Execution

namespace Workspace

variable {host left : Workspace} {path : Path}

/-- The files of a workspace are what it holds. -/
theorem content?_files (host : Workspace) (path : Path) :
    host.files.content? path = ContentHost.contents host path.components :=
  MemoryHost.content?_eq host.files path

/-- Something is at a path where a file is held. -/
theorem has_iff :
    FileHost.has path host = true ↔ ∃ content, host.files.content? path = some content := by
  rw [← ContentHost.has_contents, content?_files]
  exact Option.isSome_iff_exists

variable {files : List (Path × String)}

/-- Files that are held are none of those that are absent. -/
theorem not_exists_same (habsent : ∀ file ∈ files, FileHost.has file.1 host = false)
    {content : String} (held : host.files.content? path = some content) :
    ¬∃ file ∈ files, file.1.same path = true := by
  rintro ⟨file, hfile, hsame⟩
  have hnone := Session.contents_of_absent (habsent file hfile)
  rw [Path.same_iff.mp hsame, ← content?_files, held] at hnone
  cases hnone

/-- Absent files are created: all others keep their contents, and then the new ones are there. -/
theorem exists_of_creations (mayGrow : Path → Prop)
    (habsent : ∀ file ∈ files, FileHost.has file.1 host = false) :
    ∃ applied, Session.applyCluster (ChangeCluster.ofChanges (Change.creations files)) host =
        .ok () applied ∧
      host.files.Keeps mayGrow applied.files ∧
      ∀ file ∈ files, FileHost.has file.1 applied = true := by
  obtain ⟨applied, happlied, hcontents⟩ := Session.applyCluster_creations habsent
  refine ⟨applied, happlied, fun path content held => .inl ?_, fun file hfile => ?_⟩
  · rw [content?_files, hcontents, if_neg (not_exists_same habsent held), ← content?_files, held]
  · refine has_iff.mpr ⟨Change.createdText files file.1, ?_⟩
    rw [content?_files, hcontents, if_pos ⟨file, hfile, file.1.same_self⟩]

end Workspace

namespace SetupBlueprint

/-- The configuration is absent before a project is set up, and is there afterwards. -/
theorem landmark (blueprint : SetupBlueprint) (host : Workspace) :
    Execution.Landmark (fun _ => False) (fun _ => configPath) blueprint host where
  applies := by
    intro accepted prepared planned changes _ hgenerates
    obtain ⟨habsent, rfl⟩ := creations_of_generate hgenerates
    obtain ⟨applied, happlied, hkeeps, hhas⟩ := Workspace.exists_of_creations _ habsent
    exact ⟨applied, happlied, hkeeps, hhas _ List.mem_cons_self⟩
  silent _ _ _ := rfl

/-- A configuration is planned only where there is none yet. -/
theorem needsLandmarkAbsent (blueprint : SetupBlueprint) :
    Execution.NeedsLandmarkAbsent (fun _ => configPath) blueprint :=
  fun _ _ _ _ _ hprepares _ => absent_of_prepare hprepares

end SetupBlueprint

namespace FeatureBlueprint

/-- The file of the feature that joins the others. -/
def joiningFile (accepted : Options) : Path :=
  (forFeature (featureName accepted)).directory.join ⟨"mod.rs"⟩

/-- The file that joins the others is one of the feature. -/
theorem exists_joiningFile (accepted : Options) :
    ∃ file ∈ (forFeature (featureName accepted)).files, file.1 = joiningFile accepted :=
  ⟨_, List.mem_cons_self, rfl⟩

/-- A file of the feature is absent before the feature is created, and is there afterwards. -/
theorem landmark (blueprint : FeatureBlueprint) (host : Workspace)
    (short : ∀ content, host.files.content? featuresModule = some content →
      Text.byteLength content.toList < 2 ^ 63) :
    Execution.Landmark (fun path => path.same featuresModule = true) joiningFile blueprint
      host where
  applies := by
    intro accepted prepared planned changes hprepares hgenerates
    obtain ⟨husable, rfl, -⟩ := prepared_of_prepare hprepares
    obtain ⟨habsent, rfl⟩ := changes_of_generate hgenerates
    have hname := isFeatureName_of_usable husable
    have hshort : Text.byteLength ((ContentHost.contents host).text featuresModule).toList <
        2 ^ 63 := by
      unfold Contents.text
      rw [← Workspace.content?_files]
      cases hheld : host.files.content? featuresModule with
      | none => decide
      | some content => exact short content hheld
    obtain ⟨applied, happlied, hcontents⟩ := applyCluster_feature hname habsent hshort
    refine ⟨applied, happlied, fun path content held => ?_, ?_⟩
    · rw [Workspace.content?_files] at held
      rw [Workspace.content?_files, hcontents]
      by_cases hmodule : path.same featuresModule = true
      · have htext : (ContentHost.contents host).text featuresModule = content := by
          rw [Contents.text, ← Path.same_iff.mp hmodule, held]
          rfl
        rw [contentAfter_module hmodule, htext]
        exact .inr ⟨hmodule, _, rfl, sublist_registered _ content⟩
      · exact .inl (contentAfter_of_held (fun file hfile => Session.contents_of_absent
          (habsent file hfile)) hmodule held)
    · obtain ⟨file, hfile, hpath⟩ := exists_joiningFile accepted
      have hleft := (hcontents file.1).trans (contentAfter_file hname hfile)
      rw [← Workspace.content?_files] at hleft
      exact hpath ▸ Workspace.has_iff.mpr ⟨_, hleft⟩
  silent _ _ _ := rfl

/-- A feature is planned only where its joining file is not there yet. -/
theorem needsLandmarkAbsent (blueprint : FeatureBlueprint) :
    Execution.NeedsLandmarkAbsent joiningFile blueprint := by
  intro world accepted prepared planned changes hprepares hgenerates
  obtain ⟨-, rfl, -⟩ := prepared_of_prepare hprepares
  obtain ⟨file, hfile, hpath⟩ := exists_joiningFile accepted
  exact hpath ▸ (changes_of_generate hgenerates).1 file hfile

end FeatureBlueprint

namespace ManifestBlueprint

/-- The path of the first file of a manifest for options. -/
def firstFile (manifest : Manifest) (accepted : Options) : Path :=
  match replacementsFor accepted Replacements.empty manifest.parameters, manifest.files with
  | .ok replacements, entry :: _ => ⟨replacements.render entry.destination⟩
  | _, _ => ⟨""⟩

variable {blueprint : ManifestBlueprint}

/-- A manifest that nothing is wrong with lists a file. -/
theorem exists_entry_of_fault? {manifest : Manifest} {disk : Disk} {directory : Path}
    (h : manifest.fault? disk directory = none) :
    ∃ entry rest, manifest.files = entry :: rest := by
  cases hfiles : manifest.files with
  | cons entry rest => exact ⟨entry, rest, rfl⟩
  | nil =>
    simp [Manifest.fault?, hfiles] at h

/-- The first file of a manifest is absent before its files are made, and is there afterwards. -/
theorem landmark (quiet : blueprint.manifest.commands = [])
    {entry : ManifestFile} {rest : List ManifestFile}
    (hfiles : blueprint.manifest.files = entry :: rest) (host : Workspace) :
    Execution.Landmark (fun _ => False) (firstFile blueprint.manifest) blueprint host where
  applies := by
    intro accepted prepared planned changes hprepares hgenerates
    obtain ⟨replacements, hreplacements, rfl, -⟩ := exists_replacements_of_prepare hprepares
    obtain ⟨-, files, hmakes, habsent, rfl⟩ := exists_files_of_generate hgenerates
    obtain ⟨applied, happlied, hkeeps, hhas⟩ := Workspace.exists_of_creations _ habsent
    refine ⟨applied, happlied, hkeeps, ?_⟩
    obtain ⟨file, hfile, template, -, rfl⟩ :=
      exists_of_forall₂ hmakes (hfiles ▸ List.mem_cons_self : entry ∈ blueprint.manifest.files)
    have hfirst := hhas _ hfile
    simp only [firstFile, hreplacements, hfiles]
    exact hfirst
  silent := by
    intro accepted prepared planned changes hprepares hgenerates world
    obtain ⟨replacements, -, rfl, -⟩ := exists_replacements_of_prepare hprepares
    obtain ⟨rfl, -⟩ := exists_files_of_generate hgenerates
    have hsilent : ({ blueprint with replacements := replacements } :
        ManifestBlueprint).manifest.commands = [] := quiet
    rw [Task.after_of_ok (postApply_of_no_commands hsilent world)]

/-- The files of a manifest are planned only where the first of them is not there yet. -/
theorem needsLandmarkAbsent {entry : ManifestFile} {rest : List ManifestFile}
    (hfiles : blueprint.manifest.files = entry :: rest) :
    Execution.NeedsLandmarkAbsent (firstFile blueprint.manifest) blueprint := by
  intro world accepted prepared planned changes hprepares _
  obtain ⟨replacements, hreplacements, rfl, habsent⟩ := exists_replacements_of_prepare hprepares
  simp only [firstFile, hreplacements, hfiles]
  refine habsent _ ?_
  rw [destinations, hfiles]
  exact List.mem_cons_self

end ManifestBlueprint

namespace Execution

/-- The blueprints of the program only add to a project, and once, whatever is there, whatever the
options are and whoever the user is: all files stay as they are, but for the module of all features,
in which a feature may put in lines. That module must not be longer than signed positions in 64 bits
can say. The blueprints from manifests are those that nothing was wrong with when they were loaded,
without commands. -/
theorem execute_only_adds {ι : Type} [Interaction ι] (host : Workspace) (options : Options)
    (user : ι) :
    (∀ blueprint again : SetupBlueprint,
      Scaffolds (fun _ => False) blueprint again host options user) ∧
    ((∀ content, host.files.content? FeatureBlueprint.featuresModule = some content →
        Text.byteLength content.toList < 2 ^ 63) →
      ∀ blueprint again : FeatureBlueprint,
        Scaffolds (fun path => path.same FeatureBlueprint.featuresModule = true) blueprint again
          host options user) ∧
    (∀ (blueprint again : ManifestBlueprint) (disk : Disk),
      blueprint.manifest.fault? disk blueprint.directory = none →
      blueprint.manifest.commands = [] → again.manifest = blueprint.manifest →
        Scaffolds (fun _ => False) blueprint again host options user) := by
  refine ⟨fun blueprint again => ?_, fun short blueprint again => ?_, ?_⟩
  · exact scaffolds_of_landmark SetupBlueprint.plansQuietly (blueprint.landmark host)
      again.needsLandmarkAbsent rfl
  · exact scaffolds_of_landmark FeatureBlueprint.plansQuietly (blueprint.landmark host short)
      again.needsLandmarkAbsent rfl
  · intro blueprint again disk hfault quiet hsame
    obtain ⟨entry, rest, hfiles⟩ := ManifestBlueprint.exists_entry_of_fault? hfault
    have habsent := ManifestBlueprint.needsLandmarkAbsent (hsame ▸ hfiles)
    rw [hsame] at habsent
    exact scaffolds_of_landmark ManifestBlueprint.plansQuietly
      (ManifestBlueprint.landmark quiet hfiles host) habsent (congrArg Manifest.parameters hsame)

/-- The module of all features is there, without a line feed at its end, and is not too long. -/
theorem execute_only_adds_to_features :
    Scaffolds (fun path => path.same FeatureBlueprint.featuresModule = true)
        FeatureBlueprint.start FeatureBlueprint.start
        ⟨.withFiles [(FeatureBlueprint.featuresModule, "pub mod a;")], .blank⟩
        (Options.ofList [("name", .text "Stock List")]) (Unattended.start false) ∧
      Scaffolds (fun _ => False) ManifestBlueprint.pair ManifestBlueprint.pair
        ManifestBlueprint.pairWorkspace (ManifestBlueprint.pairOptions "x" "y")
        (Unattended.start false) := by
  refine ⟨(execute_only_adds _ _ _).2.1 ?_ _ _, ?_⟩
  · intro content hcontent
    have hheld : (MemoryHost.withFiles [(FeatureBlueprint.featuresModule, "pub mod a;")]).content?
        FeatureBlueprint.featuresModule = some "pub mod a;" := by decide +kernel
    cases hheld.symm.trans hcontent
    decide
  · exact (execute_only_adds _ _ _).2.2 _ _ ManifestBlueprint.pairWorkspace.disk
      ManifestBlueprint.fault?_pair rfl rfl

end Execution

end Scaffold
