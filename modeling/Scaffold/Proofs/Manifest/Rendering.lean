import Scaffold.Manifest.Blueprint
import Scaffold.Proofs.Cluster.Creating
import Scaffold.Proofs.Disk.Following
import Scaffold.Proofs.Execution.Unattended

/-!
# Files made from a manifest

A blueprint from a manifest creates one file for each entry, rendered from its template, where
nothing was before. If no two entries are rendered to one path, each file holds exactly what its
own template says, and nothing else changes; if some are, their texts stand one behind the other in
the one file.
-/

namespace Scaffold.ManifestBlueprint

/-- The file that an entry of a manifest stands for, by its path and its text. -/
def Makes (disk : Disk) (directory : Path) (replacements : Replacements) (entry : ManifestFile)
    (file : Path × String) : Prop :=
  ∃ template, disk.readText (directory.join ⟨entry.template⟩) = .ok template ∧
    file = (⟨replacements.render entry.destination⟩, replacements.render template)

section Planning

variable {ω : Type} [FileHost ω] [HasDisk ω] {blueprint prepared planned : ManifestBlueprint}
  {host left : ω} {options : Options}

/-- A blueprint from a manifest plans without writing. -/
theorem plansQuietly : PlansQuietly ManifestBlueprint ω where
  prepare options := by
    rintro ⟨blueprint, host⟩
    simp only [Task.after, Blueprint.prepare]
    cases replacementsFor options Replacements.empty blueprint.manifest.parameters with
    | error error => rfl
    | ok replacements =>
      dsimp only
      cases ({ blueprint with replacements := replacements } : ManifestBlueprint).destinations.find?
          fun path => FileHost.has path host <;> rfl
  generate := by
    rintro ⟨blueprint, host⟩
    simp only [Task.after, Blueprint.generate]
    cases TemplateUse.changes host blueprint.directory blueprint.replacements blueprint.usages <;>
      rfl

/-- A blueprint from a manifest is prepared with the tokens of its options, where nothing is at the
paths of its files. -/
theorem exists_replacements_of_prepare
    (h : Blueprint.prepare options (blueprint, host) = .ok () (prepared, left)) :
    ∃ replacements,
      replacementsFor options Replacements.empty blueprint.manifest.parameters =
        .ok replacements ∧
      prepared = { blueprint with replacements := replacements } ∧
      ∀ path ∈ prepared.destinations, FileHost.has path host = false := by
  simp only [Blueprint.prepare] at h
  cases hreplacements : replacementsFor options Replacements.empty
      blueprint.manifest.parameters with
  | error error =>
    rw [hreplacements] at h
    cases h
  | ok replacements =>
    rw [hreplacements] at h
    dsimp only at h
    split at h
    case h_1 => cases h
    case h_2 hnone =>
      cases h
      refine ⟨replacements, rfl, rfl, fun path hpath => ?_⟩
      exact Bool.eq_false_iff.mpr (List.find?_eq_none.mp hnone path hpath)

/-- The change for a template that can be read creates the rendered file. -/
theorem exists_template_of_change {directory : Path} {replacements : Replacements}
    {usage : TemplateUse} {change : Change}
    (h : usage.change host directory replacements = .ok change) :
    ∃ template,
      (HasDisk.disk host).readText (directory.join ⟨usage.template⟩) = .ok template ∧
      createFile host ⟨replacements.render usage.destination⟩ (replacements.render template) =
        .ok change := by
  unfold TemplateUse.change at h
  dsimp only at h
  split at h
  case h_1 => cases h
  case h_2 template htemplate => exact ⟨template, htemplate, h⟩

/-- The changes of a blueprint from a manifest create a file for each entry. -/
theorem exists_files_of_generate {changes : List Change}
    (h : Blueprint.generate (prepared, host) = .ok changes (planned, left)) :
    planned = prepared ∧ ∃ files,
      List.Forall₂ (Makes (HasDisk.disk host) prepared.directory prepared.replacements)
        prepared.manifest.files files ∧
      (∀ file ∈ files, FileHost.has file.1 host = false) ∧ changes = Change.creations files := by
  simp only [Blueprint.generate] at h
  cases hmade : TemplateUse.changes host prepared.directory prepared.replacements
      prepared.usages with
  | error error =>
    simp only [hmade] at h
    cases h
  | ok made =>
    simp only [hmade] at h
    obtain ⟨rfl, hleft⟩ := EStateM.Result.ok.inj h
    refine ⟨(Prod.mk.inj hleft).1.symm, ?_⟩
    rw [TemplateUse.changes, usages, List.mapM_map] at hmade
    have hstep : ∀ entry change, (TemplateUse.change host prepared.directory
        prepared.replacements ∘ fun file => ⟨file.template, file.destination⟩) entry =
          .ok change →
        ∃ file, Makes (HasDisk.disk host) prepared.directory prepared.replacements entry file ∧
          createFile host file.1 file.2 = .ok change := by
      intro entry change hchange
      obtain ⟨template, htemplate, hcreate⟩ := exists_template_of_change hchange
      exact ⟨_, ⟨template, htemplate, rfl⟩, hcreate⟩
    exact exists_creations hstep hmade

end Planning

section Running

variable {ω ι : Type} [FileHost ω] [HasDisk ω] [Interaction ι] {blueprint : ManifestBlueprint}
  {host : ω} {options : Options} {user : ι}

/-- The plan of a blueprint from a manifest creates a file for each entry, rendered with the tokens
of the options accepted. -/
theorem exists_files_of_plannedRun (run : Execution.PlannedRun blueprint host options user) :
    ∃ replacements files,
      replacementsFor run.accepted Replacements.empty blueprint.manifest.parameters =
        .ok replacements ∧
      run.planned = { blueprint with replacements := replacements } ∧
      List.Forall₂ (Makes (HasDisk.disk host) blueprint.directory replacements)
        blueprint.manifest.files files ∧
      (∀ file ∈ files, FileHost.has file.1 host = false) ∧
      run.changes = Change.creations files := by
  obtain ⟨replacements, hreplacements, hprepared, -⟩ :=
    exists_replacements_of_prepare run.prepares
  obtain ⟨hplanned, files, hmakes, habsent, hchanges⟩ := exists_files_of_generate run.generates
  rw [hprepared] at hmakes hplanned
  exact ⟨replacements, files, hreplacements, hplanned, hmakes, habsent, hchanges⟩

/-- Where the tokens are told, the templates can be read and nothing is at the paths of the files, a
plan is made. -/
theorem exists_plannedRun {accepted : Options} {replacements : Replacements}
    {files : List (Path × String)}
    (haccepts : Execution.Accepts blueprint options user accepted)
    (hreplacements : replacementsFor accepted Replacements.empty blueprint.manifest.parameters =
      .ok replacements)
    (hmakes : List.Forall₂ (Makes (HasDisk.disk host) blueprint.directory replacements)
      blueprint.manifest.files files)
    (habsent : ∀ file ∈ files, FileHost.has file.1 host = false) :
    ∃ run : Execution.PlannedRun blueprint host options user,
      run.planned = { blueprint with replacements := replacements } ∧
      run.changes = Change.creations files := by
  have hpaths : ∀ path ∈ ({ blueprint with replacements := replacements } :
      ManifestBlueprint).destinations, ¬FileHost.has path host = true := by
    intro path hpath
    obtain ⟨entry, hentry, rfl⟩ := List.mem_map.mp hpath
    obtain ⟨file, hfile, template, -, rfl⟩ := exists_of_forall₂ hmakes hentry
    exact Bool.eq_false_iff.mp (habsent _ hfile)
  have hprepares : Blueprint.prepare accepted (blueprint, host) =
      .ok () ({ blueprint with replacements := replacements }, host) := by
    simp only [Blueprint.prepare, hreplacements, List.find?_eq_none.mpr hpaths]
  have hsteps : List.Forall₂ (fun usage file =>
      TemplateUse.change host blueprint.directory replacements usage =
        createFile host file.1 file.2) blueprint.usages files := by
    rw [usages, List.forall₂_map_left_iff]
    refine hmakes.imp fun entry file hmade => ?_
    obtain ⟨template, htemplate, rfl⟩ := hmade
    unfold TemplateUse.change
    dsimp only
    rw [htemplate]
  have hgenerates : Blueprint.generate
      (({ blueprint with replacements := replacements } : ManifestBlueprint), host) =
        .ok (Change.creations files)
          ({ blueprint with replacements := replacements }, host) := by
    have hchanges : TemplateUse.changes host blueprint.directory replacements blueprint.usages =
        .ok (Change.creations files) := mapM_eq_creations hsteps habsent
    simp only [Blueprint.generate]
    rw [show ({ blueprint with replacements := replacements } : ManifestBlueprint).usages =
      blueprint.usages from rfl, hchanges]
  exact ⟨⟨accepted, _, _, _, haccepts, hprepares, hgenerates⟩, rfl, rfl⟩

/-- Without commands, a blueprint from a manifest has nothing to say at the end. -/
theorem postApply_of_no_commands (quiet : blueprint.manifest.commands = []) (host : ω) :
    (Blueprint.postApply : Task BlueprintError (ManifestBlueprint × ω) Unit) (blueprint, host) =
      .ok () (blueprint, host) := by
  simp only [Blueprint.postApply, quiet]
  rfl

end Running

section Creating

variable {ι : Type} [Interaction ι]

/-- An execution of a blueprint from a manifest without commands that ends as applied has created
its files and nothing else: each is rendered from its template with the tokens of the options
accepted, was absent before, and of several at one path the texts follow each other in the order of
the manifest. So if no two files have one path, each holds exactly what its template says. -/
theorem execute_creates_files {blueprint : ManifestBlueprint}
    (quiet : blueprint.manifest.commands = []) {host : Workspace} {user : ι} {active dryRun : Bool}
    {options : Options} {left : Execution ManifestBlueprint Workspace ι}
    (happlied : Execution.execute active dryRun options (Execution.start blueprint host user) =
      .ok .applied left) :
    ∃ replacements files,
      replacementsFor left.session.run.options Replacements.empty blueprint.manifest.parameters =
        .ok replacements ∧
      List.Forall₂ (Makes host.disk blueprint.directory replacements) blueprint.manifest.files
        files ∧
      (∀ file ∈ files, host.files.content? file.1 = none) ∧
      (∀ path, left.session.host.files.content? path =
        if ∃ file ∈ files, file.1.same path = true then some (Change.createdText files path)
        else host.files.content? path) ∧
      ((files.map fun file => file.1.components).Nodup →
        ∀ file ∈ files, left.session.host.files.content? file.1 = some file.2) := by
  obtain ⟨-, hfinished⟩ := (Execution.ensures_course plansQuietly active dryRun).of_ok happlied rfl
  obtain ⟨run, hrun⟩ := hfinished rfl
  obtain ⟨replacements, files, hreplacements, hplanned, hmakes, habsent, hchanges⟩ :=
    exists_files_of_plannedRun run
  obtain ⟨applied, happly, hlast⟩ := hrun.applies
  obtain ⟨created, hcreated, hcontents⟩ := Session.applyCluster_creations habsent
  rw [Execution.PlannedRun.cluster, hchanges, hcreated] at happly
  obtain ⟨-, rfl⟩ := EStateM.Result.ok.inj happly
  have hsilent : run.planned.manifest.commands = [] := hplanned ▸ quiet
  rw [Task.after_of_ok (postApply_of_no_commands hsilent created)] at hlast
  have hhost : left.session.host = created := (Prod.ext_iff.mp hlast).2.symm
  have hcontent : ∀ path, left.session.host.files.content? path =
      if ∃ file ∈ files, file.1.same path = true then some (Change.createdText files path)
      else host.files.content? path := by
    intro path
    rw [hhost, MemoryHost.content?_eq, MemoryHost.content?_eq]
    exact hcontents path
  refine ⟨replacements, files, hrun.accepted ▸ hreplacements, hmakes, ?_, hcontent, ?_⟩
  · intro file hfile
    rw [MemoryHost.content?_eq]
    exact Session.contents_of_absent (habsent file hfile)
  · intro distinct file hfile
    rw [hcontent, if_pos ⟨file, hfile, file.1.same_self⟩,
      Change.createdText_of_sole distinct hfile]

/-- Where the tokens are told, the templates can be read and nothing is at the paths of the files,
an unattended execution creates the files. -/
theorem exists_execute_of_makes {blueprint : ManifestBlueprint}
    (quiet : blueprint.manifest.commands = []) {host : Workspace} {user : Unattended}
    {options accepted : Options} {replacements : Replacements} {files : List (Path × String)}
    (haccepts : Execution.Accepts blueprint options user accepted)
    (hreplacements : replacementsFor accepted Replacements.empty blueprint.manifest.parameters =
      .ok replacements)
    (hmakes : List.Forall₂ (Makes host.disk blueprint.directory replacements)
      blueprint.manifest.files files)
    (habsent : ∀ file ∈ files, FileHost.has file.1 host = false) :
    ∃ left, Execution.execute true false options (Execution.start blueprint host user) =
        .ok .applied left ∧
      ∀ path, left.session.host.files.content? path =
        if ∃ file ∈ files, file.1.same path = true then some (Change.createdText files path)
        else host.files.content? path := by
  have hplans : ∃ run : Execution.PlannedRun blueprint host options user,
      run.planned = { blueprint with replacements := replacements } ∧
      run.changes = Change.creations files :=
    exists_plannedRun haccepts hreplacements hmakes habsent
  obtain ⟨run, hplanned, hchanges⟩ := hplans
  obtain ⟨created, hcreated, hcontents⟩ := Session.applyCluster_creations habsent
  have happly : Session.applyCluster run.cluster host = .ok () created := by
    rw [Execution.PlannedRun.cluster, hchanges, hcreated]
  have hsilent : run.planned.manifest.commands = [] := hplanned ▸ quiet
  have hlast := postApply_of_no_commands hsilent created
  obtain ⟨left, hleft, hhost⟩ := Execution.execute_of_unattended run happly hlast
  refine ⟨left, hleft, fun path => ?_⟩
  rw [hhost, MemoryHost.content?_eq, MemoryHost.content?_eq]
  exact hcontents path

/-- A manifest of two notes that are made from one template. -/
def pairText : String :=
  "name: pair\ndescription: Notes\nparameters:\n- {name: a, type: string}\n" ++
    "- {name: b, type: string}\nfiles:\n- {template: note, dest: __a__}\n" ++
    "- {template: note, dest: __b__}\n"

/-- The blueprint of the manifest. -/
def pair : ManifestBlueprint where
  directory := ⟨"pair"⟩
  manifest := ⟨"pair", "Notes", none,
    [⟨"a", .text, "", false, false, none⟩, ⟨"b", .text, "", false, false, none⟩], [],
    [⟨"note", some "__a__"⟩, ⟨"note", some "__b__"⟩], []⟩
  replacements := Replacements.empty

/-- No files, beside a disk that holds the manifest and the template. -/
def pairWorkspace : Workspace where
  files := MemoryHost.withFiles []
  disk := ⟨[(["tmp"], .directory), (["tmp", "work"], .directory),
    (["tmp", "work", "pair"], .directory),
    (["tmp", "work", "pair", "blueprint.yaml"], .file (.text pairText)),
    (["tmp", "work", "pair", "note"], .file (.text "For __a__\n"))], ["tmp", "work"]⟩

/-- The options that give the notes their paths. -/
def pairOptions (first second : String) : Options :=
  Options.ofList [("a", .text first), ("b", .text second)]

/-- The tokens of the options. -/
def pairTokens (first second : String) : Replacements :=
  ⟨[("__a__", first), ("__b__", second)]⟩

/-- The notes of the options. -/
def pairFiles (first second : String) : List (Path × String) :=
  [(⟨(pairTokens first second).render "__a__"⟩, (pairTokens first second).render "For __a__\n"),
    (⟨(pairTokens first second).render "__b__"⟩, (pairTokens first second).render "For __a__\n")]

/-- The template of the notes is found beside the manifest. -/
theorem find_note :
    pairWorkspace.disk.find .use (pair.directory.join ⟨"note"⟩) =
      .ok (["tmp", "work", "pair", "note"], .file (.text "For __a__\n")) := by
  have hpath : pair.directory.join ⟨"note"⟩ = ⟨"pair/note"⟩ := by decide
  have hlocate : pairWorkspace.disk.locate .use ⟨"pair/note"⟩ =
      pairWorkspace.disk.follow .use Disk.linkLimit ["tmp", "work"] ["pair", "note"] := by
    have hsteps : Disk.steps "pair/note" = ["pair", "note"] := by decide
    rw [Disk.locate, if_neg (by decide), if_neg (by decide), if_neg (by decide),
      if_neg (by decide), hsteps]
    rfl
  have hdirectory : pairWorkspace.disk.entry? (["tmp", "work"] ++ ["pair"]) =
      some .directory := rfl
  have hfile : pairWorkspace.disk.entry? (["tmp", "work"] ++ ["pair"] ++ ["note"]) =
      some (.file (.text "For __a__\n")) := rfl
  have hpair : Disk.IsStep "pair" := Disk.isStep_of_not (by decide) (by decide) (by decide)
  have hnote : Disk.IsStep "note" := Disk.isStep_of_not (by decide) (by decide) (by decide)
  have huse : Purpose.use ≠ Purpose.write := Purpose.noConfusion
  rw [hpath, Disk.find, hlocate, Disk.follow_isStep hpair (.inl huse), hdirectory]
  dsimp only
  rw [Disk.follow_isStep hnote (.inl huse), hfile]
  rfl

/-- The template of the notes is a file. -/
theorem templatesFault?_of_notes {files : List ManifestFile}
    (notes : ∀ file ∈ files, file.template = "note") :
    Manifest.templatesFault? pairWorkspace.disk pair.directory files = none := by
  have hnone : ∀ file ∈ files,
      ¬(!pairWorkspace.disk.isFile (pair.directory.join ⟨file.template⟩)) = true := by
    intro file hfile
    rw [notes file hfile, Disk.isFile, find_note]
    nofun
  rw [Manifest.templatesFault?, List.find?_eq_none.mpr hnone]
  rfl

/-- Nothing is wrong with the manifest. -/
theorem fault?_pair : pair.manifest.fault? pairWorkspace.disk pair.directory = none := by
  rw [Manifest.fault?, templatesFault?_of_notes (by decide)]
  decide

/-- Each note is rendered from the template. -/
theorem makes_pairFiles (first second : String) :
    List.Forall₂ (Makes pairWorkspace.disk pair.directory (pairTokens first second))
      pair.manifest.files (pairFiles first second) := by
  have htemplate : pairWorkspace.disk.readText (pair.directory.join ⟨"note"⟩) =
      .ok "For __a__\n" := by
    rw [Disk.readText, Disk.readContent, find_note]
  exact .cons ⟨_, htemplate, rfl⟩ (.cons ⟨_, htemplate, rfl⟩ .nil)

/-- Options that give the notes their paths are accepted, and their tokens are told. -/
theorem exists_execute_pair {first second : String}
    (haccepts : Execution.Accepts pair (pairOptions first second) (Unattended.start false)
      (pairOptions first second))
    (htokens : replacementsFor (pairOptions first second) Replacements.empty
      pair.manifest.parameters = .ok (pairTokens first second)) :
    ∃ left, Execution.execute true false (pairOptions first second)
        (Execution.start pair pairWorkspace (Unattended.start false)) = .ok .applied left ∧
      ∀ path, left.session.host.files.content? path =
        if ∃ file ∈ pairFiles first second, file.1.same path = true then
          some (Change.createdText (pairFiles first second) path)
        else none :=
  exists_execute_of_makes rfl haccepts htokens (makes_pairFiles first second) fun _ _ => rfl

/-- With two paths, an execution creates each note. -/
theorem pair_creates_files :
    ∃ left replacements files, Execution.execute true false (pairOptions "x" "y")
        (Execution.start pair pairWorkspace (Unattended.start false)) = .ok .applied left ∧
      replacementsFor left.session.run.options Replacements.empty pair.manifest.parameters =
        .ok replacements ∧
      List.Forall₂ (Makes pairWorkspace.disk pair.directory replacements) pair.manifest.files
        files ∧
      ∀ path, left.session.host.files.content? path =
        if ∃ file ∈ files, file.1.same path = true then some (Change.createdText files path)
        else none := by
  have haccepts : Execution.Accepts pair (pairOptions "x" "y") (Unattended.start false)
      (pairOptions "x" "y") := ⟨pairOptions "x" "y", Unattended.start false, rfl, rfl⟩
  obtain ⟨left, happlied, -⟩ := exists_execute_pair haccepts rfl
  obtain ⟨replacements, files, hreplacements, hmakes, -, hcontent, -⟩ :=
    execute_creates_files rfl happlied
  exact ⟨left, replacements, files, happlied, hreplacements, hmakes, hcontent⟩

/-- With one path for both notes, an execution of a manifest that nothing is wrong with ends as
applied, and the file has the text of the template twice. -/
theorem pair_doubles_note :
    Manifest.ofYaml? pairText = some pair.manifest ∧
      pair.manifest.fault? pairWorkspace.disk pair.directory = none ∧
      List.Forall₂ (Makes pairWorkspace.disk pair.directory (pairTokens "x" "x"))
        pair.manifest.files [(⟨"x"⟩, "For x\n"), (⟨"x"⟩, "For x\n")] ∧
      ∃ left, Execution.execute true false (pairOptions "x" "x")
          (Execution.start pair pairWorkspace (Unattended.start false)) = .ok .applied left ∧
        left.session.host.files.content? ⟨"x"⟩ = some "For x\nFor x\n" := by
  have haccepts : Execution.Accepts pair (pairOptions "x" "x") (Unattended.start false)
      (pairOptions "x" "x") := ⟨pairOptions "x" "x", Unattended.start false, rfl, rfl⟩
  have hfiles : pairFiles "x" "x" = [(⟨"x"⟩, "For x\n"), (⟨"x"⟩, "For x\n")] := by
    decide +kernel
  obtain ⟨left, happlied, hcontent⟩ := exists_execute_pair haccepts rfl
  refine ⟨by decide +kernel, fault?_pair, hfiles ▸ makes_pairFiles "x" "x", left, happlied, ?_⟩
  rw [hcontent, hfiles]
  decide +kernel

end Creating

end Scaffold.ManifestBlueprint
