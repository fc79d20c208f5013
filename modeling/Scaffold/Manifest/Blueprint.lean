import Scaffold.Command
import Scaffold.Registry
import Scaffold.Template.Files
import Scaffold.Version

/-!
# Blueprints from manifests

A manifest in a directory makes a blueprint: its files are made from the templates that stand
beside it, every option being the value of a token. The blueprints of a project are the manifests
in the directories of one directory.
-/

namespace Scaffold

/-- A blueprint declared by a manifest. -/
structure ManifestBlueprint where
  /-- The directory of the manifest. -/
  directory : Path
  /-- The manifest. -/
  manifest : Manifest
  /-- The tokens of the options told last. -/
  replacements : Replacements
  deriving Repr, DecidableEq

namespace ManifestBlueprint

/-- The blueprint of the manifest in a directory. -/
def load (disk : Disk) (directory : Path) : Except RegistryError ManifestBlueprint :=
  let path := directory.join ⟨Manifest.fileName⟩
  match disk.readText path with
  | .error _ => .error (.badManifest path .unreadable)
  | .ok text =>
    match Manifest.ofYaml? text with
    | none => .error (.badManifest path .malformed)
    | some manifest =>
      match manifest.fault? disk directory with
      | some fault => .error (.badManifest path (.invalid fault))
      | none => .ok ⟨directory, manifest, Replacements.empty⟩

/-- The token of a parameter. -/
def token (parameter : Parameter) : String := "__" ++ parameter.name ++ "__"

/-- Whether a value is too blank for a parameter. -/
def isTooBlank (parameter : Parameter) (text : String) : Bool :=
  parameter.require && parameter.kind == .text && Text.isAllBlank text

/-- The tokens of options; a required text must not be blank. -/
def replacementsFor (options : Options) (replacements : Replacements) :
    List Parameter → Except BlueprintError Replacements
  | [] => .ok replacements
  | parameter :: rest =>
    match options.find? parameter.name with
    | none => replacementsFor options replacements rest
    | some value =>
      if isTooBlank parameter value.render then
        .error (.validation ("--" ++ parameter.name ++ " must not be empty"))
      else
        replacementsFor options (replacements.insert (token parameter) value.render) rest

/-- The paths of the files. -/
def destinations (blueprint : ManifestBlueprint) : List Path :=
  blueprint.manifest.files.map fun file => ⟨blueprint.replacements.render file.destination⟩

/-- The templates with the paths of their files. -/
def usages (blueprint : ManifestBlueprint) : List TemplateUse :=
  blueprint.manifest.files.map fun file => ⟨file.template, file.destination⟩

/-- The milliseconds that a command may take. -/
def commandLimit : Nat := 120000

variable {ω : Type}

/-- Run commands one after the other up to the first failure. -/
def runCommands [HasDisk ω] : List String → Task BlueprintError ω Unit
  | [] => pure ()
  | command :: rest => do
    runOne command
    runCommands rest
where
  /-- Run one command in the working directory. -/
  runOne (command : String) : Task BlueprintError ω Unit := fun world =>
    match CommandOutput.run ⟨"."⟩ command (some commandLimit) (HasDisk.disk world) with
    | .ok _ disk => .ok () (HasDisk.withDisk disk world)
    | .error error disk => .error error (HasDisk.withDisk disk world)

instance : Declared ManifestBlueprint where
  name blueprint := blueprint.manifest.name
  description blueprint := blueprint.manifest.description
  parameters blueprint := blueprint.manifest.parameters

instance [FileHost ω] [HasDisk ω] : Blueprint ManifestBlueprint ω where
  availability world blueprint :=
    (blueprint.manifest.requires.all fun path => (HasDisk.disk world).has ⟨path⟩, blueprint)
  prepare options := fun (blueprint, world) =>
    match replacementsFor options Replacements.empty blueprint.manifest.parameters with
    | .error error => .error error (blueprint, world)
    | .ok replacements =>
      let blueprint := { blueprint with replacements := replacements }
      match blueprint.destinations.find? fun path => FileHost.has path world with
      | some path => .error (.validation (path.text ++ " already exists")) (blueprint, world)
      | none => .ok () (blueprint, world)
  generate := fun (blueprint, world) =>
    match TemplateUse.changes world blueprint.directory blueprint.replacements blueprint.usages with
    | .ok changes => .ok changes (blueprint, world)
    | .error error => .error error (blueprint, world)
  postApply := fun (blueprint, world) =>
    match runCommands blueprint.manifest.commands world with
    | .ok _ world => .ok () (blueprint, world)
    | .error error world => .error error (blueprint, world)

/-- The blueprint of the manifest in a directory that stands in another one at a place, if there is
one. The directory is opened by its path; nothing is looked at below it. -/
def visit (disk : Disk) (directory : Path) (place : Place) (name : String) :
    Except RegistryError (Option ManifestBlueprint) :=
  let path := directory.join ⟨name⟩
  match disk.find .use path with
  | .error fault => .error (.scan directory path fault)
  | .ok _ =>
    match disk.entry? (place ++ [name, Manifest.fileName]) with
    | some (.file _) => (load disk path).map some
    | _ => .ok none

/-- The warning for a blueprint that was written for another version of the program. -/
def versionWarning? (running : String) (blueprint : ManifestBlueprint) : Option String :=
  blueprint.manifest.version?.bind (Version.warning? running blueprint.manifest.name)

/-- The blueprints of all manifests in the directories of a directory, in the order of their names,
and warnings. Links are not followed below the directory. -/
def loadAll (disk : Disk) (running : String) (directory : Path) :
    Except RegistryError (List ManifestBlueprint × List String) :=
  match disk.find .use directory with
  | .ok (place, .directory) =>
    match (disk.subdirectories place).mapM (visit disk directory place) with
    | .ok found =>
      let blueprints := found.filterMap id
      .ok (blueprints, blueprints.filterMap (versionWarning? running))
    | .error error => .error error
  | _ => .ok ([], ["Blueprints directory " ++ directory.text ++ " does not exist"])

end ManifestBlueprint

end Scaffold
