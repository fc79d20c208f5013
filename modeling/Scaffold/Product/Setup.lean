import Scaffold.Blueprint
import Scaffold.Host.Workspace
import Scaffold.Manifest
import Scaffold.ProjectConfig
import Scaffold.Template

/-!
# Setting up a project

The first blueprint of a project writes its configuration, which names a directory of blueprints,
and puts an example into that directory.
-/

namespace Scaffold

/-- The version of the program. -/
def programVersion : String := "0.1.0"

/-- The configuration of a project, from its root. -/
def configPath : Path := ⟨".blueprint.yaml"⟩

/-- The blueprint that sets a project up. -/
structure SetupBlueprint where
  /-- The directory of blueprints asked for last. -/
  blueprints : Path
  deriving Repr, DecidableEq, Inhabited

namespace SetupBlueprint

/-- The blueprint before any directory was asked for. -/
def start : SetupBlueprint := ⟨⟨""⟩⟩

/-- The token of the version of the program. -/
def versionToken : String := "__cli_version__"

/-- The manifest of the example. -/
def exampleManifest : String :=
  "name: example\ndescription: Example local blueprint\nversion: __cli_version__\n" ++
    "parameters:\n  - name: name\n    type: string\n" ++
    "    description: Name of the generated module\n    require: true\n    ask: true\n" ++
    "requires:\n  - src\nfiles:\n  - template: module.rs.txt\n    dest: src/__name__.rs\n"

/-- The template of the example. -/
def exampleTemplate : String := "//! __name__ module\n\npub fn __name__() \x7b\x7d\n"

/-- The directory that the options name. -/
def chosenDirectory (options : Options) : String :=
  (((options.find? "blueprints-dir").bind OptionValue.text?).map Text.trim).getD ""

/-- The directory of the example. -/
def exampleDirectory (blueprint : SetupBlueprint) : Path := blueprint.blueprints.join ⟨"example"⟩

/-- The files with their contents. -/
def newFiles (blueprint : SetupBlueprint) : List (Path × String) :=
  let version := Replacements.empty.insert versionToken programVersion
  [(configPath, ProjectConfig.yamlFor blueprint.blueprints),
    (blueprint.exampleDirectory.join ⟨Manifest.fileName⟩, version.render exampleManifest),
    (blueprint.exampleDirectory.join ⟨"module.rs.txt"⟩, exampleTemplate)]

instance : Declared SetupBlueprint where
  name _ := "initialize"
  description _ := "Installs boilerplate files"
  parameters _ :=
    [⟨"blueprints-dir", .text, "Directory for project blueprints", false, false,
      some (.text "blueprints")⟩]

instance {ω : Type} [FileHost ω] [HasDisk ω] : Blueprint SetupBlueprint ω where
  availability world blueprint := (!(HasDisk.disk world).has configPath, blueprint)
  prepare options := fun (blueprint, world) =>
    let directory := chosenDirectory options
    if directory.isEmpty then
      .error (.validation "--blueprints-dir must not be empty") (blueprint, world)
    else if FileHost.has configPath world then
      .error (.validation "This project is already initialized") (blueprint, world)
    else .ok () (⟨⟨directory⟩⟩, world)
  generate := fun (blueprint, world) =>
    match blueprint.newFiles.mapM fun file => createFile world file.1 file.2 with
    | .ok changes => .ok changes (blueprint, world)
    | .error error => .error error (blueprint, world)
  postApply := pure ()

end SetupBlueprint

end Scaffold
