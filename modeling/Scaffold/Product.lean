import Scaffold.Blueprint.Either
import Scaffold.Manifest.Blueprint
import Scaffold.Product.Feature
import Scaffold.Product.Setup

/-!
# Products

A program with a name, a version and blueprints of its own. The blueprints of the project it is
used in are added to its own.
-/

namespace Scaffold

/-- What a program says about itself. -/
structure Product where
  /-- The name. -/
  name : String
  /-- What it is for. -/
  about : String
  /-- The version, compared with what blueprints were written for. -/
  version : String
  /-- The configuration of a project. -/
  config : Path
  deriving Repr, DecidableEq

/-- A blueprint of the program: one of its own two, or one of the project. -/
abbrev ProgramBlueprint := (SetupBlueprint ⊕ FeatureBlueprint) ⊕ ManifestBlueprint

namespace Product

/-- The program. -/
def tools : Product :=
  ⟨"blueprint", "CLI for generating project code from blueprints", programVersion, configPath⟩

/-- The blueprints that come with the program. -/
def builtIns : List ProgramBlueprint :=
  [.inl (.inl SetupBlueprint.start), .inl (.inr FeatureBlueprint.start)]

/-- The registry of given blueprints and those of the project. -/
def discover {β ω : Type} [FileHost ω] [HasDisk ω] [Blueprint β ω] (product : Product)
    (builtIns : List (β ⊕ ManifestBlueprint)) (config : ProjectConfig) (world : ω) :
    Except RegistryError (Registry (β ⊕ ManifestBlueprint)) :=
  match config.directory? with
  | none => .ok (Registry.ofBlueprints world builtIns [])
  | some directory =>
    match ManifestBlueprint.loadAll (HasDisk.disk world) product.version directory with
    | .ok (blueprints, warnings) =>
      .ok ((Registry.ofBlueprints world builtIns (blueprints.map .inr)).warned warnings)
    | .error error => .error error

end Product

end Scaffold
