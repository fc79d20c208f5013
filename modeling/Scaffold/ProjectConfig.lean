import Scaffold.Disk
import Scaffold.Text.Blank
import Scaffold.Yaml.Reading
import Scaffold.Yaml.Writing

/-!
# Project configurations

A project may say in a YAML file where its own blueprints are kept.
-/

namespace Scaffold

/-- The configuration of a project. -/
structure ProjectConfig where
  /-- The directory of the blueprints of the project, relative to the file. -/
  blueprints? : Option Path
  /-- The directory of the file. -/
  base : Path
  deriving Repr, DecidableEq, Inhabited

/-- Why a configuration could not be loaded. -/
inductive ConfigError where
  /-- The file could not be read. -/
  | unreadable (path : Path) (fault : FileFault)
  /-- The file does not hold a configuration. -/
  | malformed (path : Path)
  deriving Repr, DecidableEq

/-- The words for an error; what is wrong with the text of a malformed file is not told. -/
def ConfigError.message : ConfigError → String
  | .unreadable path fault => "failed to read " ++ path.text ++ ": " ++ fault.message
  | .malformed path => "failed to parse " ++ path.text

namespace ProjectConfig

open Yaml

/-- The key of the directory of blueprints. -/
def blueprintsKey : String := "blueprints_dir"

/-- Read the directory of blueprints. -/
def readBlueprints (node : Node) : Reading (Option Path) := do
  let fields ← Reading.fields node
  let directory ← Reading.defaulted (Reading.optional Reading.text) none fields blueprintsKey
  return directory.map Path.mk

/-- The directory of blueprints that a text names; none if the text is no configuration. A blank
text names no directory. -/
def ofYaml? (text : String) : Option (Option Path) :=
  if Text.isAllBlank text then some none else Reading.ofText readBlueprints text

/-- Load a configuration; a missing file says nothing. -/
def load (disk : Disk) (path : Path) : Except ConfigError ProjectConfig :=
  let base := path.parent?.getD ⟨""⟩
  match disk.readText path with
  | .error fault =>
    if fault = .notFound then .ok ⟨none, base⟩ else .error (.unreadable path fault)
  | .ok text =>
    match ofYaml? text with
    | some blueprints? => .ok ⟨blueprints?, base⟩
    | none => .error (.malformed path)

/-- The directory of blueprints, taken from the directory of the file. -/
def directory? (config : ProjectConfig) : Option Path := config.blueprints?.map config.base.join

/-- The text of a configuration that names a directory. -/
def yamlFor (directory : Path) : String := Writing.entry blueprintsKey directory.text

end ProjectConfig

end Scaffold
