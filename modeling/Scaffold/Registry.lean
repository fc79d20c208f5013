import Scaffold.Blueprint
import Scaffold.Manifest
import Scaffold.Text.Escaped

/-!
# Registries

The blueprints that a run can choose from: those that come with the program, then those of the
project. Each is asked once whether it can be used. A name is registered once; a blueprint whose
name is taken is dropped with a warning.
-/

namespace Scaffold

/-- Where a blueprint comes from. -/
inductive Origin where
  /-- It comes with the program. -/
  | builtIn
  /-- It belongs to the project. -/
  | project
  deriving Repr, DecidableEq

/-- The word for the origin of a blueprint of a project. -/
def Origin.tag? : Origin → Option String
  | .builtIn => none
  | .project => some "local"

/-- A registered blueprint. -/
structure RegistryEntry (β : Type) where
  /-- The blueprint. -/
  blueprint : β
  /-- Where it comes from. -/
  origin : Origin
  /-- Whether it could be used when it was registered. -/
  isActive : Bool
  deriving Repr

/-- What is noted of a blueprint when it is registered. -/
structure BlueprintMetadata where
  /-- Where it comes from. -/
  origin : Origin
  /-- Whether it could be used. -/
  isActive : Bool
  deriving Repr, DecidableEq

/-- What was noted of a registered blueprint. -/
def RegistryEntry.metadata {β : Type} (entry : RegistryEntry β) : BlueprintMetadata :=
  ⟨entry.origin, entry.isActive⟩

/-- The name of a registered blueprint. -/
def RegistryEntry.name {β : Type} [Declared β] (entry : RegistryEntry β) : String :=
  Declared.name entry.blueprint

/-- What a registered blueprint is for, marked if it belongs to the project. -/
def RegistryEntry.about {β : Type} [Declared β] (entry : RegistryEntry β) : String :=
  let description := Declared.description entry.blueprint
  match entry.origin.tag? with
  | some tag => "[" ++ tag ++ "] " ++ description
  | none => description

/-- What is wrong with the manifest of a blueprint. -/
inductive ManifestDefect where
  /-- It cannot be read as a text. -/
  | unreadable
  /-- The text holds no manifest. -/
  | malformed
  /-- The manifest has a fault. -/
  | invalid (fault : ManifestFault)
  deriving Repr, DecidableEq

/-- Why a registry could not be built or has no answer. -/
inductive RegistryError where
  /-- No blueprint has the name. -/
  | unknown (name : String)
  /-- The manifest at the path has a defect. -/
  | badManifest (path : Path) (defect : ManifestDefect)
  /-- What is in a directory could not be looked through because the one at the path in it could not
  be opened. -/
  | scan (directory path : Path) (fault : FileFault)
  deriving Repr, DecidableEq

/-- The words for an error. -/
def RegistryError.message : RegistryError → String
  | .unknown name => "couldn't find blueprint " ++ name
  | .badManifest path defect =>
    let reason :=
      match defect with
      | .unreadable => "it cannot be read"
      | .malformed => "it cannot be parsed"
      | .invalid fault => fault.message
    "loaded blueprint at " ++ path.text ++ " isn't valid: " ++ reason
  | .scan directory path fault =>
    "failed to scan blueprints directory " ++ directory.text ++ ": IO error for operation on " ++
      path.text ++ ": " ++ fault.message

/-- The blueprints that a run can choose from. -/
structure Registry (β : Type) where
  /-- The registered blueprints in order. -/
  entries : List (RegistryEntry β)
  /-- What went wrong without harm. -/
  warnings : List String
  deriving Repr

namespace Registry

variable {β ω : Type}

/-- No blueprints. -/
def empty : Registry β := ⟨[], []⟩

/-- The registered blueprint with a name. -/
def find? [Declared β] (registry : Registry β) (name : String) : Option (RegistryEntry β) :=
  registry.entries.find? (·.name == name)

/-- The registered blueprint with a name, or an error. -/
def get [Declared β] (registry : Registry β) (name : String) :
    Except RegistryError (RegistryEntry β) :=
  match registry.find? name with
  | some entry => .ok entry
  | none => .error (.unknown name)

/-- What was noted of the blueprint with a name, or an error. -/
def metadata [Declared β] (registry : Registry β) (name : String) :
    Except RegistryError BlueprintMetadata := do
  let entry ← registry.get name
  return entry.metadata

/-- The registered blueprint with a name, taken out of its place, or an error. The registry is used
up by that. -/
def take [Declared β] (registry : Registry β) (name : String) :
    Except RegistryError (RegistryEntry β) :=
  match registry.entries.findFinIdx? (·.name == name) with
  | some place => .ok (registry.entries.get place)
  | none => .error (.unknown name)

/-- The warning for a blueprint whose name is taken. -/
def duplicateWarning (name : String) : String := "Ignoring duplicate blueprint '" ++ name ++ "'"

/-- The registry with one blueprint more, unless its name is taken. -/
def add [Blueprint β ω] (world : ω) (origin : Origin) (registry : Registry β) (blueprint : β) :
    Registry β :=
  let name := Declared.name blueprint
  if (registry.find? name).isSome then
    { registry with warnings := registry.warnings ++ [duplicateWarning name] }
  else
    let (isActive, blueprint) := Blueprint.availability world blueprint
    { registry with entries := registry.entries ++ [⟨blueprint, origin, isActive⟩] }

/-- The registry of the blueprints of a program and of a project. -/
def ofBlueprints [Blueprint β ω] (world : ω) (builtIn project : List β) : Registry β :=
  project.foldl (add world .project) (builtIn.foldl (add world .builtIn) empty)

/-- The blueprints that could be used when they were registered. -/
def active (registry : Registry β) : List (RegistryEntry β) :=
  registry.entries.filter (·.isActive)

/-- The registry with warnings in front of its own. -/
def warned (warnings : List String) (registry : Registry β) : Registry β :=
  { registry with warnings := warnings ++ registry.warnings }

/-- A record in one line: its name, and its fields with their values. -/
def inspectRecord (name : String) (fields : List (String × String)) : String :=
  let written := fields.map fun field => field.1 ++ ": " ++ field.2
  name ++ " \x7b " ++ ", ".intercalate written ++ " \x7d"

/-- A list in one line. -/
def inspectList (values : List String) : String := "[" ++ ", ".intercalate values ++ "]"

/-- A registered blueprint in one line. -/
def inspectEntry [Declared β] (entry : RegistryEntry β) : String :=
  let origin := match entry.origin with
    | .builtIn => "None"
    | .project => "Some(Local)"
  let metadata := inspectRecord "BlueprintMetadata"
    [("tag", origin), ("is_active", if entry.isActive then "true" else "false")]
  inspectRecord "DiscoveredBlueprint"
    [("name", Text.escaped entry.name), ("metadata", metadata)]

/-- The registry in one line, for diagnostics. -/
def inspect [Declared β] (registry : Registry β) : String :=
  inspectRecord "Discovery"
    [("entries", inspectList (registry.entries.map inspectEntry)),
      ("warnings", inspectList (registry.warnings.map Text.escaped))]

end Registry

end Scaffold
