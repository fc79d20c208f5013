import Scaffold.Disk
import Scaffold.Name
import Scaffold.Parameter
import Scaffold.Text.Blank
import Scaffold.Yaml.Reading

/-!
# Manifests

A manifest declares a blueprint in YAML: its parameters, what it requires of the project, the
files it makes from templates, and the commands run afterwards.
-/

namespace Scaffold

/-- A file made from a template. -/
structure ManifestFile where
  /-- The path of the template in the directory of the manifest. -/
  template : String
  /-- The path of the file, before tokens are replaced; that of the template if none is given. -/
  destination? : Option String
  deriving Repr, DecidableEq

/-- The path of the file, before tokens are replaced. -/
def ManifestFile.destination (file : ManifestFile) : String := file.destination?.getD file.template

/-- A blueprint declared in YAML. -/
structure Manifest where
  /-- The name, which is also the command. -/
  name : String
  /-- What the blueprint is for. -/
  description : String
  /-- The version of the program for which it was written. -/
  version? : Option String
  /-- The inputs. -/
  parameters : List Parameter
  /-- What has to exist in the project. -/
  requires : List String
  /-- The files it makes. -/
  files : List ManifestFile
  /-- The commands run after the files were made. -/
  commands : List String
  deriving Repr, DecidableEq

namespace Manifest

open Yaml

/-- The name of a manifest in its directory. -/
def fileName : String := "blueprint.yaml"

/-- How deep values of open kind may be nested in a parameter. -/
def openDepth : Nat := 125

/-- The keys of a parameter that have a kind of their own. -/
def parameterKeys : List String := ["name", "description", "require", "ask", "default"]

/-- A default, which is a yes or no or a text. -/
def readDefault (node : Node) : Reading OptionValue := do
  match ← Reading.openValue openDepth node with
  | .flag value => return .flag value
  | .text value => return .text value
  | _ => failure

/-- The text of an open value that is one. -/
def openText : Reading.OpenValue → Reading String
  | .text value => return value
  | _ => failure

/-- The word for a kind of parameter; the place of the word may stand for it. -/
def readLabel : Reading.OpenValue → Reading String
  | .text value => return value
  | .natural place =>
    match ParameterKind.labels[place]? with
    | some label => return label
    | none => failure
  | _ => failure

/-- The choices of a parameter, which count only for kinds that have some. -/
def readChoices (values : List Reading.OpenValue) : Reading (List String) := do
  match values with
  | [] => return []
  | [.list items] => items.mapM openText
  | _ => failure

/-- The kind of a parameter, among the keys that have no kind of their own. -/
def readKind (fields : Reading.Fields) : Reading ParameterKind := do
  let others := fields.filter fun field => !parameterKeys.contains field.1
  let values ← others.mapM fun field => do
    return (field.1, ← Reading.openValue openDepth field.2)
  let named (name : String) := (values.filter (·.1 == name)).map (·.2)
  match named "type" with
  | [value] =>
    match ParameterKind.ofLabel? (← readLabel value) [] with
    | some (.choice _) => return .choice (← readChoices (named "choices"))
    | some kind => return kind
    | none => failure
  | _ => failure

/-- A parameter. -/
def readParameter (node : Node) : Reading Parameter := do
  let fields ← Reading.fields node
  return {
    name := ← Reading.required Reading.text fields "name"
    kind := ← readKind fields
    description := ← Reading.defaulted Reading.text "" fields "description"
    require := ← Reading.defaulted Reading.flag false fields "require"
    ask := ← Reading.defaulted Reading.flag false fields "ask"
    default? := ← Reading.defaulted (Reading.optional readDefault) none fields "default" }

/-- A file. -/
def readFile (node : Node) : Reading ManifestFile := do
  let fields ← Reading.fields node
  return {
    template := ← Reading.required Reading.text fields "template"
    destination? := ← Reading.defaulted (Reading.optional Reading.text) none fields "dest" }

/-- A list of texts, empty if it is missing. -/
def readTexts (fields : Reading.Fields) (name : String) : Reading (List String) :=
  Reading.defaulted (Reading.list Reading.text) [] fields name

/-- A manifest. -/
def read (node : Node) : Reading Manifest := do
  let fields ← Reading.fields node
  return {
    name := ← Reading.required Reading.text fields "name"
    description := ← Reading.required Reading.text fields "description"
    version? := ← Reading.defaulted (Reading.optional Reading.text) none fields "version"
    parameters := ← Reading.defaulted (Reading.list readParameter) [] fields "parameters"
    requires := ← readTexts fields "requires"
    files := ← Reading.required (Reading.list readFile) fields "files"
    commands := ← readTexts fields "post_apply" }

/-- The manifest that a text holds, if it holds one. -/
def ofYaml? (text : String) : Option Manifest := Reading.ofText read text

end Manifest

/-- What can be wrong with a manifest. -/
inductive ManifestFault where
  | emptyName
  | blankInName (name : String)
  | invalidName (name : String)
  | reservedName (name : String)
  | noFiles
  | invalidParameter (name : String)
  | reservedParameter (name : String)
  | repeatedParameter (name : String)
  | noChoices (name : String)
  | missingTemplate (template : String)
  deriving Repr, DecidableEq

/-- The words for a fault. -/
def ManifestFault.message : ManifestFault → String
  | .emptyName => "name must not be empty"
  | .blankInName name => "name '" ++ name ++ "' must not contain whitespace"
  | .invalidName name => "name '" ++ name ++ "' is not a valid command name"
  | .reservedName name => "name '" ++ name ++ "' is reserved"
  | .noFiles => "at least one file must be listed"
  | .invalidParameter name => "parameter name '" ++ name ++ "' is not a valid flag"
  | .reservedParameter name => "parameter name '" ++ name ++ "' is reserved"
  | .repeatedParameter name => "parameter '" ++ name ++ "' is declared twice"
  | .noChoices name => "enum parameter '" ++ name ++ "' has no choices"
  | .missingTemplate template => "template file '" ++ template ++ "' not found"

namespace Manifest

/-- What is wrong with a name, if anything. -/
def nameFault? (name : String) : Option ManifestFault :=
  if Text.isAllBlank name then some .emptyName
  else if name.toList.any Text.isBlank then some (.blankInName name)
  else if !Name.isValid name then some (.invalidName name)
  else if Name.reservedCommands.contains name then some (.reservedName name)
  else none

/-- What is wrong with a parameter declared behind those with the names `seen`, if anything. -/
def parameterFault? (seen : List String) (parameter : Parameter) : Option ManifestFault :=
  let name := parameter.name
  if !Name.isValid name then some (.invalidParameter name)
  else if Name.reservedFlags.contains name then some (.reservedParameter name)
  else if seen.contains name then some (.repeatedParameter name)
  else if parameter.kind == .choice [] then some (.noChoices name)
  else none

/-- What is wrong with the first parameter that something is wrong with. -/
def parametersFault? (seen : List String) : List Parameter → Option ManifestFault
  | [] => none
  | parameter :: rest =>
    match parameterFault? seen parameter with
    | some fault => some fault
    | none => parametersFault? (parameter.name :: seen) rest

/-- What is wrong with the templates: the first one that is no file. -/
def templatesFault? (disk : Disk) (directory : Path) (files : List ManifestFile) :
    Option ManifestFault :=
  (files.find? fun file => !disk.isFile (directory.join ⟨file.template⟩)).map
    fun file => .missingTemplate file.template

/-- What is wrong with a manifest in a directory, if anything: the first fault counts. -/
def fault? (disk : Disk) (directory : Path) (manifest : Manifest) : Option ManifestFault :=
  (nameFault? manifest.name).or <|
    (if manifest.files.isEmpty then some .noFiles else none).or <|
      (parametersFault? [] manifest.parameters).or <|
        templatesFault? disk directory manifest.files

end Manifest

end Scaffold
