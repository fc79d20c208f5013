import Scaffold.Blueprint
import Scaffold.Host.Workspace
import Scaffold.Template
import Scaffold.Text.Blank
import Scaffold.Text.Bytes
import Scaffold.Text.Lines
import Scaffold.Text.Words

/-!
# Features

A feature is a directory of five source files under the features of a project. The module of all
features declares it and takes over its entry point: each line goes behind the last line of its
kind.
-/

namespace Scaffold

/-- The blueprint of a feature. -/
structure FeatureBlueprint where
  /-- The tokens of the feature asked for last. -/
  replacements : Replacements
  /-- The name of the feature asked for last, which is that of its directory. -/
  feature : String
  deriving Repr, DecidableEq, Inhabited

namespace FeatureBlueprint

/-- The blueprint before any feature was asked for. -/
def start : FeatureBlueprint := ⟨Replacements.empty, ""⟩

/-- A text of lines. -/
def fromLines (lines : List String) : String := String.join (lines.map (· ++ "\n"))

/-- The token of the type of a feature. -/
def typeToken : String := "__feature_type__"

/-- The token of the name of a feature. -/
def nameToken : String := "__feature_name__"

/-- The file that joins the other files. -/
def moduleTemplate : String := fromLines
  ["//! __feature_type__ feature", "", "mod handlers;", "mod model;", "mod service;", "",
    "#[cfg(test)]", "mod tests;", "", "pub use handlers::register;",
    "pub use model::__feature_type__;", "pub use service::__feature_type__Service;", "",
    "/// Entry point registered with the application", "pub struct __feature_type__Feature;", "",
    "impl __feature_type__Feature \x7b",
    "    pub const NAME: &'static str = \"__feature_name__\";", "\x7d"]

/-- The file of the data. -/
def modelTemplate : String := fromLines
  ["use serde::\x7bDeserialize, Serialize\x7d;", "",
    "#[derive(Debug, Clone, PartialEq, Serialize, Deserialize)]",
    "pub struct __feature_type__ \x7b", "    pub id: u64,", "\x7d"]

/-- The file of the service. -/
def serviceTemplate : String := fromLines
  ["use super::model::__feature_type__;", "", "#[derive(Debug, Default)]",
    "pub struct __feature_type__Service \x7b", "    items: Vec<__feature_type__>,", "\x7d", "",
    "impl __feature_type__Service \x7b", "    pub fn new() -> Self \x7b",
    "        Self::default()", "    \x7d", "",
    "    pub fn add(&mut self, item: __feature_type__) \x7b", "        self.items.push(item);",
    "    \x7d", "", "    pub fn all(&self) -> &[__feature_type__] \x7b", "        &self.items",
    "    \x7d", "\x7d"]

/-- The file of the handlers. -/
def handlersTemplate : String := fromLines
  ["use super::service::__feature_type__Service;", "",
    "/// Register the __feature_name__ handlers",
    "pub fn register() -> __feature_type__Service \x7b", "    __feature_type__Service::new()",
    "\x7d"]

/-- The file of the tests. -/
def testsTemplate : String := fromLines
  ["use super::*;", "", "#[test]", "fn test___feature_name___service_starts_empty() \x7b",
    "    let service = __feature_type__Service::new();",
    "    assert!(service.all().is_empty());", "\x7d", "", "#[test]",
    "fn test___feature_name___service_add() \x7b", "    let mut service = register();",
    "    service.add(__feature_type__ \x7b id: 1 \x7d);",
    "    assert_eq!(service.all().len(), 1);", "\x7d"]

/-- The names of the files with their templates. -/
def templates : List (String × String) :=
  [("mod.rs", moduleTemplate), ("model.rs", modelTemplate), ("service.rs", serviceTemplate),
    ("handlers.rs", handlersTemplate), ("tests.rs", testsTemplate)]

/-- The directory of all features. -/
def featuresDirectory : Path := ⟨"src/features"⟩

/-- The module of all features. -/
def featuresModule : Path := ⟨"src/features/mod.rs"⟩

/-- The directory of the feature. -/
def directory (blueprint : FeatureBlueprint) : Path := featuresDirectory.join ⟨blueprint.feature⟩

/-- The position behind the last line that starts with an opening, blank characters in front not
counted. `offset` is the position of the first of the lines. -/
def behindLastIn? (opening : List Char) (offset : Nat) : List (List Char) → Option Nat
  | [] => none
  | line :: rest =>
    let offset := offset + Text.byteLength line
    (behindLastIn? opening offset rest).or
      (if opening.isPrefixOf (Text.dropBlank line) then some offset else none)

/-- The position behind the last line of a text that starts with an opening. -/
def behindLast? (opening text : String) : Option Nat :=
  behindLastIn? opening.toList 0 (Text.feedLines text.toList)

/-- What has to stand in front of a line put in at a position: a line feed where the text ends
without one. -/
def separator (text : String) (position : Nat) : String :=
  if position == Text.byteLength text.toList && !text.isEmpty &&
      text.toList.getLast? != some '\n' then "\n"
  else ""

/-- The insertion of a line into the module of all features. -/
def insertLine (text : String) (position : Nat) (line : String) : Change :=
  .insert featuresModule position.toUInt64 (separator text position ++ line ++ "\n")

/-- The line that declares a feature. -/
def declaration (feature : String) : String := "pub mod " ++ feature ++ ";"

/-- The line that takes over the entry point of a feature. -/
def takeover (feature typeName : String) : String :=
  "pub use " ++ feature ++ "::" ++ typeName ++ "Feature;"

/-- The change that registers the feature in the module of all features, whose text is given. Of
two insertions at one position the later one ends up in front, so the declaration comes last. -/
def register (blueprint : FeatureBlueprint) (text : String) : Change :=
  let typeName := (blueprint.replacements.get? typeToken).getD ""
  let declared := (behindLast? "pub mod " text).getD 0
  let taken := (behindLast? "pub use " text).getD declared
  let insertions :=
    [insertLine text taken (takeover blueprint.feature typeName),
      insertLine text declared (declaration blueprint.feature)]
  .multi featuresModule
    (insertions.mergeSort fun left right => decide (right.order ≤ left.order))

/-- The name of a feature as its directory and modules spell it. -/
def featureName (options : Options) : String :=
  (((options.find? "name").bind OptionValue.text?).map Text.snakeCase).getD ""

/-- Whether a name cannot be that of a feature. -/
def isUnusable (name : String) : Bool := name.isEmpty || name.toList.head?.any Text.isNumeric

/-- The blueprint for a feature. -/
def forFeature (name : String) : FeatureBlueprint :=
  ⟨(Replacements.empty.insert typeToken (Text.pascalCase name)).insert nameToken name, name⟩

/-- The changes that create the files of the feature. -/
def newFiles {ω : Type} [FileHost ω] (blueprint : FeatureBlueprint) (world : ω) :
    Except BlueprintError (List Change) :=
  templates.mapM fun (name, template) =>
    createFile world (blueprint.directory.join ⟨name⟩) (blueprint.replacements.render template)

instance : Declared FeatureBlueprint where
  name _ := "feature"
  description _ := "Generate new feature"
  parameters _ := [⟨"name", .text, "Name of created feature", true, true, none⟩]

instance {ω : Type} [FileHost ω] [HasDisk ω] : Blueprint FeatureBlueprint ω where
  availability world blueprint := ((HasDisk.disk world).has ⟨"src"⟩, blueprint)
  prepare options := fun (blueprint, world) =>
    let name := featureName options
    if isUnusable name then .error (.validation "--name must be specified") (blueprint, world)
    else
      let blueprint := forFeature name
      if FileHost.has blueprint.directory world then
        .error (.validation "This feature already exists") (blueprint, world)
      else .ok () (blueprint, world)
  generate := fun (blueprint, world) =>
    match blueprint.newFiles world with
    | .error error => .error error (blueprint, world)
    | .ok changes =>
      match FileHost.read featuresModule world with
      | .error error world => .error (.change error) (blueprint, world)
      | .ok text world => .ok (changes ++ [blueprint.register text]) (blueprint, world)
  postApply := pure ()

end FeatureBlueprint

end Scaffold
