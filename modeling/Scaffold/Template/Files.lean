import Scaffold.Blueprint
import Scaffold.Host.Workspace
import Scaffold.Template

/-!
# Files from templates

New files whose contents are templates stored in a directory. Tokens are replaced in the contents
and in the paths of the files.
-/

namespace Scaffold

/-- A template and the path of the file made from it. -/
structure TemplateUse where
  /-- The path of the template in its directory. -/
  template : String
  /-- The path of the new file, before tokens are replaced. -/
  destination : String
  deriving Repr, DecidableEq

namespace TemplateUse

variable {ω : Type} [FileHost ω] [HasDisk ω]

/-- The change that creates the file. -/
def change (world : ω) (directory : Path) (replacements : Replacements) (usage : TemplateUse) :
    Except BlueprintError Change :=
  let source := directory.join ⟨usage.template⟩
  match (HasDisk.disk world).readText source with
  | .error _ => .error (.other ("Failed to load template " ++ source.text))
  | .ok template =>
    createFile world ⟨replacements.render usage.destination⟩ (replacements.render template)

/-- The changes that create all files, up to the first failure. -/
def changes (world : ω) (directory : Path) (replacements : Replacements)
    (usages : List TemplateUse) : Except BlueprintError (List Change) :=
  usages.mapM (change world directory replacements)

end TemplateUse

end Scaffold
