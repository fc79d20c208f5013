import Scaffold.Blueprint.Error
import Scaffold.Change
import Scaffold.Host
import Scaffold.Parameter

/-!
# Blueprints

A blueprint is a named generator of changes. It declares its parameters, tells whether it can be
used, prepares itself for the options given, generates changes and has a last word after they
were applied. A blueprint may remember what it was told, so its steps work on itself and on the
world together.
-/

namespace Scaffold

/-- What a blueprint says about itself. -/
class Declared (β : Type) where
  /-- The name, unique in a registry. -/
  name : β → String
  /-- What the blueprint is for. -/
  description : β → String
  /-- The inputs it takes. -/
  parameters : β → List Parameter

/-- The steps of a blueprint in a world. -/
class Blueprint (β : Type) (ω : Type) extends Declared β where
  /-- Whether the blueprint can be used in the world as it is. -/
  availability : ω → β → Bool × β
  /-- Check and take over the options. -/
  prepare : Options → Task BlueprintError (β × ω) Unit
  /-- Compute the changes. -/
  generate : Task BlueprintError (β × ω) (List Change)
  /-- Act after all changes were applied. -/
  postApply : Task BlueprintError (β × ω) Unit

/-- The change that creates a file; refused when there is something at the path. -/
def createFile {ω : Type} [FileHost ω] (host : ω) (path : Path) (content : String) :
    Except BlueprintError Change :=
  if FileHost.has path host then
    .error (.user ("Expected file " ++ path.text ++ " to not exist"))
  else .ok (Change.insert path 0 content)

end Scaffold
