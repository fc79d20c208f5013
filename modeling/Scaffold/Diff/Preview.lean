import Scaffold.Diff.Display
import Scaffold.Change.Apply
import Scaffold.Change.Cluster
import Scaffold.Host.Layered

/-!
# Previews

What the changes of a plan make of a file, found out on a layer over the host.
-/

namespace Scaffold

variable {ω : Type} [FileHost ω]

/-- Read a file, apply changes and read it again. -/
def Change.trial (path : Path) (changes : List Change) : Task ChangeError ω FileDiff := do
  let before ← FileHost.read path
  Change.applyAll changes
  let after ← FileHost.read path
  return ⟨path, before, after⟩

namespace FileDiff

/-- The content of a file before and after its changes in the plan. -/
def preview (cluster : ChangeCluster) (path : Path) : Task ChangeError ω FileDiff := fun host =>
  match Change.trial path ((cluster.changesFor? path).getD []) (Layered.shadow host) with
  | .ok diff layers => .ok diff layers.host
  | .error error layers => .error error layers.host

/-- The previews of files in order, up to the first failure. -/
def previewEach (cluster : ChangeCluster) : List Path → Task ChangeError ω (List FileDiff)
  | [] => pure []
  | path :: rest => do
    let diff ← preview cluster path
    let diffs ← previewEach cluster rest
    return diff :: diffs

/-- The previews of all files of the plan. -/
def previewAll (cluster : ChangeCluster) : Task ChangeError ω (List FileDiff) :=
  previewEach cluster cluster.files

end FileDiff

end Scaffold
