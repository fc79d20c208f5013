import Scaffold.Change
import Scaffold.Host
import Scaffold.Text.Bytes

/-!
# Applying changes

A change is applied leaf by leaf. A leaf reads the content of its file, checks its range against
it and writes the content with the range replaced. A bundle is refused as a whole when one of its
leaves names another file.
-/

namespace Scaffold

/-- Check that a position can be cut in the content. -/
def checkOffset (path : Path) (content : String) (offset : Nat) : Except ChangeError Unit :=
  let length := Text.byteLength content.toList
  if length < offset then .error (.outOfBounds path offset length)
  else
    match Text.cutAt? content.toList offset with
    | some _ => .ok ()
    | none => .error (.notBoundary path offset)

/-- Check that a range can be replaced in the content. -/
def checkRange (path : Path) (content : String) (start stop : Nat) : Except ChangeError Unit :=
  if stop < start then .error (.invalidRange path start stop)
  else
    match checkOffset path content start with
    | .ok _ => checkOffset path content stop
    | .error error => .error error

/-- The content after the edit. -/
def Edit.revise (edit : Edit) (path : Path) (content : String) : Except ChangeError String :=
  let start := edit.start.toNat
  let stop := edit.stop.toNat
  match checkRange path content start stop with
  | .ok _ => .ok ((Text.splice? content start stop edit.text).getD content)
  | .error error => .error error

variable {ω : Type} [FileHost ω]

/-- Apply an edit to its file. -/
def Edit.apply (edit : Edit) (path : Path) : Task ChangeError ω Unit := fun host =>
  match FileHost.read path host with
  | .error error host => .error error host
  | .ok content host =>
    match edit.revise path content with
    | .error error => .error error host
    | .ok content => FileHost.write path content host

/-- Apply a leaf; a placeholder does nothing. -/
def Leaf.apply (leaf : Leaf) : Task ChangeError ω Unit :=
  match leaf.edit?, leaf.path? with
  | none, _ => pure ()
  | some _, none => throw .missingPath
  | some edit, some path => edit.apply path

/-- Apply leaves one after the other up to the first failure. -/
def Leaf.applyAll : List Leaf → Task ChangeError ω Unit
  | [] => pure ()
  | leaf :: rest => do
    leaf.apply
    Leaf.applyAll rest

/-- The first path of the leaves that is not the given one. -/
def Leaf.firstForeign? (path : Path) (leaves : List Leaf) : Option Path :=
  leaves.findSome? fun leaf =>
    match leaf.path? with
    | some other => if other.same path then none else some other
    | none => none

/-- The path that makes a change refuse to be applied: in a bundle, the first one of its leaves
that differs from its own. -/
def Change.foreign? : Change → Option (Path × Path)
  | .bundle path order parts =>
    (Leaf.firstForeign? path (Change.bundle path order parts).leaves).map (path, ·)
  | _ => none

/-- Apply a change. -/
def Change.apply (change : Change) : Task ChangeError ω Unit :=
  match change.foreign? with
  | some (owner, child) => throw (.foreignPath owner child)
  | none => Leaf.applyAll change.leaves

/-- Apply changes one after the other up to the first failure. -/
def Change.applyAll : List Change → Task ChangeError ω Unit
  | [] => pure ()
  | change :: rest => do
    change.apply
    Change.applyAll rest

end Scaffold
