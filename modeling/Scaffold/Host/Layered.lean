import Scaffold.Host

/-!
# Layers over a host

A layer shows the host under it and keeps whatever is written through it to itself. A file read
through a layer stays as it was at that moment, also if it was absent; asking whether a file is
there fixes nothing. Layers may lie on layers.
-/

namespace Scaffold

/-- What a layer holds of its own: the content of a path, or that it is absent. -/
abbrev Overlay := PathMap (Option String)

/-- A host under any number of layers. -/
inductive Layered (ω : Type) where
  /-- The host itself. -/
  | ground (host : ω)
  /-- A layer over what lies under it. -/
  | covered (base : Layered ω) (overlay : Overlay)
  deriving Repr

namespace Layered

variable {ω : Type}

/-- A fresh layer over a host. -/
def shadow (host : ω) : Layered ω := .covered (.ground host) PathMap.empty

/-- The host under the layers. -/
def host : Layered ω → ω
  | ground host => host
  | covered base _ => base.host

/-- The number of layers. -/
def height : Layered ω → Nat
  | ground _ => 0
  | covered base _ => base.height + 1

/-- Whether there is something at the path, seen through the layers. -/
def has [FileHost ω] (path : Path) : Layered ω → Bool
  | ground host => FileHost.has path host
  | covered base overlay =>
    match overlay.find? path with
    | some content => content.isSome
    | none => base.has path

/-- Read through the layers; each layer that had not held the path takes what it saw. -/
def read [FileHost ω] (path : Path) : Layered ω → EStateM.Result ChangeError (Layered ω) String
  | ground host =>
    match FileHost.read path host with
    | .ok content host => .ok content (.ground host)
    | .error error host => .error error (.ground host)
  | covered base overlay =>
    match overlay.find? path with
    | some content => .ok (content.getD "") (.covered base overlay)
    | none =>
      if base.has path then
        match base.read path with
        | .ok content base => .ok content (.covered base (overlay.insert path (some content)))
        | .error error base => .error error (.covered base overlay)
      else .ok "" (.covered base (overlay.insert path none))

/-- Write to the highest layer, or to the host if there is none. -/
def write [FileHost ω] (path : Path) (content : String) :
    Layered ω → EStateM.Result ChangeError (Layered ω) Unit
  | ground host =>
    match FileHost.write path content host with
    | .ok _ host => .ok () (.ground host)
    | .error error host => .error error (.ground host)
  | covered base overlay => .ok () (.covered base (overlay.insert path (some content)))

/-- Create the file in the highest layer unless there is something at the path. -/
def ensureFile [FileHost ω] (path : Path) :
    Layered ω → EStateM.Result ChangeError (Layered ω) Unit
  | ground host =>
    match FileHost.ensureFile path host with
    | .ok _ host => .ok () (.ground host)
    | .error error host => .error error (.ground host)
  | covered base overlay =>
    if (Layered.covered base overlay).has path then .ok () (.covered base overlay)
    else .ok () (.covered base (overlay.insert path (some "")))

instance [FileHost ω] : FileHost (Layered ω) where
  read := Layered.read
  write := Layered.write
  has := Layered.has
  ensureFile := Layered.ensureFile

/-- The paths that the highest layer holds with content, in the order of paths. -/
def shadowed : Layered ω → List Path
  | ground _ => []
  | covered _ overlay =>
    let held := overlay.entries.filter (·.2.isSome)
    (held.map Prod.fst).mergeSort (fun left right => (left.compare right).isLE)

/-- Run a task on the state as seen at a height, leaving the layers above as they are. -/
def atHeight {ε α : Type} (level : Nat) (task : Task ε (Layered ω) α) :
    Layered ω → EStateM.Result ε (Layered ω) α
  | ground host => task (.ground host)
  | covered base overlay =>
    if level ≤ base.height then
      match atHeight level task base with
      | .ok value base => .ok value (.covered base overlay)
      | .error error base => .error error (.covered base overlay)
    else task (.covered base overlay)

end Layered

end Scaffold
