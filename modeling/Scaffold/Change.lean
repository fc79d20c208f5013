import Scaffold.Path

/-!
# Changes

A change is an edit of one file, a bundle of changes that counts as one, or a placeholder without
effect. Positions count bytes in 64 bits. Every change has an order, a signed number by which the
changes of a plan are sorted; an edit takes it from the bits of its position, a bundle from the
highest order in it.
-/

namespace Scaffold

/-- What an edit does to the content of its file. -/
inductive Edit where
  /-- Put the text in at the offset. -/
  | insert (offset : UInt64) (text : String)
  /-- Delete the bytes from `start` to `stop`. -/
  | remove (start stop : UInt64)
  /-- Put the text in the place of the bytes from `start` to `stop`. -/
  | replace (start stop : UInt64) (text : String)
  deriving Repr, DecidableEq

namespace Edit

/-- The word for the kind of edit. -/
def label : Edit → String
  | insert _ _ => "insert"
  | remove _ _ => "remove"
  | replace _ _ _ => "replace"

/-- The position at which the edit starts. -/
def start : Edit → UInt64
  | insert offset _ => offset
  | remove start _ => start
  | replace start _ _ => start

/-- The position behind the last byte that the edit deletes. -/
def stop : Edit → UInt64
  | insert offset _ => offset
  | remove _ stop => stop
  | replace _ stop _ => stop

/-- The text that the edit puts in. -/
def text : Edit → String
  | insert _ text => text
  | remove _ _ => ""
  | replace _ _ text => text

end Edit

/-- A change of a plan. -/
inductive Change where
  /-- An edit of the file at the path. -/
  | edit (path : Path) (order : Int64) (action : Edit)
  /-- Changes that are applied one after the other in the place of one. -/
  | bundle (path : Path) (order : Int64) (parts : List Change)
  /-- A placeholder, which may name a file. -/
  | noop (path : Option Path) (order : Int64)
  deriving Repr, Inhabited

namespace Change

/-- The file that a change names. -/
def path? : Change → Option Path
  | edit path _ _ => some path
  | bundle path _ _ => some path
  | noop path _ => path

/-- The order of a change. -/
def order : Change → Int64
  | edit _ order _ => order
  | bundle _ order _ => order
  | noop _ order => order

/-- The word for the kind of change. -/
def label : Change → String
  | edit _ _ action => action.label
  | bundle _ _ _ => "multi"
  | noop _ _ => "noop"

/-- The edit of a file, ordered by its start. -/
def ofEdit (path : Path) (action : Edit) : Change :=
  .edit path action.start.toInt64 action

/-- Put a text into a file. -/
def insert (path : Path) (offset : UInt64) (text : String) : Change :=
  ofEdit path (.insert offset text)

/-- Delete bytes of a file. -/
def remove (path : Path) (start stop : UInt64) : Change := ofEdit path (.remove start stop)

/-- Put a text in the place of bytes of a file. -/
def replace (path : Path) (start stop : UInt64) (text : String) : Change :=
  ofEdit path (.replace start stop text)

/-- The highest order of the changes, and zero of none. -/
def highestOrder : List Change → Int64
  | [] => 0
  | [change] => change.order
  | change :: rest =>
    let highest := highestOrder rest
    if change.order ≤ highest then highest else change.order

/-- Changes of one file that count as one, ordered by the highest order in it. -/
def multi (path : Path) (parts : List Change) : Change := .bundle path (highestOrder parts) parts

/-- The order of a new placeholder, the greatest there is. -/
def placeholderOrder : Int64 := Int64.maxValue

/-- A placeholder, which sorts before everything else. -/
def placeholder (path : Option Path) : Change := .noop path placeholderOrder

/-- The change with another order. -/
def withOrder (order : Int64) : Change → Change
  | edit path _ action => .edit path order action
  | bundle path _ parts => .bundle path order parts
  | noop path _ => .noop path order

end Change

/-- A change without parts. -/
structure Leaf where
  /-- The file it names. -/
  path? : Option Path
  /-- Its order. -/
  order : Int64
  /-- The edit; none for a placeholder. -/
  edit? : Option Edit
  deriving Repr, DecidableEq

/-- The word for the kind of leaf. -/
def Leaf.label (leaf : Leaf) : String :=
  match leaf.edit? with
  | some edit => edit.label
  | none => "noop"

mutual

/-- The leaves of a change, bundles flattened in the order in which they are applied. -/
def Change.leaves : Change → List Leaf
  | .edit path order action => [⟨some path, order, some action⟩]
  | .noop path order => [⟨path, order, none⟩]
  | .bundle _ _ parts => Change.leavesOfAll parts

/-- The leaves of changes one after the other. -/
def Change.leavesOfAll : List Change → List Leaf
  | [] => []
  | change :: rest => change.leaves ++ Change.leavesOfAll rest

end

end Scaffold
