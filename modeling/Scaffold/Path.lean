/-!
# Paths

A path is kept as it is spelled and compared by its components: repeated separators, dots after
the start and a separator at the end make no difference. Components are ordered as
root, here, up, names, and names by their characters.
-/

namespace Scaffold

/-- One step of a path. -/
inductive PathComponent where
  /-- The leading separator of an absolute path. -/
  | root
  /-- A leading dot. -/
  | here
  /-- Two dots. -/
  | up
  /-- The name of an entry. -/
  | name (text : String)
  deriving Repr, DecidableEq

/-- The place of the component's kind in the order of components. -/
def PathComponent.rank : PathComponent → Nat
  | .root => 0
  | .here => 1
  | .up => 2
  | .name _ => 3

/-- The order of components: by kind, names by their characters. -/
def PathComponent.compare : PathComponent → PathComponent → Ordering
  | .name left, .name right => Ord.compare left right
  | left, right => Ord.compare left.rank right.rank

/-- A path as it is spelled. -/
structure Path where
  /-- The spelling. -/
  text : String
  deriving Repr, DecidableEq, Inhabited

namespace Path

/-- The pieces between separators; there is always at least one. -/
def pieces : List Char → List (List Char)
  | [] => [[]]
  | char :: rest =>
    if char == '/' then [] :: pieces rest
    else
      match pieces rest with
      | piece :: others => (char :: piece) :: others
      | [] => [[char]]

/-- The component that a piece stands for, if it counts as one after the start of a path. -/
def innerComponent? (piece : List Char) : Option PathComponent :=
  if piece == [] || piece == ['.'] then none
  else if piece == ['.', '.'] then some .up
  else some (.name (String.ofList piece))

/-- The components of a list of characters. -/
def componentsOf (chars : List Char) : List PathComponent :=
  match pieces chars with
  | [] => []
  | first :: others =>
    let inner := others.filterMap innerComponent?
    if first == [] then
      if others.isEmpty then [] else .root :: inner
    else if first == ['.'] then .here :: inner
    else (innerComponent? first).toList ++ inner

/-- The components of a path. -/
def components (path : Path) : List PathComponent := componentsOf path.text.toList

/-- Whether two spellings mean the same path. -/
def same (left right : Path) : Bool := left.components == right.components

/-- Whether the path starts at the root. -/
def isAbsolute (path : Path) : Bool := path.text.toList.head? == some '/'

/-- The lexicographic order of components. -/
def compareComponents : List PathComponent → List PathComponent → Ordering
  | [], [] => .eq
  | [], _ :: _ => .lt
  | _ :: _, [] => .gt
  | left :: lefts, right :: rights => (left.compare right).then (compareComponents lefts rights)

/-- The order of paths. -/
def compare (left right : Path) : Ordering :=
  compareComponents left.components right.components

/-- The second path, taken from the first one unless it is absolute. -/
def join (base path : Path) : Path :=
  let chars := base.text.toList
  if path.isAbsolute || chars.isEmpty then path
  else if chars.getLast? == some '/' then ⟨base.text ++ path.text⟩
  else ⟨base.text ++ "/" ++ path.text⟩

/-- Whether a piece after the start of a path counts as no component. -/
def isIdlePiece (piece : List Char) : Bool := piece == [] || piece == ['.']

/-- The characters of pieces with separators between them. -/
def joinPieces (pieces : List (List Char)) : List Char := List.intercalate ['/'] pieces

/-- The pieces without those at the end that count as no component. -/
def dropIdle (pieces : List (List Char)) : List (List Char) :=
  (pieces.reverse.dropWhile isIdlePiece).reverse

/-- The pieces before the last component; none if there is no component. -/
def beforeLast? (pieces : List (List Char)) : Option (List (List Char)) :=
  match (dropIdle pieces).reverse with
  | [] => none
  | _ :: others => some (dropIdle others.reverse)

/-- The path without its last component, spelled as it stands; the root and the empty path have
none. -/
def parent? (path : Path) : Option Path :=
  match pieces path.text.toList with
  | [] => none
  | [] :: others =>
    if others.isEmpty then none
    else (beforeLast? others).map fun kept => ⟨"/" ++ String.ofList (joinPieces kept)⟩
  | first :: others =>
    if first == ['.'] then
      match beforeLast? others with
      | some kept => some ⟨String.ofList (joinPieces (first :: kept))⟩
      | none => some ⟨""⟩
    else (beforeLast? (first :: others)).map fun kept => ⟨String.ofList (joinPieces kept)⟩

end Path

/-- Entries found by path, in the order of their first insertion and under its spelling. -/
structure PathMap (α : Type) where
  /-- The entries in order. -/
  entries : List (Path × α)
  deriving Repr, DecidableEq

namespace PathMap

variable {α : Type}

/-- No entries. -/
def empty : PathMap α := ⟨[]⟩

instance : Inhabited (PathMap α) := ⟨empty⟩

/-- The entry of a path among entries. -/
def findIn? (path : Path) : List (Path × α) → Option α
  | [] => none
  | (key, value) :: rest => if key.same path then some value else findIn? path rest

/-- The entry of a path. -/
def find? (map : PathMap α) (path : Path) : Option α := findIn? path map.entries

/-- Whether the path has an entry. -/
def contains (map : PathMap α) (path : Path) : Bool := (map.find? path).isSome

/-- Set the entry of a path among entries, keeping the place and spelling of an entry already
there. -/
def insertIn (path : Path) (value : α) : List (Path × α) → List (Path × α)
  | [] => [(path, value)]
  | (key, old) :: rest =>
    if key.same path then (key, value) :: rest else (key, old) :: insertIn path value rest

/-- Set the entry of a path. -/
def insert (map : PathMap α) (path : Path) (value : α) : PathMap α :=
  ⟨insertIn path value map.entries⟩

/-- The entries of a list of pairs; of equal paths the last value counts. -/
def ofList (pairs : List (Path × α)) : PathMap α :=
  pairs.foldl (fun map pair => map.insert pair.1 pair.2) empty

/-- The paths with entries, in order. -/
def keys (map : PathMap α) : List Path := map.entries.map Prod.fst

end PathMap

end Scaffold
