/-!
# The middle snake

The point at which the shortest edit script between two lists of lines is cut in two. Paths of
growing distance are followed from both ends along diagonals. A diagonal is the difference of the
positions in the two lists, and a snake is a run of equal lines along one. The search ends as soon
as a path from one end meets one from the other.
-/

namespace Scaffold.Diff

/-- The farthest position reached on each diagonal, zero where none was reached. -/
structure Frontier where
  /-- The positions; diagonal zero is at index `bound`. -/
  values : Array Nat
  /-- The greatest distance of a diagonal from zero. -/
  bound : Nat

namespace Frontier

/-- A frontier at the start. -/
def start (bound : Nat) : Frontier := ⟨Array.replicate (2 * bound + 1) 0, bound⟩

/-- The position on a diagonal. -/
def position (frontier : Frontier) (diagonal : Int) : Nat :=
  frontier.values.getD (diagonal + frontier.bound).toNat 0

/-- The frontier with another position on a diagonal. -/
def advance (frontier : Frontier) (diagonal : Int) (position : Nat) : Frontier :=
  { frontier with
    values := frontier.values.setIfInBounds (diagonal + frontier.bound).toNat position }

/-- The position on a diagonal that one more edit reaches from the neighbours. -/
def step (frontier : Frontier) (distance diagonal : Int) : Nat :=
  let left := frontier.position (diagonal - 1)
  let right := frontier.position (diagonal + 1)
  if diagonal == -distance || (diagonal != distance && decide (left < right)) then right
  else left + 1

end Frontier

/-- The length of the run of equal lines from two positions on, counted onto `length`. -/
def snakeFrom (old new : Array String) (x y length : Nat) : Nat :=
  if inOld : x < old.size then
    if inNew : y < new.size then
      if old[x] == new[y] then snakeFrom old new (x + 1) (y + 1) (length + 1) else length
    else length
  else length
termination_by old.size - x

/-- A snake between two points; the first coordinate counts old lines, the second new ones. -/
structure Snake where
  /-- Old lines before the snake. -/
  startOld : Nat
  /-- New lines before the snake. -/
  startNew : Nat
  /-- Old lines up to the end of the snake. -/
  endOld : Nat
  /-- New lines up to the end of the snake. -/
  endNew : Nat
  deriving Repr

/-- What a sweep over the diagonals finds. -/
structure Sweep where
  /-- The frontier after the sweep. -/
  frontier : Frontier
  /-- The snake that met the other side, if one did. -/
  met? : Option Snake

/-- Follow the paths of one distance on the given diagonals. Where `watch` is set, a path meets
the other side when the two positions on a diagonal at most `window` from the centre cover all
old lines. -/
def sweep (old new : Array String) (distance : Int) (other : Frontier) (watch : Bool)
    (window : Int) : List Int → Frontier → Sweep
  | [], frontier => ⟨frontier, none⟩
  | diagonal :: rest, frontier =>
    let x := frontier.step distance diagonal
    let y := ((x : Int) - diagonal).toNat
    let length := snakeFrom old new x y 0
    let frontier := frontier.advance diagonal (x + length)
    let centre : Int := (old.size : Int) - new.size
    let opposite := -(diagonal - centre)
    if watch && decide ((opposite.natAbs : Int) ≤ window) &&
        decide (old.size ≤ x + length + other.position opposite) then
      ⟨frontier, some ⟨x, y, x + length, y + length⟩⟩
    else sweep old new distance other watch window rest frontier

/-- The diagonals that paths of a distance can end on, from the highest to the lowest. -/
def diagonals (distance : Nat) : List Int :=
  (List.range (distance + 1)).map fun (index : Nat) => (distance : Int) - 2 * (index : Int)

/-- Search with growing distance, at most `fuel` times more. The backward search runs forward on
the reversed lists. -/
def searchFrom (old new oldBack newBack : Array String) (forward backward : Frontier)
    (distance : Nat) : Nat → Option (Nat × Nat)
  | 0 => none
  | fuel + 1 =>
    let odd := ((old.size : Int) - new.size) % 2 != 0
    let ahead := sweep old new distance backward odd ((distance : Int) - 1) (diagonals distance)
      forward
    match ahead.met? with
    | some snake => some (snake.startOld, snake.startNew)
    | none =>
      let behind := sweep oldBack newBack distance ahead.frontier (!odd) distance
        (diagonals distance) backward
      match behind.met? with
      | some snake => some (old.size - snake.endOld, new.size - snake.endNew)
      | none =>
        searchFrom old new oldBack newBack ahead.frontier behind.frontier (distance + 1) fuel

/-- The numbers of old and new lines before the cut. -/
def middleSnake? (old new : List String) : Option (Nat × Nat) :=
  let rounds := (old.length + new.length + 1) / 2 + 1
  let frontier := Frontier.start (rounds + 1)
  searchFrom old.toArray new.toArray old.reverse.toArray new.reverse.toArray frontier frontier 0
    rounds

end Scaffold.Diff
