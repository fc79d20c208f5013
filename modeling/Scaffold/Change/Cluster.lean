import Scaffold.Change

/-!
# Clusters

The changes of one run in the order in which they are applied, and the same changes by file.
Higher orders come first, and of equal orders the change generated later, so that the positions
of an edit still hold after the edits before it.
-/

namespace Scaffold

/-- Sorted changes and their partition by file. -/
structure ChangeCluster where
  /-- All changes in the order of application. -/
  changes : List Change
  /-- The changes that name a file, by file; files in the order of their first change. -/
  buckets : PathMap (List Change)
  /-- The changes that name no file. -/
  other : List Change
  deriving Repr, Inhabited

namespace ChangeCluster

/-- Whether a change may stand before another. -/
def goesFirst (left right : Change) : Bool := decide (right.order ≤ left.order)

/-- The changes in the order of application. -/
def sort (changes : List Change) : List Change := changes.reverse.mergeSort goesFirst

/-- The buckets with one more change. -/
def addToBuckets (buckets : PathMap (List Change)) (change : Change) : PathMap (List Change) :=
  match change.path? with
  | some path => buckets.insert path ((buckets.find? path).getD [] ++ [change])
  | none => buckets

/-- The cluster of generated changes. -/
def ofChanges (generated : List Change) : ChangeCluster :=
  let changes := sort generated
  { changes
    buckets := changes.foldl addToBuckets PathMap.empty
    other := changes.filter (·.path?.isNone) }

/-- The distinct files, in the order of their first change. -/
def files (cluster : ChangeCluster) : List Path := cluster.buckets.keys

/-- The changes of a file in the order of application, if it has any. -/
def changesFor? (cluster : ChangeCluster) (path : Path) : Option (List Change) :=
  cluster.buckets.find? path

/-- Files with their changes, in the order of files. -/
def changesByFile (cluster : ChangeCluster) : List (Path × List Change) :=
  cluster.files.filterMap fun path => (cluster.changesFor? path).map (path, ·)

/-- Whether there are no changes at all. -/
def isEmpty (cluster : ChangeCluster) : Bool := cluster.changes.isEmpty

end ChangeCluster

end Scaffold
