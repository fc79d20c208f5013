import Scaffold.Path
import Scaffold.Disk.Fault

/-!
# Errors of changes
-/

namespace Scaffold

/-- Why a change could not be applied. -/
inductive ChangeError where
  /-- A position lies behind the end of the content. -/
  | outOfBounds (path : Path) (offset length : Nat)
  /-- A position lies inside a character. -/
  | notBoundary (path : Path) (offset : Nat)
  /-- The start of a range lies behind its end. -/
  | invalidRange (path : Path) (start stop : Nat)
  /-- An edit names no file. -/
  | missingPath
  /-- A bundle holds an edit of another file. -/
  | foreignPath (bundle child : Path)
  /-- The host could not read or write the file. -/
  | access (path : Path) (fault : FileFault)
  deriving Repr, DecidableEq

/-- The words for an error. -/
def ChangeError.message : ChangeError → String
  | .outOfBounds path offset length =>
    "offset " ++ toString offset ++ " is out of bounds for " ++ path.text ++
      " (" ++ toString length ++ " bytes)"
  | .notBoundary path offset =>
    "offset " ++ toString offset ++ " is not on a character boundary in " ++ path.text
  | .invalidRange path start stop =>
    "invalid range " ++ toString start ++ ".." ++ toString stop ++ " in " ++ path.text
  | .missingPath => "change has no target file"
  | .foreignPath bundle child =>
    "change bundled for " ++ bundle.text ++ " targets " ++ child.text
  | .access path fault => "I/O error on " ++ path.text ++ ": " ++ fault.message

end Scaffold
