/-!
# Faults of file access

What can go wrong when a path is followed, read or written, and the words for it.
-/

namespace Scaffold

/-- Why an access to a file failed. -/
inductive FileFault where
  /-- A directory on the way, or the file itself, does not exist. -/
  | notFound
  /-- Something is already there. -/
  | alreadyThere
  /-- A step of the path leads through something that is no directory. -/
  | notDirectory
  /-- The path leads to a directory where a file is needed. -/
  | isDirectory
  /-- A name is longer than 255 bytes, or the path longer than 4095. -/
  | nameTooLong
  /-- More than 40 links were followed. -/
  | tooManyLinks
  /-- The path holds a null character. -/
  | nullInPath
  /-- The content is not UTF-8. -/
  | notText
  deriving Repr, DecidableEq

/-- The words for a fault. -/
def FileFault.message : FileFault → String
  | .notFound => "No such file or directory (os error 2)"
  | .alreadyThere => "File exists (os error 17)"
  | .notDirectory => "Not a directory (os error 20)"
  | .isDirectory => "Is a directory (os error 21)"
  | .nameTooLong => "File name too long (os error 36)"
  | .tooManyLinks => "Too many levels of symbolic links (os error 40)"
  | .nullInPath => "file name contained an unexpected NUL byte"
  | .notText => "stream did not contain valid UTF-8"

end Scaffold
