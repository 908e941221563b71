import RouteInventory.Text.Quoted

/-!
What a scan needs to know of files: whether a path is there, what it is, and the text of a file. The
view can be of a disk or of a store in memory.
-/

namespace RouteInventory

/-- Why the operating system refuses an operation on a path. -/
inductive OsError where
  | notFound
  | inputOutput
  | accessDenied
  | alreadyExists
  | notDirectory
  | isDirectory
  | nameTooLong
  | tooManyLinks
  | nulInPath
  deriving DecidableEq, Repr

/-- The system's text. -/
def OsError.message : OsError → String
  | notFound => "No such file or directory (os error 2)"
  | inputOutput => "Input/output error (os error 5)"
  | accessDenied => "Permission denied (os error 13)"
  | alreadyExists => "File exists (os error 17)"
  | notDirectory => "Not a directory (os error 20)"
  | isDirectory => "Is a directory (os error 21)"
  | nameTooLong => "File name too long (os error 36)"
  | tooManyLinks => "Too many levels of symbolic links (os error 40)"
  | nulInPath => "file name contained an unexpected NUL byte"

/-- Why a file's text cannot be had; the path is the one that was asked for, as the view places
    it. -/
inductive ReadError where
  | missing (path : String)
  | denied (path : String)
  | notFile (path : String)
  | refused (path : String) (cause : OsError)
  deriving DecidableEq, Repr

namespace ReadError

/-- What went wrong. -/
def message : ReadError → String
  | missing path => "File not found: " ++ Text.quoted path
  | denied path => "Permission denied: " ++ Text.quoted path
  | notFile path => "Not a file: " ++ Text.quoted path
  | refused path _ => "Failed to read file " ++ Text.quoted path

/-- What went wrong and why. -/
def chain : ReadError → String
  | refused path cause => (refused path cause).message ++ ": " ++ cause.message
  | e => e.message

end ReadError

/-- A view of files by path. -/
structure FileView where
  /-- Whether the path leads to anything. -/
  isThere : String → Bool
  isDir : String → Bool
  isFile : String → Bool
  read : String → Except ReadError String

end RouteInventory
