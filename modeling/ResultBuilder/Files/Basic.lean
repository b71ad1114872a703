/-!
# Files

What a command needs of the files around it. Reading may fail; the reasons are those of the
operating system.
-/

namespace ResultBuilder

/-- Why a file cannot be read. -/
inductive FileError where
  | notFound
  /-- A part of the path before the last one is a file. -/
  | notDirectory
  | isDirectory
  /-- The path or a part of it is too long. -/
  | nameTooLong
  /-- There is a zero character in the path. -/
  | zeroInName
  /-- The content is no text. -/
  | notText
  /-- Any other reason, in words. -/
  | other (message : String)
  deriving DecidableEq, Repr

/-- The reason in words. -/
def FileError.message : FileError → String
  | .notFound => "No such file or directory (os error 2)"
  | .notDirectory => "Not a directory (os error 20)"
  | .isDirectory => "Is a directory (os error 21)"
  | .nameTooLong => "File name too long (os error 36)"
  | .zeroInName => "file name contained an unexpected NUL byte"
  | .notText => "stream did not contain valid UTF-8"
  | .other message => message

/-- What a path can lead to. -/
inductive FileKind where
  | file
  | directory
  deriving DecidableEq, Repr

/-- How files are accessed. -/
structure FileAccess (m : Type → Type) where
  /-- The content of a file. -/
  read : String → m (Except FileError String)
  /-- What a path leads to, if it leads to anything. -/
  kind? : String → m (Option FileKind)
  /-- The paths of the files and directories below a directory, relative to it. There are none below
  anything else. -/
  below : String → m (List String)

namespace FileAccess

variable {m : Type → Type} [Monad m]

/-- Whether a path leads to a directory. -/
def isDirectory (access : FileAccess m) (path : String) : m Bool := do
  return (← access.kind? path) == some .directory

/-- Whether a path leads to something. -/
def leads (access : FileAccess m) (path : String) : m Bool := do
  return (← access.kind? path).isSome

end FileAccess

end ResultBuilder
