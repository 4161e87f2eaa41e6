/-!
# Files

What the program needs of a file system: to read a whole file as text, and to create a file with a
given text.  The commands are written for any such system.

## Main definitions

- `FileError` — why a file cannot be read or created
- `Disk` — a file system
-/

namespace ByteMachine

/-- Why a file cannot be read or created. -/
inductive FileError where
  | notFound
  | notDirectory
  | isDirectory
  | nameTooLong
  | nullInPath
  | notText
  /-- Any other reason, in the words of the system. -/
  | other (reason : String)
deriving DecidableEq, Repr

def FileError.message : FileError → String
  | .notFound => "No such file or directory (os error 2)"
  | .notDirectory => "Not a directory (os error 20)"
  | .isDirectory => "Is a directory (os error 21)"
  | .nameTooLong => "File name too long (os error 36)"
  | .nullInPath => "file name contained an unexpected NUL byte"
  | .notText => "stream did not contain valid UTF-8"
  | .other reason => reason

/-- A file system whose operations run in `m`. -/
structure Disk (m : Type → Type) where
  readText : String → m (Except FileError String)
  /-- Create the file with this path, or replace it, with this text. -/
  writeText : String → String → m (Except FileError Unit)

end ByteMachine
