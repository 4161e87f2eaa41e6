import ByteMachine.Disk
import ByteMachine.Text.Lines

/-!
# Paths

A path is a row of steps between slashes.  Slashes may be doubled without a meaning, a slash in
front makes the path begin at the root, and a slash behind the last step says that the path is meant
to lead to a directory.

## Main definitions

- `Path.Step` — what stands between two slashes
- `Path` — a path taken apart
- `Path.parse` — the path that a text spells
-/

namespace ByteMachine

/-- What stands between two slashes of a path. -/
inductive Path.Step where
  /-- A single dot stays in the directory. -/
  | stay
  /-- Two dots go up to the directory around it. -/
  | up
  /-- Anything else is the name of an entry of the directory. -/
  | name (n : String)
deriving DecidableEq, Repr

/-- The step that a text between slashes spells. -/
def Path.Step.ofChars (text : List Char) : Path.Step :=
  if text = ['.'] then .stay
  else if text = ['.', '.'] then .up
  else .name (String.ofList text)

structure Path where
  /-- The path begins at the root and not at the working directory. -/
  rooted : Bool
  /-- The steps in front of the last one, all through directories. -/
  through : List Path.Step
  /-- The last step.  The bare root is a path that stays there. -/
  last : Path.Step
  slashed : Bool
deriving DecidableEq, Repr

namespace Path

/-- The longest path, in bytes. -/
def longest : Nat := 4095

/-- The steps between the slashes of a text. -/
def steps (text : List Char) : List Step :=
  ((Text.splitOn '/' text).filter (· ≠ [])).map Step.ofChars

/-- The path that a text spells.  Null characters are refused before all else, and the empty text
leads nowhere. -/
def parse (text : String) : Except FileError Path :=
  let chars := text.toList
  let steps := steps chars
  if '\x00' ∈ chars then .error .nullInPath
  else if chars.isEmpty then .error .notFound
  else if longest < text.utf8ByteSize then .error .nameTooLong
  else .ok
    { rooted := chars.head? = some '/'
      through := steps.dropLast
      last := steps.getLast?.getD .stay
      slashed := chars.getLast? = some '/' }

end Path

end ByteMachine
