/-!
# Lines and cuts

A line ends before a line feed, and a carriage return right before that line feed belongs to the
ending.  A line feed at the very end of a text starts no further line.

## Main definitions

- `Text.lines` — the lines of a text
- `Text.before`, `Text.after` — the two sides of the first character with a property
- `Text.splitOn` — the pieces between the occurrences of a character
-/

namespace ByteMachine.Text

/-- The part of a text before its first character with property `p`; all of it if there is
none. -/
def before (p : Char → Bool) (text : List Char) : List Char :=
  text.takeWhile (!p ·)

/-- The part of a text after its first character with property `p`, if there is one. -/
def after? (p : Char → Bool) (text : List Char) : Option (List Char) :=
  match text.dropWhile (!p ·) with
  | [] => none
  | _ :: rest => some rest

/-- The pieces of a text between the occurrences of `sep`, at least one. -/
def splitOn (sep : Char) : List Char → List (List Char)
  | [] => [[]]
  | c :: rest =>
    if c = sep then [] :: splitOn sep rest
    else match splitOn sep rest with
      | [] => [[c]]
      | piece :: pieces => (c :: piece) :: pieces

def dropReturn (line : List Char) : List Char :=
  if line.getLast? = some '\r' then line.dropLast else line

/-- The lines that are closed by a line feed lose the carriage return before it; the rest of the
text is the last line, kept as it is, unless it is empty. -/
def closeLines : List (List Char) → List (List Char)
  | [] => []
  | [last] => if last.isEmpty then [] else [last]
  | line :: rest => dropReturn line :: closeLines rest

def lines (text : List Char) : List (List Char) :=
  closeLines (splitOn '\n' text)

end ByteMachine.Text
