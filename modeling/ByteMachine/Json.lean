import ByteMachine.Text.Numeral

/-!
# JSON documents

Snapshots of a machine are JSON texts.  A document is written in two layouts, a compact one and an
indented one.  Both spell the same tokens and differ only in the blanks between them, so that
reading need not know which layout was used.

## Main definitions

- `Json` — a document
- `Json.Token`, `Json.tokens` — the tokens that spell a document
- `Json.compact` — the tokens without anything between them
- `Json.indented` — the tokens with line breaks and two blanks for every level

## Design notes

A number is kept as a value only if its numeral is a plain natural number.  Every other numeral is
kept as written, because nothing here computes with it.  A string literal may contain half of a
surrogate pair as an escape; it is then well formed but denotes no text, and `none` stands for it.

JSON is written and read by a package that does not belong to the program, and what it does is taken
as given: the two layouts with the escapes that stand in their string literals; the texts that are
read, which are those of the JSON grammar with blanks between their tokens and nothing else behind
the document; and that from any other text nothing is read at all.  What is proved about such texts
holds as far as the definitions here and in the reader agree with that package.
-/

namespace ByteMachine

/-- The text of a string literal; `none` if an escape in it is a surrogate without its other
half. -/
abbrev JsonText := Option (List Char)

inductive Json where
  | null
  | bool (b : Bool)
  /-- A number written with digits alone. -/
  | nat (n : Nat)
  /-- A number written with a sign, a fraction or an exponent. -/
  | numeral (spelling : List Char)
  | str (text : JsonText)
  | arr (items : List Json)
  | obj (fields : List (JsonText × Json))

namespace Json

def text (s : String) : Json :=
  .str (some s.toList)

/-- An object with the given keys and values. -/
def record (fields : List (String × Json)) : Json :=
  .obj (fields.map fun (key, value) => (some key.toList, value))

/-- The smallest meaningful pieces of a JSON text. -/
inductive Token where
  | openArray | closeArray | openObject | closeObject | colon | comma
  | null
  | bool (b : Bool)
  | nat (n : Nat)
  | numeral (spelling : List Char)
  | str (text : JsonText)
deriving DecidableEq, Repr

/-- Tokens joined by commas. -/
def commaSeparated : List (List Token) → List Token
  | [] => []
  | [piece] => piece
  | piece :: pieces => piece ++ .comma :: commaSeparated pieces

mutual

def tokens : Json → List Token
  | .null => [.null]
  | .bool b => [.bool b]
  | .nat n => [.nat n]
  | .numeral spelling => [.numeral spelling]
  | .str text => [.str text]
  | .arr items => .openArray :: commaSeparated (itemTokens items) ++ [.closeArray]
  | .obj fields => .openObject :: commaSeparated (fieldTokens fields) ++ [.closeObject]

def itemTokens : List Json → List (List Token)
  | [] => []
  | item :: items => tokens item :: itemTokens items

def fieldTokens : List (JsonText × Json) → List (List Token)
  | [] => []
  | (key, value) :: fields => (.str key :: .colon :: tokens value) :: fieldTokens fields

end

/-- What stands for a character inside a string literal. -/
def escape (c : Char) : List Char :=
  if c = '"' ∨ c = '\\' then ['\\', c]
  else if c.toNat = 0x08 then ['\\', 'b']
  else if c.toNat = 0x0C then ['\\', 'f']
  else if c = '\n' then ['\\', 'n']
  else if c = '\r' then ['\\', 'r']
  else if c = '\t' then ['\\', 't']
  else if c.toNat < 0x20 then ['\\', 'u'] ++ (Nat.toDigits 16 c.toNat).leftpad 4 '0'
  else [c]

namespace Token

def chars : Token → List Char
  | .openArray => ['[']
  | .closeArray => [']']
  | .openObject => ['\x7b']
  | .closeObject => ['\x7d']
  | .colon => [':']
  | .comma => [',']
  | .null => ['n', 'u', 'l', 'l']
  | .bool true => ['t', 'r', 'u', 'e']
  | .bool false => ['f', 'a', 'l', 's', 'e']
  | .nat n => Text.decimal n
  | .numeral spelling => spelling
  | .str (some text) => '"' :: text.flatMap escape ++ ['"']
  | .str none => ['"', '\\', 'u', 'd', '8', '0', '0', '"']

/-- Whether a token begins an array or an object. -/
def opens (t : Token) : Bool :=
  t = .openArray || t = .openObject

/-- Whether a token ends an array or an object. -/
def closes (t : Token) : Bool :=
  t = .closeArray || t = .closeObject

end Token

/-- The text of a document without any blanks. -/
def compact (j : Json) : String :=
  String.ofList (j.tokens.flatMap Token.chars)

/-- A line break and the indentation of the given level. -/
def newLine (level : Nat) : List Char :=
  '\n' :: List.replicate (2 * level) ' '

/-- The blanks between two tokens of the indented layout, `level` levels deep.  An empty array or
object stays on one line. -/
def gap (level : Nat) (t u : Token) : List Char :=
  if t.opens then if u.closes then [] else newLine level
  else if u.closes then newLine (level - 1)
  else if t = .comma then newLine level
  else if t = .colon then [' ']
  else []

/-- The level behind a token that stands at the given level. -/
def levelAfter (level : Nat) (t : Token) : Nat :=
  if t.opens then level + 1 else if t.closes then level - 1 else level

/-- The indented layout of a list of tokens that begins at the given level. -/
def indent : (level : Nat) → List Token → List Char
  | _, [] => []
  | _, [t] => t.chars
  | level, t :: u :: rest =>
    t.chars ++ gap (levelAfter level t) t u ++ indent (levelAfter level t) (u :: rest)

/-- The text of a document with every item and field on a line of its own. -/
def indented (j : Json) : String :=
  String.ofList (indent 0 j.tokens)

end Json

end ByteMachine
