import ByteMachine.Json

/-!
# The tokens of a JSON text

Reading goes through the text once, character by character, and remembers in a mode what has been
seen of the token at hand.

## Main definitions

- `Json.Mode` — where in a token the reader stands
- `Json.Mode.next` — the tokens that a character completes, and the mode behind it
- `Json.Token.ofText?` — the tokens of a text, if all of it is well formed

## Design notes

A numeral or a word ends at the first character that cannot belong to it, and this character is
then read as the beginning of the next token.  Two tokens that touch where the grammar wants
something between them are left to the reader of the tokens.
-/

namespace ByteMachine.Json

/-- A piece of a string literal: a character, or the 16-bit unit of a numeric escape. -/
inductive Piece where
  | char (c : Char)
  | unit (n : Nat)
deriving DecidableEq, Repr

/-- Whether a 16-bit unit is the first half of a surrogate pair. -/
def isHighHalf (n : Nat) : Bool := 0xD800 ≤ n && n < 0xDC00

/-- Whether a 16-bit unit is the second half of a surrogate pair. -/
def isLowHalf (n : Nat) : Bool := 0xDC00 ≤ n && n < 0xE000

/-- The text that the pieces of a literal denote. -/
def joinPieces : List Piece → JsonText
  | [] => some []
  | .char c :: rest => (joinPieces rest).map (c :: ·)
  | .unit high :: .unit low :: rest =>
    if isHighHalf high then
      if isLowHalf low then
        let c := Char.ofNat (0x10000 + (high - 0xD800) * 0x400 + (low - 0xDC00))
        (joinPieces rest).map (c :: ·)
      else none
    else if isLowHalf high then none
    else (joinPieces (.unit low :: rest)).map (Char.ofNat high :: ·)
  | .unit n :: rest =>
    if isHighHalf n || isLowHalf n then none
    else (joinPieces rest).map (Char.ofNat n :: ·)

/-- Where the reader stands.  What has been seen of a token is kept in reverse. -/
inductive Mode where
  | between
  | word (seen : List Char)
  | number (seen : List Char)
  | string (seen : List Piece)
  /-- In a string literal, behind a backslash. -/
  | escaped (seen : List Piece)
  /-- In a string literal, inside a numeric escape with `missing` digits to come after the next
  one; those seen so far have value `value`. -/
  | unit (seen : List Piece) (missing value : Nat)
deriving Repr

def wordToken? (letters : List Char) : Option Token :=
  if letters = ['n', 'u', 'l', 'l'] then some .null
  else if letters = ['t', 'r', 'u', 'e'] then some (.bool true)
  else if letters = ['f', 'a', 'l', 's', 'e'] then some (.bool false)
  else none

def isDigits (text : List Char) : Bool :=
  !text.isEmpty && text.all Char.isDigit

def isExponent : List Char → Bool
  | [] => true
  | e :: '+' :: digits | e :: '-' :: digits => (e = 'e' || e = 'E') && isDigits digits
  | e :: digits => (e = 'e' || e = 'E') && isDigits digits

/-- Whether a text is empty or a fraction, an exponent, or both. -/
def isFraction : List Char → Bool
  | '.' :: rest =>
    isDigits (rest.takeWhile Char.isDigit) && isExponent (rest.dropWhile Char.isDigit)
  | rest => isExponent rest

/-- Whether digits are a whole part: no zero stands in front of another digit. -/
def isWhole (digits : List Char) : Bool :=
  isDigits digits && (digits = ['0'] || digits.head? ≠ some '0')

def isUnsigned (text : List Char) : Bool :=
  isWhole (text.takeWhile Char.isDigit) && isFraction (text.dropWhile Char.isDigit)

def numberToken? (spelling : List Char) : Option Token :=
  if isWhole spelling then some (.nat (Nat.ofDigitChars 10 spelling 0))
  else match spelling with
    | '-' :: unsigned => if isUnsigned unsigned then some (.numeral spelling) else none
    | _ => if isUnsigned spelling then some (.numeral spelling) else none

/-- Whether a character may stand in a numeral. -/
def isNumeric (c : Char) : Bool :=
  c.isDigit || c = '-' || c = '+' || c = '.' || c = 'e' || c = 'E'

/-- The token that a single character is. -/
def punctuation? : Char → Option Token
  | '[' => some .openArray
  | ']' => some .closeArray
  | '\x7b' => some .openObject
  | '\x7d' => some .closeObject
  | ':' => some .colon
  | ',' => some .comma
  | _ => none

/-- Whether a character may stand between tokens without a meaning. -/
def isSpace (c : Char) : Bool :=
  c = ' ' || c = '\t' || c = '\n' || c = '\r'

/-- The character that a one-letter escape stands for. -/
def unescape? : Char → Option Char
  | '"' => some '"'
  | '\\' => some '\\'
  | '/' => some '/'
  | 'b' => some '\x08'
  | 'f' => some '\x0c'
  | 'n' => some '\n'
  | 'r' => some '\r'
  | 't' => some '\t'
  | _ => none

/-- What a character does between two tokens. -/
def begin? (c : Char) : Option (List Token × Mode) :=
  if isSpace c then some ([], .between)
  else if c = '"' then some ([], .string [])
  else if c.isDigit || c = '-' then some ([], .number [c])
  else if c.isLower then some ([], .word [c])
  else (punctuation? c).map fun t => ([t], .between)

/-- The tokens that a character completes, and the mode behind it. -/
def Mode.next : Mode → Char → Option (List Token × Mode)
  | .between, c => begin? c
  | .word seen, c =>
    if c.isLower then some ([], .word (c :: seen))
    else do
      let t ← wordToken? seen.reverse
      let (ts, mode) ← begin? c
      return (t :: ts, mode)
  | .number seen, c =>
    if isNumeric c then some ([], .number (c :: seen))
    else do
      let t ← numberToken? seen.reverse
      let (ts, mode) ← begin? c
      return (t :: ts, mode)
  | .string seen, c =>
    if c = '"' then some ([.str (joinPieces seen.reverse)], .between)
    else if c = '\\' then some ([], .escaped seen)
    else if c.toNat < 0x20 then none
    else some ([], .string (.char c :: seen))
  | .escaped seen, c =>
    if c = 'u' then some ([], .unit seen 3 0)
    else (unescape? c).map fun c => ([], .string (.char c :: seen))
  | .unit seen missing value, c => do
    let value := value * 16 + (← Text.digit? 16 c)
    match missing with
    | 0 => return ([], .string (.unit value :: seen))
    | missing + 1 => return ([], .unit seen missing value)

/-- The token that the end of the text completes. -/
def Mode.stop : Mode → Option (List Token)
  | .between => some []
  | .word seen => (wordToken? seen.reverse).map ([·])
  | .number seen => (numberToken? seen.reverse).map ([·])
  | .string _ | .escaped _ | .unit .. => none

/-- The tokens of a text that is read from the given mode on. -/
def lex : Mode → List Char → Option (List Token)
  | mode, [] => mode.stop
  | mode, c :: rest => do
    let (ts, mode') ← mode.next c
    return ts ++ (← lex mode' rest)

def Token.ofText? (text : List Char) : Option (List Token) :=
  lex .between text

end ByteMachine.Json
