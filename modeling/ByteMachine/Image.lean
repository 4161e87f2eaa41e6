import ByteMachine.Disk
import ByteMachine.Listing
import ByteMachine.Text.Blank
import ByteMachine.Text.Lines
import ByteMachine.Text.Quoted

/-!
# Program images

A program image is a text with one byte in binary digits on a line.  A number sign begins a
comment, and lines without digits are ignored.

## Main definitions

- `Image`, `Image.push` — bytes and the lines that they come from, and one more of them
- `Image.parseLine`, `Image.parse` — the byte of a line, and the image of a text
- `Image.ofBytes` — the image of bytes alone
- `Image.write` — a text whose image has the given bytes, annotated with the instructions
- `Image.load`, `Image.save` — images as files
-/

namespace ByteMachine

/-- What is wrong with a line of an image. -/
inductive ImageCause where
  /-- The line has something else than binary digits. -/
  | notBinary (code : List Char)
  | tooLarge (code : List Char)
deriving DecidableEq, Repr

/-- Why there is no image. -/
inductive ImageError where
  /-- A line of the text, counted from 1, is wrong. -/
  | parse (line : Nat) (cause : ImageCause)
  /-- The file with the given path cannot be read. -/
  | unreadable (path : String) (e : FileError)
  | unwritable (e : FileError)
deriving DecidableEq, Repr

def ImageCause.message : ImageCause → String
  | .notBinary code => "expected binary digits, found " ++ String.ofList (Text.quoted code)
  | .tooLarge code => String.ofList (Text.quoted code) ++ " does not fit in 8 bits"

def ImageError.message : ImageError → String
  | .parse line cause => s!"parse error on line {line}: " ++ cause.message
  | .unreadable path e => s!"I/O error: {path}: " ++ e.message
  | .unwritable e => "I/O error: " ++ e.message

/-- The bytes of a program, address 0 first, and beside them the lines they come from. -/
structure Image where
  bytes : List Byte
  sources : List (List Char)
deriving DecidableEq, Repr

namespace Image

def empty : Image := ⟨[], []⟩

def push (image : Image) (byte : Byte) (source : List Char) : Image :=
  ⟨image.bytes ++ [byte], image.sources ++ [source]⟩

/-- Bytes as an image, each from a line that has its binary digits alone. -/
def ofBytes (bytes : List Byte) : Image :=
  ⟨bytes, bytes.map fun b => Text.binary 8 b.toNat⟩

def isComment (c : Char) : Bool :=
  c = '#'

def isBinaryDigit (c : Char) : Bool :=
  c = '0' || c = '1'

/-- The byte of a line, if the line has one. -/
def parseLine (line : List Char) : Except ImageCause (Option Byte) :=
  let code := Text.trim (Text.before isComment line)
  if code.isEmpty then .ok none
  else if !code.all isBinaryDigit then .error (.notBinary code)
  else
    let value := Nat.ofDigitChars 2 code 0
    if value < 256 then .ok (some (UInt8.ofNat value))
    else .error (.tooLarge code)

/-- The image together with the bytes of further lines, which are counted from `number` on. -/
def parseFrom (image : Image) (number : Nat) : List (List Char) → Except ImageError Image
  | [] => .ok image
  | line :: rest =>
    match parseLine line with
    | .ok none => parseFrom image (number + 1) rest
    | .ok (some byte) => parseFrom (image.push byte (Text.trim line)) (number + 1) rest
    | .error cause => .error (.parse number cause)

def parse (text : String) : Except ImageError Image :=
  parseFrom empty 1 (Text.lines text.toList)

/-- The lines of a row: its first byte of the code with address and text as a comment, and its other
bytes on lines of their own. -/
def rowLines (code : List Byte) (row : Row) : List (List Char) :=
  match (row.slice code).map fun b => Text.binary 8 b.toNat with
  | [] => []
  | first :: rest =>
    (first ++ [' ', '#', ' '] ++ addressText row.addr ++ [':', ' '] ++ row.chunk.chars) :: rest

/-- The lines above the bytes of an image. -/
def heading (size : Nat) : List (List Char) :=
  ["# LS-8 program image".toList, "# ".toList ++ Text.decimal size ++ " bytes".toList, []]

/-- An image text for bytes. -/
def write (bytes : List Byte) : String :=
  let lines := heading bytes.length ++ (listing bytes).flatMap (rowLines bytes)
  String.ofList (lines.flatMap (· ++ ['\n']))

variable {m : Type → Type} [Monad m]

def load (disk : Disk m) (path : String) : m (Except ImageError Image) := do
  match ← disk.readText path with
  | .ok text => return parse text
  | .error e => return .error (.unreadable path e)

def save (disk : Disk m) (path : String) (image : Image) : m (Except ImageError Unit) := do
  match ← disk.writeText path (write image.bytes) with
  | .ok () => return .ok ()
  | .error e => return .error (.unwritable e)

end Image

end ByteMachine
