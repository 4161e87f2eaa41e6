import ByteMachine.Instr.Decode

/-!
# Listings

A program is shown by a linear sweep: the instruction at address 0, then the one behind it, and so
on to the end.  A byte at which no instruction can be read is shown as a byte of data.

## Main definitions

- `Chunk`, `Chunk.read` — an instruction or a byte of data, and the one at an address
- `Row`, `sweep`, `listing` — chunks with their addresses, from an address to the end of the code
- `Row.slice` — the bytes of the code that a row stands for
- `disassemble` — the listing as a text in assembly language
-/

namespace ByteMachine

/-- What a row of a listing stands for. -/
inductive Chunk where
  | instr (i : Instr)
  | data (b : Byte)
deriving DecidableEq, Repr

namespace Chunk

/-- The chunk at an address; behind the code it is a zero byte. -/
def read (code : List Byte) (addr : Nat) : Chunk :=
  match decode code addr with
  | .ok i => .instr i
  | .error _ => .data (code[addr]?.getD 0)

def bytes : Chunk → List Byte
  | .instr i => i.encode
  | .data b => [b]

def width : Chunk → Nat
  | .instr i => i.width.toNat
  | .data _ => 1

def chars : Chunk → List Char
  | .instr i => i.chars
  | .data b => ['D', 'B', ' '] ++ Byte.binary b

def text (chunk : Chunk) : String :=
  String.ofList chunk.chars

theorem length_bytes (chunk : Chunk) : chunk.bytes.length = chunk.width := by
  cases chunk with
  | instr i => exact i.length_encode
  | data b => rfl

theorem width_pos (chunk : Chunk) : 0 < chunk.width := by
  rw [← length_bytes]
  cases chunk <;> simp [bytes, Instr.encode]

end Chunk

structure Row where
  addr : Nat
  chunk : Chunk
deriving DecidableEq, Repr

def Row.stop (row : Row) : Nat :=
  row.addr + row.chunk.width

/-- The bytes of the code between the two ends of a row. -/
def Row.slice (code : List Byte) (row : Row) : List Byte :=
  code.extract row.addr row.stop

/-- The rows of the code from an address on. -/
def sweep (code : List Byte) (addr : Nat) : List Row :=
  if addr < code.length then
    let chunk := Chunk.read code addr
    ⟨addr, chunk⟩ :: sweep code (addr + chunk.width)
  else []
termination_by code.length - addr
decreasing_by
  have := (Chunk.read code addr).width_pos
  omega

def listing (code : List Byte) : List Row :=
  sweep code 0

/-- An address in at least three decimal digits. -/
def addressText (addr : Nat) : List Char :=
  (Text.decimal addr).leftpad 3 '0'

/-- Bytes in hexadecimal, separated by blanks. -/
def hexDump (bytes : List Byte) : List Char :=
  [' '].intercalate (bytes.map fun b => Text.hex 2 b.toNat)

/-- A row of a disassembly: address, text, and its bytes of the code as a comment. -/
def Row.line (code : List Byte) (row : Row) : List Char :=
  addressText row.addr ++ [':', ' '] ++ row.chunk.chars.rightpad 12 ' ' ++ [';', ' '] ++
    hexDump (row.slice code) ++ ['\n']

def disassemblyHeading : List Char :=
  "; LS-8 Disassembly\n; ----------------\n\n".toList

/-- A program in assembly language with addresses and bytes. -/
def disassemble (code : List Byte) : String :=
  String.ofList (disassemblyHeading ++ (listing code).flatMap (Row.line code))

end ByteMachine
