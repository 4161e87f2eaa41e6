import ByteMachine.Asm.Error
import ByteMachine.Instr
import ByteMachine.Text.Blank
import ByteMachine.Text.Lines
import ByteMachine.Text.Upper

/-!
# Operands

An operand is a register or an immediate value, and an immediate value is a number or a label.  The
beginning of the text decides which of the two it is meant to be.

## Main definitions

- `Asm.register` — reads a register
- `Asm.Immediate`, `Asm.immediate` — reads an immediate value
-/

namespace ByteMachine.Asm

/-- An immediate value: a byte, or the address of a label. -/
inductive Immediate where
  | value (b : Byte)
  | label (name : Label)
deriving DecidableEq, Repr

/-- The index of a register that is written in capital letters. -/
def registerIndex? : List Char → Option Nat
  | ['S', 'P'] => some 7
  | 'R' :: index => Text.unsigned? 10 index
  | _ => none

/-- The register that an operand names: the letter R with an index from 0 to 7, or the stack
pointer by its own name. -/
def register (operand : List Char) : Except Cause Byte :=
  match registerIndex? (Text.upper operand) with
  | some index => if index < 8 then .ok (UInt8.ofNat index) else .error (.noRegister operand)
  | none => .error (.noRegister operand)

def fitsWord (n : Int) : Bool :=
  -0x8000000000000000 ≤ n && n < 0x8000000000000000

/-- An operand that is meant to be a number: hexadecimal or binary behind the mark of the base,
decimal if it begins with a digit or a minus sign.  The outer `none` stands for an operand that is
no number at all, the inner one for a number that cannot be read. -/
def number? : List Char → Option (Option Int)
  | '0' :: 'x' :: digits | '0' :: 'X' :: digits => some (Text.signed? 16 digits)
  | '0' :: 'b' :: digits | '0' :: 'B' :: digits => some (Text.signed? 2 digits)
  | c :: rest => if c.isDigit || c = '-' then some (Text.signed? 10 (c :: rest)) else none
  | [] => none

/-- The byte of a number that must be one. -/
def byteValue (n : Int) : Except Cause Byte :=
  if 0 ≤ n ∧ n ≤ 255 then .ok (UInt8.ofNat n.toNat) else .error (.notByte n)

def immediate (operand : List Char) : Except Cause Immediate :=
  match number? operand with
  | some n =>
    match n.filter fitsWord with
    | some n => (byteValue n).map .value
    | none => .error (.malformed (.number operand))
  | none =>
    if operand.isEmpty || Text.hasBlank operand then .error (.malformed (.operand operand))
    else .ok (.label (Text.upper operand))

end ByteMachine.Asm
