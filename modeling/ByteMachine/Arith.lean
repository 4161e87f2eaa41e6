import ByteMachine.Registers

/-!
# Arithmetic

The two arithmetic operations.  Both work modulo 256, the width of a register, and each has a tag,
the low four bits of the opcode that asks for it.

## Main definitions

- `ArithOp`, `ArithOp.ofTag` — the operations and their tags
- `ArithOp.eval`, `ArithOp.apply` — the operation on two bytes, and on two registers
-/

namespace ByteMachine

inductive ArithOp where
  | add
  | mul
deriving DecidableEq, Repr

/-- Why an arithmetic operation is refused. -/
inductive ArithError where
  | noOperation (tag : Byte)
deriving DecidableEq, Repr

def ArithError.message : ArithError → String
  | .noOperation tag =>
    "unsupported ALU operation tag 0b" ++ String.ofList (Text.binary 4 tag.toNat)

namespace ArithOp

def tag : ArithOp → Byte
  | .add => 0b0000
  | .mul => 0b0010

def ofTag (tag : Byte) : Except ArithError ArithOp :=
  if tag = ArithOp.tag .add then .ok .add
  else if tag = ArithOp.tag .mul then .ok .mul
  else .error (.noOperation tag)

def mnemonic : ArithOp → List Char
  | .add => ['A', 'D', 'D']
  | .mul => ['M', 'U', 'L']

def eval : ArithOp → Byte → Byte → Byte
  | .add, a, b => a + b
  | .mul, a, b => a * b

/-- Combine registers `dest` and `src` into `dest`.  Both are read before anything is stored.  Gives
the stored value. -/
def apply (op : ArithOp) (dest src : Byte) : Registers.Action Byte := do
  let a ← Registers.read dest
  let b ← Registers.read src
  let value := op.eval a b
  Registers.set dest value
  return value

end ArithOp

end ByteMachine
