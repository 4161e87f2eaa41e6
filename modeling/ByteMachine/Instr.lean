import ByteMachine.Arith

/-!
# Instructions

An instruction is an opcode byte and up to two operand bytes.  The opcode byte tells how many
operands follow (its two high bits), whether the arithmetic unit is asked (bit 5) and whether the
instruction sets the program counter itself (bit 4).

## Main definitions

- `Opcode`, `Opcode.byte`, `Opcode.ofByte?` — the nine opcodes and their bytes
- `arity`, `isArith`, `isJump` — the fields of an opcode byte
- `Instr` — an instruction with its operands
- `Instr.opcode`, `Instr.opcodeByte` — its entry in the table of opcodes, and its opcode byte
- `Instr.encode`, `Instr.encodeList` — the bytes of an instruction, and of a sequence of them
- `Instr.chars`, `Instr.text` — an instruction in assembly language

## Design notes

Operands are arbitrary bytes: an instruction may name a register that does not exist, and fails
only when it is executed.
-/

namespace ByteMachine

/-- The number of operand bytes behind an opcode byte. -/
def arity (opcode : Byte) : Byte := opcode >>> 6

/-- The bit of the opcodes that ask the arithmetic unit. -/
def arithFlag : Byte := 0b00100000

/-- The bit of the opcodes whose instructions set the program counter themselves. -/
def jumpFlag : Byte := 0b00010000

def isArith (opcode : Byte) : Bool := opcode &&& arithFlag != 0

def isJump (opcode : Byte) : Bool := opcode &&& jumpFlag != 0

inductive Opcode where
  | hlt | ret | ldi | prn | push | pop | call | add | mul
deriving DecidableEq, Repr

namespace Opcode

def all : List Opcode :=
  [.hlt, .ret, .ldi, .prn, .push, .pop, .call, .add, .mul]

def byte : Opcode → Byte
  | .hlt => 0b00000001
  | .ldi => 0b10000010
  | .prn => 0b01000111
  | .add => 0b10100000
  | .mul => 0b10100010
  | .push => 0b01000101
  | .pop => 0b01000110
  | .call => 0b01010000
  | .ret => 0b00010001

def ofByte? (b : Byte) : Option Opcode :=
  all.find? (·.byte = b)

def mnemonic : Opcode → List Char
  | .hlt => ['H', 'L', 'T']
  | .ret => ['R', 'E', 'T']
  | .ldi => ['L', 'D', 'I']
  | .prn => ['P', 'R', 'N']
  | .push => ['P', 'U', 'S', 'H']
  | .pop => ['P', 'O', 'P']
  | .call => ['C', 'A', 'L', 'L']
  | .add => ArithOp.add.mnemonic
  | .mul => ArithOp.mul.mnemonic

def ofMnemonic? (name : List Char) : Option Opcode :=
  all.find? (·.mnemonic = name)

theorem mem_all (op : Opcode) : op ∈ all := by
  cases op <;> decide

theorem ofByte?_byte (op : Opcode) : ofByte? op.byte = some op := by
  cases op <;> rfl

theorem byte_of_ofByte? {b : Byte} {op : Opcode} (h : ofByte? b = some op) : op.byte = b := by
  simpa using List.find?_some h

theorem ofByte?_eq_none_iff {b : Byte} : ofByte? b = none ↔ ∀ op : Opcode, op.byte ≠ b := by
  simp only [ofByte?, List.find?_eq_none, decide_eq_true_eq]
  exact ⟨fun h op => h op (mem_all op), fun h op _ => h op⟩

theorem ofMnemonic?_mnemonic (op : Opcode) : ofMnemonic? op.mnemonic = some op := by
  cases op <;> rfl

end Opcode

inductive Instr where
  | hlt
  /-- Store `value` into register `reg`. -/
  | ldi (reg value : Byte)
  | prn (reg : Byte)
  /-- Combine registers `dest` and `src` into `dest`. -/
  | arith (op : ArithOp) (dest src : Byte)
  | push (reg : Byte)
  | pop (reg : Byte)
  /-- Push the address behind this instruction and continue at the address in register `reg`. -/
  | call (reg : Byte)
  /-- Pop an address off the stack and continue there. -/
  | ret
deriving DecidableEq, Repr

namespace Instr

/-- The entry of the instruction among the nine opcodes. -/
def opcode : Instr → Opcode
  | .hlt => .hlt
  | .ldi .. => .ldi
  | .prn _ => .prn
  | .arith .add .. => .add
  | .arith .mul .. => .mul
  | .push _ => .push
  | .pop _ => .pop
  | .call _ => .call
  | .ret => .ret

/-- The opcode byte of the instruction.  That of an arithmetic one is put together from the number
of operands, the flag of the arithmetic unit and the tag of the operation. -/
def opcodeByte : Instr → Byte
  | .hlt => Opcode.hlt.byte
  | .ldi .. => Opcode.ldi.byte
  | .prn _ => Opcode.prn.byte
  | .arith op .. => 0b10000000 ||| arithFlag ||| op.tag
  | .push _ => Opcode.push.byte
  | .pop _ => Opcode.pop.byte
  | .call _ => Opcode.call.byte
  | .ret => Opcode.ret.byte

def operands : Instr → List Byte
  | .hlt | .ret => []
  | .ldi reg value => [reg, value]
  | .prn reg | .push reg | .pop reg | .call reg => [reg]
  | .arith _ dest src => [dest, src]

def mnemonic (instr : Instr) : List Char :=
  instr.opcode.mnemonic

/-- The number of bytes of an instruction, as its opcode byte tells it. -/
def width (instr : Instr) : Byte :=
  1 + arity instr.opcodeByte

def isJump (instr : Instr) : Bool :=
  ByteMachine.isJump instr.opcodeByte

/-- The bytes of an instruction: its opcode and its operands. -/
def encode (instr : Instr) : List Byte :=
  instr.opcodeByte :: instr.operands

/-- The bytes of a sequence of instructions, one after the other. -/
def encodeList (instrs : List Instr) : List Byte :=
  instrs.flatMap encode

def registerName (reg : Byte) : List Char :=
  'R' :: Text.decimal reg.toNat

def chars : Instr → List Char
  | .hlt => mnemonic .hlt
  | .ret => mnemonic .ret
  | instr@(.ldi reg value) =>
    instr.mnemonic ++ ' ' :: registerName reg ++ ',' :: Text.decimal value.toNat
  | instr@(.arith _ dest src) =>
    instr.mnemonic ++ ' ' :: registerName dest ++ ',' :: registerName src
  | instr@(.prn reg) | instr@(.push reg) | instr@(.pop reg) | instr@(.call reg) =>
    instr.mnemonic ++ ' ' :: registerName reg

def text (instr : Instr) : String :=
  String.ofList instr.chars

/-- The byte that is put together for an arithmetic instruction is the one in the table, by which
instructions are decoded. -/
theorem opcodeByte_eq (instr : Instr) : instr.opcodeByte = instr.opcode.byte := by
  rcases instr with _ | _ | _ | ⟨⟨⟩⟩ | _ | _ | _ | _ <;> rfl

theorem encode_eq (instr : Instr) : instr.encode = instr.opcode.byte :: instr.operands := by
  rw [encode, opcodeByte_eq]

theorem length_encode (instr : Instr) : instr.encode.length = instr.width.toNat := by
  have hwidth : ∀ op : Opcode, (1 + arity op.byte).toNat =
      match op with
      | .hlt | .ret => 1
      | .prn | .push | .pop | .call => 2
      | .ldi | .add | .mul => 3 := by
    intro op
    cases op <;> decide
  rw [width, opcodeByte_eq, hwidth]
  rcases instr with _ | _ | _ | ⟨⟨⟩⟩ | _ | _ | _ | _ <;> rfl

@[simp]
theorem encodeList_nil : encodeList [] = [] := rfl

@[simp]
theorem encodeList_cons (instr : Instr) (instrs : List Instr) :
    encodeList (instr :: instrs) = instr.encode ++ encodeList instrs := rfl

end Instr

end ByteMachine
