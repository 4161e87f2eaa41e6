import ByteMachine.Memory

/-!
# Registers

Eight byte registers and the program counter.  Register 7 is the stack pointer; the stack of a new
machine is empty with the pointer at `0xF4`.  The program counter is wider than a byte because it
stands at 256 after the last instruction of a full memory.

## Main definitions

- `Registers`, `Registers.powerOn` — the register file, and that of a new machine
- `Registers.get`, `Registers.read`, `Registers.set` — one register, with an error for an index
  above 7
- `Registers.pcAfter` — the address behind an instruction
-/

namespace ByteMachine

/-- The index of the register that serves as stack pointer. -/
def stackRegister : Byte := 7

/-- The stack pointer of an empty stack. -/
def emptyStack : Byte := 0xF4

/-- Why a register operation is refused. -/
inductive RegisterError where
  | noRegister (index : Byte)
deriving DecidableEq, Repr

def RegisterError.message : RegisterError → String
  | .noRegister index => s!"invalid register index {index.toNat} (expected 0-7)"

/-- The eight registers and the program counter. -/
structure Registers where
  reg : Vector Byte 8
  pc : UInt16
deriving DecidableEq, Repr

namespace Registers

/-- The registers of a new machine: all zero but the stack pointer. -/
def powerOn : Registers :=
  ⟨#v[0, 0, 0, 0, 0, 0, 0, emptyStack], 0⟩

def get (r : Registers) (index : Byte) : Except RegisterError Byte :=
  if h : index.toNat < 8 then .ok r.reg[index.toNat]
  else .error (.noRegister index)

/-- An operation on registers in place. -/
abbrev Action := EStateM RegisterError Registers

def read (index : Byte) : Action Byte :=
  inspect fun r => r.get index

/-- Store `value` into register `index`. -/
def set (index value : Byte) : Action Unit := fun r =>
  if h : index.toNat < 8 then .ok () { r with reg := r.reg.set index.toNat value }
  else .error (.noRegister index) r

def sp (r : Registers) : Byte :=
  r.reg[7]

def withSp (r : Registers) (value : Byte) : Registers :=
  { r with reg := r.reg.set 7 value }

/-- The eight values, register 0 first. -/
def toList (r : Registers) : List Byte :=
  r.reg.toList

/-- The address behind an instruction of `width` bytes at the program counter.  It may be the one
behind memory, but no further. -/
def pcAfter (r : Registers) (width : Byte) : Except MemoryError UInt16 :=
  let next := r.pc + width.toUInt16
  if addressCount < next.toNat then .error (.ofAddress next.toNat) else .ok next

/-- The register file with the program counter at a byte address. -/
def jump (r : Registers) (addr : Byte) : Registers :=
  { r with pc := addr.toUInt16 }

/-- Program counter and registers in hexadecimal. -/
def describe (r : Registers) : String :=
  let pc := String.ofList (Text.hex 2 r.pc.toNat)
  let values := r.toList.zipIdx.map fun (value, i) =>
    s!" R{i}=" ++ String.ofList (Text.hex 2 value.toNat)
  s!"PC={pc}" ++ String.join values

theorem get_set_ne {r r' : Registers} {index other value : Byte}
    (h : r.set index value = .ok () r') (hne : other ≠ index) : r'.get other = r.get other := by
  unfold set at h
  split at h
  · cases h
    have : index.toNat ≠ other.toNat := fun heq => hne (UInt8.toNat_inj.1 heq).symm
    simp [get, Vector.getElem_set_ne, this]
  · cases h

end Registers

end ByteMachine
