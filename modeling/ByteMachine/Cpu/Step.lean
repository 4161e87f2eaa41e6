import ByteMachine.Cpu

/-!
# One instruction

An instruction is executed by reading and writing registers and memory one after the other.  All
of these actions work on the machine in place, and a failing one leaves behind whatever the ones
before it have done.  That no instruction fails halfway is therefore a property of the order of
the actions, not of their type: each instruction makes all its checks before its first change.

## Main definitions

- `Cpu.Exec` — an action on the machine that may fail and then still leaves a machine
- `Cpu.onRegs`, `Cpu.onMem` — actions on registers and on memory as such actions
- `Cpu.execute` — the effect of an instruction, the program counter of `call` and `ret` included
- `Cpu.step` — fetch, execute, advance the program counter and count
-/

namespace ByteMachine

namespace Cpu

/-- An action on the machine.  A failing action leaves the machine as far as it had come. -/
abbrev Exec := EStateM Fault Cpu

/-- An action on the registers of the machine. -/
def onRegs {α : Type} : Registers.Action α → Exec α :=
  onPart Cpu.regs (fun cpu regs => { cpu with regs }) .register

/-- An action on the memory of the machine. -/
def onMem {α : Type} : Memory.Action α → Exec α :=
  onPart Cpu.mem (fun cpu mem => { cpu with mem }) .memory

def readReg (index : Byte) : Exec Byte :=
  onRegs (Registers.read index)

def writeReg (index value : Byte) : Exec Unit :=
  onRegs (Registers.set index value)

def readMem (addr : Nat) : Exec Byte :=
  onMem (inspect fun mem => mem.read addr)

def writeMem (addr : Nat) (value : Byte) : Exec Unit :=
  onMem (Memory.write addr value)

def readSp : Exec Byte := do
  return (← get).regs.sp

def writeSp (value : Byte) : Exec Unit :=
  modify fun cpu => { cpu with regs := cpu.regs.withSp value }

def jump (addr : Byte) : Exec Unit :=
  modify fun cpu => { cpu with regs := cpu.regs.jump addr }

def print (value : Byte) : Exec Unit :=
  modify fun cpu => { cpu with output := cpu.output ++ [value] }

def pcAfter (width : Byte) : Exec UInt16 :=
  inspect fun cpu => (cpu.regs.pcAfter width).mapError .memory

/-- The address below `addr`.  The stack does not grow past address 0. -/
def below (addr : Byte) : Exec Byte :=
  if addr = 0 then throw (.memory (.noCell (-1))) else return addr - 1

/-- The address above `addr`.  The stack pointer does not move past address 255. -/
def above (addr : Byte) : Exec Byte :=
  if addr = 255 then throw (.memory (.ofAddress 256)) else return addr + 1

def pushByte (value : Byte) : Exec Unit := do
  let sp ← below (← readSp)
  writeMem sp.toNat value
  writeSp sp

/-- The effect of an instruction, except that the caller moves the program counter on where the
instruction does not set it.

A popped value is stored before the stack pointer moves, so popping into the stack pointer ends
one above the popped value.  The target of a call is read after the return address has been
pushed, so calling through the stack pointer jumps to its new value. -/
def execute : Instr → Exec Unit
  | .hlt => modify fun cpu => { cpu with state := .halted }
  | .ldi reg value => writeReg reg value
  | .prn reg => do print (← readReg reg)
  | .arith op dest src => do
    let _ ← onRegs (op.apply dest src)
  | .push reg => do pushByte (← readReg reg)
  | .pop reg => do
    let _ ← readReg reg
    let sp ← readSp
    let value ← readMem sp.toNat
    let sp' ← above (if reg = stackRegister then value else sp)
    writeReg reg value
    writeSp sp'
  | instr@(.call reg) => do
    let _ ← readReg reg
    let next ← pcAfter instr.width
    if 255 < next.toNat then throw (.memory (.ofAddress next.toNat))
    pushByte next.toUInt8
    jump (← readReg reg)
  | .ret => do
    let sp ← readSp
    let target ← readMem sp.toNat
    writeSp (← above sp)
    jump target

def fetchInstr : Exec Instr :=
  inspect fun cpu => (decode cpu.mem.cells cpu.pc).mapError .ofDecode

/-- The program counter after an instruction that neither halts nor sets it. -/
def following (instr : Instr) : Exec (Option UInt16) :=
  if instr = .hlt ∨ instr.isJump then return none
  else some <$> pcAfter instr.width

def settle (instr : Instr) (next : Option UInt16) : Exec Unit :=
  modify fun cpu =>
    { cpu with
      regs := { cpu.regs with pc := next.getD cpu.regs.pc }
      cycles := cpu.cycles + 1
      last := some instr }

def requireRunning : Exec Unit :=
  inspect fun cpu => if cpu.state = .running then .ok () else .error (.notRunning cpu.state)

def step : Exec Instr := do
  requireRunning
  let instr ← fetchInstr
  let next ← following instr
  execute instr
  settle instr next
  return instr

end Cpu

end ByteMachine
