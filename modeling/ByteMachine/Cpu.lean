import ByteMachine.Instr.Decode

/-!
# The machine

A machine is its registers and memory together with what happened so far: whether it has halted,
how many instructions it has executed, what it has printed, and which instruction came last.

## Main definitions

- `RunState`, `Cpu`, `Cpu.powerOn` — the machine, and a new one
- `Cpu.load`, `Cpu.boot` — a program at address 0 of a machine, and of a new one
- `Cpu.reset` — everything back to the beginning
- `Cpu.drain` — hand over what was printed
- `Cpu.traceText` — one line that shows where the machine stands
- `Fault` — why an instruction is refused
-/

namespace ByteMachine

inductive RunState where
  | running
  | halted
deriving DecidableEq, Repr

/-- The name of a state in messages and snapshots. -/
def RunState.name : RunState → String
  | .running => "Running"
  | .halted => "Halted"

/-- Why an instruction is refused. -/
inductive Fault where
  | notRunning (state : RunState)
  /-- The byte at the program counter is no opcode. -/
  | unknownOpcode (opcode : Byte) (pc : Nat)
  /-- The instruction names a register that does not exist. -/
  | register (e : RegisterError)
  /-- The instruction needs an address that does not exist. -/
  | memory (e : MemoryError)
  /-- The arithmetic unit does not know the operation. -/
  | arith (e : ArithError)
deriving DecidableEq, Repr

namespace Fault

def ofDecode : DecodeError → Fault
  | .unknownOpcode opcode pc => .unknownOpcode opcode pc
  | .memory e => .memory e

def message : Fault → String
  | .notRunning state => "CPU not running: " ++ state.name
  | .unknownOpcode opcode pc =>
    "unknown opcode " ++ String.ofList (Byte.binary opcode) ++ s!" at PC={pc}"
  | .register e => "register error: " ++ e.message
  | .memory e => "memory error: " ++ e.message
  | .arith e => "ALU error: " ++ e.message

end Fault

structure Cpu where
  regs : Registers
  mem : Memory
  state : RunState
  cycles : UInt64
  /-- The printed values that nobody has taken yet, oldest first. -/
  output : List Byte
  last : Option Instr
deriving DecidableEq, Repr

namespace Cpu

def powerOn : Cpu where
  regs := .powerOn
  mem := .blank
  state := .running
  cycles := 0
  output := []
  last := none

/-- A new machine with the same number of cells, all of them zero. -/
def reset (cpu : Cpu) : Cpu :=
  { powerOn with mem := cpu.mem.clear }

/-- Load a program into memory from address 0 on. -/
def load (cpu : Cpu) (program : List Byte) : Option (EStateM.Result MemoryError Cpu Unit) :=
  (cpu.mem.load 0 program).map (mapState fun mem => { cpu with mem })

theorem isSome_load_powerOn (program : List Byte) : (powerOn.load program).isSome := by
  rw [load, Option.isSome_map]
  exact Memory.isSome_load Memory.length_cells_blank 0 program

/-- A new machine that loads a program.  It has all its cells, so the load does not stop. -/
def boot (program : List Byte) : EStateM.Result MemoryError Cpu Unit :=
  (powerOn.load program).get (isSome_load_powerOn program)

theorem load_powerOn_eq_boot (program : List Byte) : powerOn.load program = some (boot program) :=
  (Option.some_get _).symm

def drain (cpu : Cpu) : List Byte × Cpu :=
  (cpu.output, { cpu with output := [] })

def pc (cpu : Cpu) : Nat :=
  cpu.regs.pc.toNat

def pcText (cpu : Cpu) : String :=
  String.ofList (Text.hex 2 cpu.pc)

def hexByte (b : Byte) : String :=
  String.ofList (Text.hex 2 b.toNat)

/-- Program counter, the three bytes there, and the registers. -/
def traceText (cpu : Cpu) : String :=
  let code := [0, 1, 2].map fun i => " " ++ hexByte (cpu.mem.peek (cpu.pc + i))
  let values := cpu.regs.toList.map fun value => " " ++ hexByte value
  "TRACE: " ++ cpu.pcText ++ " |" ++ String.join code ++ " |" ++ String.join values

/-- A one-line account of the machine for diagnostics. -/
def describe (cpu : Cpu) : String :=
  s!"Cpu \x7b state: {cpu.state.name}, cycles: {cpu.cycles.toNat}, regs: {cpu.regs.describe} \x7d"

end Cpu

end ByteMachine
