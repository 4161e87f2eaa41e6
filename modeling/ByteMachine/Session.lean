import ByteMachine.Asm
import ByteMachine.Cpu.Run
import ByteMachine.Cpu.Snapshot
import ByteMachine.Listing

/-!
# Sessions

A session is a machine for a host application: it remembers the program that was loaded last, so
that the machine can be put back to where it began.

## Main definitions

- `Session`, `Session.new` — the machine and its program
- `Session.load`, `Session.loadSource` — load a program; a refused program changes nothing
- `Session.step`, `Session.run`, `Session.reset` — execution
- `Session.register`, `Session.peek`, `Session.summary` — what the host can see

## Design notes

Like an action on the machine, an operation that fails may leave the session changed: a failing
run keeps what it has executed.
-/

namespace ByteMachine

/-- Why an operation of a session fails. -/
inductive SessionError where
  | source (e : Asm.Error)
  | memory (e : MemoryError)
  | halted
  | fault (f : Fault)
deriving DecidableEq, Repr

def SessionError.message : SessionError → String
  | .source e => e.message
  | .memory e => e.message
  | .halted => "CPU is halted"
  | .fault f => f.message

/-- A machine and the program that was loaded last. -/
structure Session where
  cpu : Cpu
  program : List Byte
deriving DecidableEq, Repr

namespace Session

/-- An operation of a session.  A failing one leaves the session as far as it had come. -/
abbrev Action := EStateM SessionError Session

def new : Session := ⟨.powerOn, []⟩

/-- Load a program into a new machine.  Gives its size. -/
def load (bytes : List Byte) : Action Nat := fun s =>
  match Cpu.boot bytes with
  | .ok () cpu => .ok bytes.length ⟨cpu, bytes⟩
  | .error e _ => .error (.memory e) s

/-- Load the program of a source text into a new machine.  Gives its size. -/
def loadSource (source : String) : Action Nat := fun s =>
  match assemble source with
  | .ok bytes => load bytes s
  | .error e => .error (.source e) s

/-- An action on the machine of a session. -/
def onCpu {α : Type} : Cpu.Exec α → Action α :=
  onPart Session.cpu (fun s cpu => { s with cpu }) .fault

/-- Execute one instruction.  Gives it in assembly language. -/
def step : Action String := do
  if (← get).cpu.state ≠ .running then throw .halted
  return (← onCpu Cpu.step).text

/-- Run for at most `max` instructions.  Gives the number of instructions executed since the
program was loaded. -/
def run (max : UInt32) : Action UInt64 := do
  let _ ← onCpu (Cpu.runFor max.toUInt64)
  return (← get).cpu.cycles

/-- Begin again with a new machine and load the program, if there is one.  Whether the load fails is
not looked at. -/
def reset (s : Session) : Session :=
  match s.program with
  | [] => { s with cpu := .powerOn }
  | program => { s with cpu := endState (Cpu.boot program) }

def drain (s : Session) : List Byte × Session :=
  let (printed, cpu) := s.cpu.drain
  (printed, { s with cpu })

/-- The value of a register, and zero for an index without one. -/
def register (s : Session) (index : Byte) : Byte :=
  (s.cpu.regs.get index).toOption.getD 0

/-- The value of a memory cell, and zero for an address without one. -/
def peek (s : Session) (addr : Nat) : Byte :=
  s.cpu.mem.peek addr

/-- The registers and the state as a JSON text, with the keys in alphabetical order. -/
def summary (s : Session) : String :=
  Json.compact <| .record
    [("cycles", .nat s.cpu.cycles.toNat),
     ("pc", .nat s.cpu.pc),
     ("registers", .bytes s.cpu.regs.toList),
     ("sp", .nat s.cpu.regs.sp.toNat),
     ("state", .text s.cpu.state.name)]

end Session

end ByteMachine
