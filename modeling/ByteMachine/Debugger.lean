import ByteMachine.Cpu.Step
import ByteMachine.Listing

/-!
# The debugger

The debugger executes a program one instruction at a time, either on request or, while it is
running, on every tick.  It stops at breakpoints and keeps everything that the program prints.

## Main definitions

- `Debugger`, `Debugger.new` — the debugger, and one with a freshly loaded program
- `Debugger.Status` — the message of the last operation
- `Debugger.step`, `Debugger.run`, `Debugger.tick` — execution
- `Debugger.flipBreakpoint`, `Debugger.reset`, `Debugger.scroll` — the other operations

## Design notes

A breakpoint stops execution before its instruction.  So that execution can be resumed there, the
first tick after `run` passes over it.
-/

namespace ByteMachine

/-- The message of the debugger's last operation. -/
inductive Debugger.Status where
  | ready
  | running
  | paused
  | reset
  | loadError (e : MemoryError)
  /-- The instruction at `pc` was executed. -/
  | stepped (pc : Nat) (instr : Instr)
  /-- The instruction at `pc` was refused. -/
  | refused (pc : Nat) (fault : Fault)
  /-- A step was asked of a machine in this state. -/
  | notRunning (state : RunState)
  /-- A run has ended because the machine has halted. -/
  | finished (cycles : UInt64)
  /-- A run has stopped at a breakpoint. -/
  | breakpoint (pc : Nat)
  | breakpointSet (pc : Nat)
  | breakpointRemoved (pc : Nat)
deriving DecidableEq, Repr

def Debugger.Status.message : Debugger.Status → String
  | .ready => "Ready. Press 's' to step, 'r' to run, 'q' to quit."
  | .running => "Running..."
  | .paused => "Paused."
  | .reset => "Reset. Ready."
  | .loadError e => "Load error: " ++ e.message
  | .stepped pc instr => s!"PC={hex pc}: " ++ instr.text
  | .refused pc fault => s!"Error at PC={hex pc}: " ++ fault.message
  | .notRunning state => "CPU halted: " ++ state.name
  | .finished cycles => s!"Halted after {cycles.toNat} cycles"
  | .breakpoint pc => s!"Breakpoint at PC={hex pc}"
  | .breakpointSet pc => s!"Set breakpoint at PC={hex pc}"
  | .breakpointRemoved pc => s!"Removed breakpoint at PC={hex pc}"
where
  /-- An address in at least two hexadecimal digits. -/
  hex (addr : Nat) : String := String.ofList (Text.hex 2 addr)

structure Debugger where
  cpu : Cpu
  /-- The program that a reset loads again. -/
  program : List Byte
  /-- The addresses of the breakpoints, ascending. -/
  breakpoints : List Nat
  /-- Everything the program has printed since it was loaded. -/
  output : List Byte
  /-- Whether a tick executes an instruction. -/
  running : Bool
  quitting : Bool
  status : Debugger.Status
  /-- The first row of the memory view. -/
  firstRow : Nat
  /-- Whether the next tick passes over a breakpoint. -/
  passing : Bool
deriving DecidableEq, Repr

namespace Debugger

def rowWidth : Nat := 8

def rowCount : Nat := addressCount / rowWidth

/-- Start again with a new machine and load the program.  A program that does not fit is left out,
and the status says so. -/
def restart (d : Debugger) : Debugger :=
  match Cpu.boot d.program with
  | .ok () cpu => { d with cpu, output := [] }
  | .error e cpu => { d with cpu, output := [], status := .loadError e }

def new (program : List Byte) : Debugger :=
  let d : Debugger := {
    cpu := .powerOn
    program
    breakpoints := []
    output := []
    running := false
    quitting := false
    status := .ready
    firstRow := 0
    passing := false }
  { d.restart with status := .ready }

def pc (d : Debugger) : Nat := d.cpu.pc

def step (d : Debugger) : Debugger :=
  if d.cpu.state ≠ .running then
    { d with status := .notRunning d.cpu.state, running := false }
  else match d.cpu.step with
    | .ok instr cpu =>
      let (printed, cpu) := cpu.drain
      { d with cpu, output := d.output ++ printed, status := .stepped d.pc instr }
    | .error fault cpu =>
      { d with cpu, status := .refused d.pc fault, running := false }

/-- Let ticks execute instructions, beginning with the one at the program counter. -/
def run (d : Debugger) : Debugger :=
  { d with running := true, passing := true, status := .running }

/-- Let ticks do nothing until the next run. -/
def pause (d : Debugger) : Debugger :=
  { d with running := false, status := .paused }

/-- One round of a run: execute an instruction, unless the machine has halted or stands at a
breakpoint. -/
def tick (d : Debugger) : Debugger :=
  if !d.running then d
  else if d.cpu.state ≠ .running then
    { d with running := false, status := .finished d.cpu.cycles }
  else if d.pc ∈ d.breakpoints ∧ !d.passing then
    { d with running := false, status := .breakpoint d.pc }
  else
    { d with passing := false }.step

def insertSorted (n : Nat) : List Nat → List Nat
  | [] => [n]
  | m :: rest => if n ≤ m then n :: m :: rest else m :: insertSorted n rest

/-- Set a breakpoint at the program counter, or remove the one there. -/
def flipBreakpoint (d : Debugger) : Debugger :=
  if d.pc ∈ d.breakpoints then
    { d with
      breakpoints := d.breakpoints.filter (· ≠ d.pc), status := .breakpointRemoved d.pc }
  else
    { d with
      breakpoints := insertSorted d.pc d.breakpoints, status := .breakpointSet d.pc }

/-- Stop and load the program again.  Breakpoints and the memory view stay. -/
def reset (d : Debugger) : Debugger :=
  { d with running := false, status := .reset }.restart

/-- Move the memory view by a number of rows, upwards if it is negative, as far as there are
rows. -/
def scroll (d : Debugger) (rows : Int) : Debugger :=
  { d with firstRow := min (d.firstRow + rows).toNat (rowCount - 1) }

end Debugger

end ByteMachine
