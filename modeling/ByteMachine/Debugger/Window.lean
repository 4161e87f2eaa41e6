import ByteMachine.Debugger

/-!
# The disassembly window

The debugger shows the instructions around the program counter.  The code in front of it is swept
from address 0, so that an operand is not taken for an instruction; from it on stand the
instructions as the machine would meet them.  The two parts are read apart: an instruction of the
sweep that would reach over the program counter is cut off there, and what is left of it is read
byte by byte.

## Main definitions

- `Debugger.rowsBefore`, `Debugger.rowsFrom` — the rows before the program counter and from it on
- `Debugger.window` — a number of rows, with the current one near the middle
-/

namespace ByteMachine.Debugger

/-- A row of the window, with the mark of the current instruction. -/
structure WindowRow where
  row : Row
  current : Bool
deriving DecidableEq, Repr

/-- The rows of the code in front of the program counter that end there or before. -/
def rowsBefore (d : Debugger) : List WindowRow :=
  ((listing (d.cpu.mem.cells.take d.pc)).filter (·.stop ≤ d.pc)).map fun row => ⟨row, false⟩

/-- The first `room` rows of machine addresses from `addr` on. -/
def rowsFrom (d : Debugger) : (room addr : Nat) → List WindowRow
  | 0, _ => []
  | room + 1, addr =>
    if addr < addressCount then
      let row : Row := ⟨addr, Chunk.read d.cpu.mem.cells addr⟩
      ⟨row, addr = d.pc⟩ :: d.rowsFrom room row.stop
    else []

/-- The rows that the window can show: those before the program counter, and no more than
`d.pc + lines` in all. -/
def rowsAround (d : Debugger) (lines : Nat) : List WindowRow :=
  let before := d.rowsBefore
  before ++ d.rowsFrom (d.pc + lines - before.length) d.pc

/-- A window of `lines` rows whose middle is the current row, as far as there are rows in front of
it. -/
def window (d : Debugger) (lines : Nat) : List WindowRow :=
  let rows := d.rowsAround lines
  let current := (rows.findIdx? (·.current)).getD 0
  (rows.drop (current - lines / 2)).take lines

end ByteMachine.Debugger
