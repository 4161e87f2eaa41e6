import ByteMachine.Debugger.View
import ByteMachine.Checked
import ByteMachine.Proofs.Debugger.Window

/-!
# Drawing with checked access

The views of a debugger are put together from parts of its memory, its registers and its output.
Each of these parts is found through another field: the code in front of the program counter, the
rows from the one that the view is scrolled to, the last values of the output.  Here the same views
are drawn with checked access, and it is told which fields have to fit together for them to be
drawn at all.

## Main definitions

- `Debugger.window?` — the window, drawn from a slice of memory
- `Debugger.disassemblyPanel?`, …, `Debugger.outputPanel?` — the panels with checked access
- `Debugger.draw?` — the screen

## Main statements

- `Debugger.window?_eq_some` — a window as it is shown
- `Debugger.stop_le_of_mem_window` — its rows end within memory
- `Debugger.draw?_eq_some` — a screen as it is shown
-/

namespace ByteMachine.Debugger

open Checked Screen

/-! ### Views with checked access -/

/-- The window.  The code in front of the program counter must be a part of memory, and the bound on
the number of rows a word. -/
def window? (d : Debugger) (lines : Nat) : Option (List WindowRow) := do
  let code ← slice? d.cpu.mem.cells 0 d.pc
  let bound ← sum? d.pc lines
  let before := ((listing code).filter (·.stop ≤ d.pc)).map fun row =>
    (⟨row, false⟩ : WindowRow)
  let rows := before ++ d.rowsFrom (bound - before.length) d.pc
  let current := (rows.findIdx? (·.current)).getD 0
  return (rows.drop (current - lines / 2)).take lines

def disassemblyPanel? (d : Debugger) (width height : Nat) : Option Block := do
  let rows ← d.window? (height - 2)
  return panel width height ⟨.of .cyan, .plain⟩ " Disassembly ".toList
    (rows.map (d.windowLine (width - 2)))

/-- The registers with their numbers, each of which must be there. -/
def numberedRegisters? (d : Debugger) : Option (List (Byte × Nat)) :=
  (List.range 8).mapM fun index => (d.cpu.regs.toList[index]?).map (·, index)

def registerPanel? (d : Debugger) (width height : Nat) : Option Block := do
  let values ← d.numberedRegisters?
  let state := d.cpu.state
  return panel width height ⟨.of .green, .plain⟩ " Registers ".toList
    [registerLine (values.take 4),
     registerLine (values.drop 4),
     span .plain "   PC: ".toList ++ span (.of .yellow) (hexText d.pc) ++
       span .plain "   Cycles: ".toList ++
       span (.of .cyan) (Text.decimal d.cpu.cycles.toNat),
     span .plain "State: ".toList ++
       span (.of (if state = .running then .green else .red)) state.name.toList]

/-- A row of memory, where every address must have a cell. -/
def memoryLine? (d : Debugger) (row : Nat) : Option Line := do
  let start := row * rowWidth
  let bytes ← (List.range' start rowWidth).mapM fun addr => (d.cpu.mem.cells[addr]?).map (addr, ·)
  return span (.of .darkGray) (hexText start ++ [':', ' ']) ++
    bytes.flatMap fun (addr, b) => byteSpan (d.memoryStyle addr b) b

def memoryPanel? (d : Debugger) (width height : Nat) : Option Block := do
  let bound ← sum? d.firstRow (height - 2)
  let stop := min bound rowCount
  let lines ← (List.range' d.firstRow (stop - d.firstRow)).mapM d.memoryLine?
  return panel width height ⟨.of .magenta, .plain⟩ " Memory ".toList lines

def outputPanel? (d : Debugger) (width height : Nat) : Option Block := do
  let count := d.output.length
  let latest ← slice? d.output (count - (height - 2)) count
  return panel width height ⟨.of .blue, .plain⟩
    (" Output (".toList ++ Text.decimal count ++ ") ".toList)
    (latest.map fun value => span .plain (Text.decimal value.toNat))

def draw? (d : Debugger) (width height : Nat) : Option Block := do
  let left := width * 55 / 100
  let right := width - left
  let disassembly ← d.disassemblyPanel? left (height - (registerHeight + statusHeight))
  let registers ← d.registerPanel? left registerHeight
  let memory ← d.memoryPanel? right (height - (outputHeight + helpHeight))
  let output ← d.outputPanel? right outputHeight
  return beside (disassembly ++ registers ++ d.statusPanel left statusHeight)
    (memory ++ output ++ helpPanel right helpHeight)

variable {d : Debugger} {lines width height : Nat}

/-! ### The window -/

theorem window?_eq_some (hpc : d.pc ≤ d.cpu.mem.cells.length)
    (hlines : d.pc + lines < UInt64.size) : d.window? lines = some (d.window lines) := by
  rw [window?, slice?_of_le (Nat.zero_le _) hpc, sum?_of_lt hlines]
  rfl

/-- Every row of the window ends within memory. -/
theorem stop_le_of_mem_window (hcells : d.cpu.mem.cells.length = addressCount)
    (hpc : d.pc ≤ addressCount) {r : WindowRow} (h : r ∈ d.window lines) :
    r.row.stop ≤ addressCount := by
  have hshown : r ∈ d.rowsAround lines := List.mem_of_mem_drop (List.mem_of_mem_take h)
  rw [← hcells] at hpc ⊢
  rcases List.mem_append.1 hshown with hbefore | hfrom
  · rw [rowsBefore_eq] at hbefore
    obtain ⟨row, hrow, rfl⟩ := List.mem_map.1 hbefore
    obtain ⟨-, hstop⟩ := (tiles_listing _).bounds_of_mem hrow
    rw [List.length_take_of_le hpc] at hstop
    exact hstop.trans hpc
  · rw [rowsFrom_eq hcells] at hfrom
    obtain ⟨row, hrow, rfl⟩ := List.mem_map.1 hfrom
    exact ((tiles_sweep hpc).bounds_of_mem (List.mem_of_mem_take hrow)).2

theorem disassemblyPanel?_eq_some (hpc : d.pc ≤ d.cpu.mem.cells.length)
    (hheight : d.pc + height < UInt64.size) (width : Nat) :
    d.disassemblyPanel? width height = some (d.disassemblyPanel width height) := by
  rw [disassemblyPanel?, window?_eq_some hpc (by omega)]
  rfl

/-! ### Registers -/

theorem numberedRegisters?_eq_some (d : Debugger) :
    d.numberedRegisters? = some d.cpu.regs.toList.zipIdx := by
  have hlength : d.cpu.regs.toList.length = 8 := Vector.length_toList
  have hvalues : d.cpu.regs.toList.zipIdx =
      (List.range 8).map fun index => (d.cpu.regs.toList[index]?.getD 0, index) := by
    refine List.ext_getElem (by simp [hlength]) fun index h _ => ?_
    rw [List.length_zipIdx] at h
    simp [h]
  rw [hvalues, numberedRegisters?]
  refine mapM_eq_some fun index hindex => ?_
  rw [List.mem_range, ← hlength] at hindex
  rw [List.getElem?_eq_getElem hindex]
  rfl

theorem registerPanel?_eq_some (d : Debugger) (width height : Nat) :
    d.registerPanel? width height = some (d.registerPanel width height) := by
  rw [registerPanel?, numberedRegisters?_eq_some]
  rfl

/-! ### Memory -/

theorem memoryLine?_eq_some (hcells : d.cpu.mem.cells.length = addressCount) {row : Nat}
    (hrow : row < rowCount) : d.memoryLine? row = some (d.memoryLine row) := by
  have hbytes : (List.range' (row * rowWidth) rowWidth).mapM
      (fun addr => (d.cpu.mem.cells[addr]?).map (addr, ·)) =
        some ((List.range' (row * rowWidth) rowWidth).map
          fun addr => (addr, d.cpu.mem.peek addr)) := by
    refine mapM_eq_some fun addr haddr => ?_
    have hlt : addr < d.cpu.mem.cells.length := by
      rw [List.mem_range'_1] at haddr
      rw [rowCount, rowWidth, addressCount] at hrow
      rw [rowWidth] at haddr
      rw [hcells, addressCount]
      omega
    rw [Memory.peek, List.getElem?_eq_getElem hlt]
    rfl
  rw [memoryLine?, hbytes, memoryLine, Option.bind_eq_bind, Option.bind_some, List.flatMap_map]
  rfl

theorem memoryLines?_eq_some (hcells : d.cpu.mem.cells.length = addressCount) {stop : Nat}
    (hstop : stop ≤ rowCount) :
    (List.range' d.firstRow (stop - d.firstRow)).mapM d.memoryLine? =
      some ((List.range' d.firstRow (stop - d.firstRow)).map d.memoryLine) := by
  refine mapM_eq_some fun row hrow => memoryLine?_eq_some hcells ?_
  rw [List.mem_range'_1] at hrow
  omega

theorem memoryPanel?_eq_some (hcells : d.cpu.mem.cells.length = addressCount)
    (hheight : d.firstRow + height < UInt64.size) (width : Nat) :
    d.memoryPanel? width height = some (d.memoryPanel width height) := by
  have hbound : d.firstRow + (height - 2) < UInt64.size := by omega
  rw [memoryPanel?, sum?_of_lt hbound, Option.bind_eq_bind, Option.bind_some]
  dsimp only
  rw [memoryLines?_eq_some hcells (Nat.min_le_right _ _)]
  rfl

/-! ### Output -/

theorem outputPanel?_eq_some (d : Debugger) (width height : Nat) :
    d.outputPanel? width height = some (d.outputPanel width height) := by
  rw [outputPanel?, slice?_of_le (Nat.sub_le _ _) (Nat.le_refl _), List.take_length]
  rfl

/-! ### The screen -/

/-- The screen can be drawn if memory is complete and the program counter is in it or right behind
it. -/
theorem draw?_eq_some (hcells : d.cpu.mem.cells.length = addressCount) (hpc : d.pc ≤ addressCount)
    (hheight : d.pc + height < UInt64.size) (hrows : d.firstRow + height < UInt64.size)
    (width : Nat) : d.draw? width height = some (d.draw width height) := by
  rw [draw?, disassemblyPanel?_eq_some (hcells ▸ hpc) (by omega), registerPanel?_eq_some,
    memoryPanel?_eq_some hcells (by omega), outputPanel?_eq_some]
  rfl

end ByteMachine.Debugger
