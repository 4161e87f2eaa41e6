import ByteMachine.Debugger.Window
import ByteMachine.Proofs.Listing.Tiling

/-!
# The shape of the disassembly window

The window is cut out of two groups of rows, those before the program counter and those from it on.
Every row takes at least one address, so there are at most as many rows before the program counter
as addresses, and the bound on the number of rows in all never keeps the window from being filled.

## Main definitions

- `Debugger.currentRow` — the row at the program counter
- `Debugger.rowsAbove`, `Debugger.rowsBelow` — the rows of the window before and behind it

## Main statements

- `Debugger.rowsBefore_eq` — no row in front of the program counter is left out
- `Debugger.window_eq` — the window consists of these three parts
- `Debugger.tiles_window` — its rows stand side by side
- `Debugger.window_wellFormed` — both, with the number of the rows
-/

namespace ByteMachine.Debugger

/-- The row at the program counter. -/
def currentRow (d : Debugger) : Row :=
  ⟨d.pc, Chunk.read d.cpu.mem.cells d.pc⟩

/-- The last rows in front of the program counter, as many as half of the window has room for. -/
def rowsAbove (d : Debugger) (lines : Nat) : List Row :=
  let rows := listing (d.cpu.mem.cells.take d.pc)
  rows.drop (rows.length - lines / 2)

/-- The rows behind the current one that the rest of the window has room for. -/
def rowsBelow (d : Debugger) (lines : Nat) : List Row :=
  (sweep d.cpu.mem.cells d.currentRow.stop).take (lines - 1 - (d.rowsAbove lines).length)

variable {d : Debugger} {lines : Nat}

/-! ### The three parts -/

theorem rowsFrom_eq (hcells : d.cpu.mem.cells.length = addressCount) (room addr : Nat) :
    d.rowsFrom room addr =
      ((sweep d.cpu.mem.cells addr).take room).map fun row => ⟨row, row.addr = d.pc⟩ := by
  induction room generalizing addr with
  | zero => rfl
  | succ room ih =>
    rw [rowsFrom]
    by_cases hlt : addr < addressCount
    · rw [if_pos hlt, sweep_of_lt (hcells ▸ hlt), List.take_succ_cons, List.map_cons]
      exact congrArg (List.cons _) (ih _)
    · rw [if_neg hlt, sweep_of_le (hcells ▸ Nat.le_of_not_lt hlt), List.take_nil, List.map_nil]

/-- From the program counter on, only the first row is the current one. -/
theorem rowsFrom_pc (hcells : d.cpu.mem.cells.length = addressCount) (hpc : d.pc < addressCount)
    (room : Nat) :
    d.rowsFrom (room + 1) d.pc =
      ⟨d.currentRow, true⟩ ::
        ((sweep d.cpu.mem.cells d.currentRow.stop).take room).map fun row => ⟨row, false⟩ := by
  rw [rowsFrom_eq hcells, sweep_of_lt (hcells ▸ hpc), List.take_succ_cons, List.map_cons]
  have hfirst : (⟨d.currentRow, d.currentRow.addr = d.pc⟩ : WindowRow) = ⟨d.currentRow, true⟩ := by
    rw [currentRow, decide_eq_true rfl]
  refine congrArg₂ List.cons hfirst (List.map_congr_left fun row hrow => ?_)
  have hlater : d.pc < row.addr :=
    Nat.lt_of_lt_of_le d.currentRow.addr_lt_stop (le_addr_of_mem_sweep (List.mem_of_mem_take hrow))
  rw [decide_eq_false (Nat.ne_of_gt hlater)]

/-- None of the rows ends behind the program counter, because the code is cut off there. -/
theorem rowsBefore_eq (d : Debugger) :
    d.rowsBefore = (listing (d.cpu.mem.cells.take d.pc)).map fun row => ⟨row, false⟩ := by
  have hkeep : ∀ row ∈ listing (d.cpu.mem.cells.take d.pc), decide (row.stop ≤ d.pc) = true := by
    intro row hrow
    have hstop := ((tiles_listing _).bounds_of_mem hrow).2
    exact decide_eq_true (hstop.trans (List.length_take_le _ _))
  rw [rowsBefore, List.filter_eq_self.2 hkeep]

theorem length_listing_take_le (hpc : d.pc ≤ d.cpu.mem.cells.length) :
    (listing (d.cpu.mem.cells.take d.pc)).length ≤ d.pc := by
  have h := (tiles_listing (d.cpu.mem.cells.take d.pc)).length_le
  rwa [Nat.zero_add, List.length_take_of_le hpc] at h

theorem length_rowsAbove (d : Debugger) (lines : Nat) :
    (d.rowsAbove lines).length = min (lines / 2) d.rowsBefore.length := by
  rw [rowsAbove, rowsBefore_eq, List.length_map, List.length_drop]
  omega

/-- The current row is the first one that is marked. -/
theorem findIdx?_rowsAround (hcells : d.cpu.mem.cells.length = addressCount)
    (hpc : d.pc < addressCount) {rows : List WindowRow} {room : Nat}
    (h : rows = d.rowsBefore ++ d.rowsFrom (room + 1) d.pc) :
    rows.findIdx? (·.current) = some d.rowsBefore.length := by
  have hbefore : d.rowsBefore.findIdx? (·.current) = none := by
    rw [List.findIdx?_eq_none_iff]
    intro row hrow
    obtain ⟨row, -, rfl⟩ := List.mem_map.1 hrow
    rfl
  rw [h, List.findIdx?_append, hbefore, rowsFrom_pc hcells hpc, List.findIdx?_cons]
  simp

theorem window_eq (hcells : d.cpu.mem.cells.length = addressCount) (hpc : d.pc < addressCount)
    (hlines : 1 ≤ lines) :
    d.window lines =
      (d.rowsAbove lines).map (⟨·, false⟩) ++
        ⟨d.currentRow, true⟩ :: (d.rowsBelow lines).map (⟨·, false⟩) := by
  have hle : d.rowsBefore.length ≤ d.pc := by
    rw [rowsBefore_eq, List.length_map]
    exact length_listing_take_le (hcells ▸ hpc.le)
  have habove := d.length_rowsAbove lines
  -- the rows from the program counter on would fill the window alone
  obtain ⟨room, hroom⟩ : ∃ room, d.pc + lines - d.rowsBefore.length = room + 1 :=
    ⟨d.pc + lines - d.rowsBefore.length - 1, by omega⟩
  have haround : d.rowsAround lines = d.rowsBefore ++ d.rowsFrom (room + 1) d.pc := by
    rw [rowsAround, hroom]
  have hdrop : d.rowsBefore.drop (d.rowsBefore.length - lines / 2) =
      (d.rowsAbove lines).map (⟨·, false⟩) := by
    rw [rowsAbove, List.map_drop, rowsBefore_eq, List.length_map]
  have hfits : ((d.rowsAbove lines).map fun row => (⟨row, false⟩ : WindowRow)).length ≤ lines := by
    rw [List.length_map]
    omega
  have hrest : lines - (d.rowsAbove lines).length = lines - 1 - (d.rowsAbove lines).length + 1 := by
    omega
  have hbelow : min (lines - 1 - (d.rowsAbove lines).length) room =
      lines - 1 - (d.rowsAbove lines).length := by
    omega
  rw [window, findIdx?_rowsAround hcells hpc haround, Option.getD_some, haround,
    List.drop_append_of_le_length (Nat.sub_le _ _), hdrop, rowsFrom_pc hcells hpc, List.take_append,
    List.take_of_length_le hfits, List.length_map, hrest, List.take_succ_cons, ← List.map_take,
    List.take_take, hbelow, rowsBelow]

theorem map_row_window (hcells : d.cpu.mem.cells.length = addressCount) (hpc : d.pc < addressCount)
    (hlines : 1 ≤ lines) :
    (d.window lines).map (·.row) = d.rowsAbove lines ++ d.currentRow :: d.rowsBelow lines := by
  rw [window_eq hcells hpc hlines, List.map_append, List.map_cons, List.map_map, List.map_map]
  exact congrArg₂ (· ++ _ :: ·) (List.map_id _) (List.map_id _)

/-! ### Side by side -/

/-- The rows above end at the program counter. -/
theorem tiles_rowsAbove (hpc : d.pc ≤ d.cpu.mem.cells.length) (lines : Nat) :
    ∃ first, Tiles first (d.rowsAbove lines) d.pc := by
  have h := tiles_listing (d.cpu.mem.cells.take d.pc)
  rw [List.length_take_of_le hpc, ← List.take_append_drop
    ((listing (d.cpu.mem.cells.take d.pc)).length - lines / 2)
    (listing (d.cpu.mem.cells.take d.pc))] at h
  obtain ⟨first, -, habove⟩ := tiles_append.1 h
  exact ⟨first, habove⟩

/-- The rows below reach the end of memory if they do not fill the window. -/
theorem tiles_rowsBelow (hpc : d.pc < d.cpu.mem.cells.length) (lines : Nat) :
    ∃ last, Tiles d.currentRow.stop (d.rowsBelow lines) last ∧
      ((d.rowsBelow lines).length < lines - 1 - (d.rowsAbove lines).length →
        last = d.cpu.mem.cells.length) := by
  have h : Tiles d.currentRow.stop (sweep d.cpu.mem.cells d.currentRow.stop) _ :=
    tiles_sweep (Chunk.add_width_read_le hpc)
  rw [← List.take_append_drop (lines - 1 - (d.rowsAbove lines).length) (sweep _ _)] at h
  obtain ⟨last, hbelow, hrest⟩ := tiles_append.1 h
  refine ⟨last, hbelow, fun hshort => ?_⟩
  rw [rowsBelow, List.length_take] at hshort
  rw [List.drop_eq_nil_of_le (by omega)] at hrest
  exact hrest

theorem tiles_window (hcells : d.cpu.mem.cells.length = addressCount) (hpc : d.pc < addressCount)
    (hlines : 1 ≤ lines) :
    ∃ first last, Tiles first ((d.window lines).map (·.row)) last ∧
      ((d.window lines).length < lines → last = addressCount) := by
  have hlength := congrArg List.length (map_row_window hcells hpc hlines)
  rw [← hcells] at hpc
  obtain ⟨first, habove⟩ := tiles_rowsAbove hpc.le lines
  obtain ⟨last, hbelow, hend⟩ := tiles_rowsBelow hpc lines
  refine ⟨first, last, ?_, fun hshort => hcells ▸ hend ?_⟩
  · rw [map_row_window hcells (hcells ▸ hpc) hlines]
    exact tiles_append.2 ⟨d.pc, habove, rfl, hbelow⟩
  · rw [List.length_map, List.length_append, List.length_cons] at hlength
    omega

/-- **The disassembly window is well formed.**  Take any debugger with 256 cells whose program
counter is an address, and any number of lines.  The addresses of the rows ascend, and each row
begins where the bytes of the row before it end.  Exactly one row is the current one, the row at the
program counter, and above it stand half as many rows as there are lines, or all rows before the
program counter if there are fewer.  There are as many rows as lines, unless the last row reaches
the end of memory. -/
theorem window_wellFormed (d : Debugger) (lines : Nat) (hcells : d.cpu.mem.cells.length = 256)
    (hpc : d.pc ≤ 255) (hlines : 1 ≤ lines) :
    let shown := d.window lines
    shown.Pairwise (·.row.addr < ·.row.addr) ∧
    shown.IsChain (fun r next => next.row.addr = r.row.addr + r.row.chunk.bytes.length) ∧
    (∃ above current below, shown = above ++ current :: below ∧
      current.current = true ∧ current.row.addr = d.pc ∧
      (∀ r ∈ above ++ below, r.current = false) ∧
      above.length = min (lines / 2) d.rowsBefore.length) ∧
    shown.length ≤ lines ∧ (shown.length = lines ∨ ∃ last ∈ shown.getLast?, last.row.stop = 256) := by
  intro shown
  have hlt : d.pc < addressCount := Nat.lt_succ_of_le hpc
  have hparts : shown = _ := window_eq hcells hlt hlines
  obtain ⟨first, last, htiles, hend⟩ := tiles_window hcells hlt hlines
  have hmarks : ∀ r ∈ (d.rowsAbove lines).map (⟨·, false⟩) ++ (d.rowsBelow lines).map (⟨·, false⟩),
      WindowRow.current r = false := by
    intro r hr
    rw [← List.map_append] at hr
    obtain ⟨row, -, rfl⟩ := List.mem_map.1 hr
    rfl
  have hlength : shown.length ≤ lines := by
    have habove := d.length_rowsAbove lines
    rw [hparts, List.length_append, List.length_cons, List.length_map, List.length_map, rowsBelow,
      List.length_take]
    omega
  refine ⟨?_, ?_, ⟨_, _, _, hparts, rfl, rfl, hmarks, ?_⟩, hlength, ?_⟩
  · exact (List.pairwise_map.1 htiles.pairwise).imp fun hle =>
      Nat.lt_of_lt_of_le (Row.addr_lt_stop _) hle
  · refine ((List.isChain_map _).1 htiles.isChain).imp fun r next hnext => ?_
    rw [hnext, Row.stop, Chunk.length_bytes]
  · rw [List.length_map, length_rowsAbove]
  · rcases Nat.eq_or_lt_of_le hlength with hfull | hshort
    · exact .inl hfull
    · have hne : shown ≠ [] := by
        rw [hparts]
        exact List.append_ne_nil_of_right_ne_nil _ (List.cons_ne_nil _ _)
      refine .inr ⟨_, List.getLast?_eq_some_getLast hne, ?_⟩
      refine (htiles.stop_getLast _ ?_).trans (hend hshort)
      rw [List.getLast?_map, List.getLast?_eq_some_getLast hne]
      rfl

/-- A debugger whose program counter is at the last address of an empty memory. -/
def atLastAddress : Debugger :=
  { new [] with cpu := { Cpu.powerOn with regs := { Registers.powerOn with pc := 255 } } }

/-- In a window of four lines there, the last address is the current row, below two others. -/
theorem window_wellFormed_atLastAddress :
    atLastAddress.cpu.mem.cells.length = 256 ∧ atLastAddress.pc = 255 ∧
    ∃ above current below, atLastAddress.window 4 = above ++ current :: below ∧
      current.row.addr = 255 ∧ above.length = min 2 atLastAddress.rowsBefore.length := by
  have hcells : atLastAddress.cpu.mem.cells.length = 256 := by decide +kernel
  have hpc : atLastAddress.pc = 255 := by decide +kernel
  obtain ⟨-, -, ⟨above, current, below, hparts, -, haddr, -, habove⟩, -⟩ :=
    window_wellFormed atLastAddress 4 hcells hpc.le (by decide)
  exact ⟨hcells, hpc, above, current, below, hparts, haddr.trans hpc, habove⟩

end ByteMachine.Debugger
