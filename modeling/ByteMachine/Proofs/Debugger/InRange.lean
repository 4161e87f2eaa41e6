import ByteMachine.Proofs.Debugger.Drawing
import ByteMachine.Proofs.Debugger.Reset

/-!
# Views within their data

Whatever is done with a debugger, its program counter stands in memory or right behind it, and the
memory view is scrolled to a row of memory.  So everything that is drawn is there, also when a
program has run to the end of memory, and when it was too large to be loaded.

## Main definitions

- `Debugger.InRange` — what the views rely on

## Main statements

- `Debugger.InRange.perform`, `Debugger.inRange_foldl_perform` — one operation, and any number of
  them
- `Debugger.views_inRange` — the bounds, and the views with checked access
-/

namespace ByteMachine.Debugger

open Checked

/-- The machine is one that can come about, the memory view begins with a row of memory, and the
breakpoints are at addresses where the program counter can stand. -/
structure InRange (d : Debugger) : Prop where
  machine : ∃ count, d.cpu.Sound count
  firstRow_lt : d.firstRow < rowCount
  breakpoints_le : ∀ addr ∈ d.breakpoints, addr ≤ addressCount

variable {d d' : Debugger}

theorem mem_insertSorted {n addr : Nat} {addrs : List Nat} :
    addr ∈ insertSorted n addrs ↔ addr = n ∨ addr ∈ addrs := by
  induction addrs with
  | nil => simp [insertSorted]
  | cons first rest ih =>
    unfold insertSorted
    split
    · exact List.mem_cons
    · rw [List.mem_cons, ih, List.mem_cons]
      exact or_left_comm

/-! ### What operations leave alone -/

/-- The first row of the memory view and the breakpoints are the same. -/
def SameView (d d' : Debugger) : Prop :=
  d'.firstRow = d.firstRow ∧ d'.breakpoints = d.breakpoints

theorem sameView_step (d : Debugger) : d.SameView d.step := by
  obtain ⟨cpu, output, running, status, hstep⟩ := d.step_eq
  rw [hstep]
  exact ⟨rfl, rfl⟩

theorem sameView_tick (d : Debugger) : d.SameView d.tick := by
  obtain ⟨cpu, output, running, passing, status, htick⟩ := d.tick_eq
  rw [htick]
  exact ⟨rfl, rfl⟩

theorem sameView_reset (d : Debugger) : d.SameView d.reset := by
  obtain ⟨status, hreset⟩ := restart_eq { d with running := false, status := .reset }
  rw [reset, hreset]
  exact ⟨rfl, rfl⟩

/-! ### The bounds -/

/-- Scrolling stops at the last row, so it makes no difference if the row that it should reach is
cut off at the end of the words first. -/
theorem firstRow_scroll (d : Debugger) (rows : Int) :
    (d.scroll rows).firstRow = min (cappedShift d.firstRow rows) (rowCount - 1) :=
  (min_cappedShift (by decide)).symm

theorem mem_breakpoints_flipBreakpoint {addr : Nat} (h : addr ∈ d.flipBreakpoint.breakpoints) :
    addr = d.pc ∨ addr ∈ d.breakpoints := by
  unfold flipBreakpoint at h
  split at h
  · exact .inr (List.mem_of_mem_filter h)
  · exact mem_insertSorted.1 h

namespace InRange

theorem length_cells (h : d.InRange) : d.cpu.mem.cells.length = addressCount :=
  h.machine.choose_spec.length_cells

theorem pc_le (h : d.InRange) : d.pc ≤ addressCount :=
  h.machine.choose_spec.pc_le

theorem of_sameView (h : d.InRange) (hsame : d.SameView d')
    (hmachine : ∃ count, d'.cpu.Sound count) : d'.InRange :=
  ⟨hmachine, hsame.1 ▸ h.firstRow_lt, hsame.2 ▸ h.breakpoints_le⟩

theorem new (program : List Byte) : (new program).InRange := by
  have hrows : 0 < rowCount := by decide
  refine ⟨sound_restart _, ?_, ?_⟩
  · rw [new_eq]
    exact hrows
  · rw [new_eq]
    exact List.forall_mem_nil _

theorem perform (h : d.InRange) (op : Op) : (d.perform op).InRange := by
  obtain ⟨count, hsound⟩ := h.machine
  have hmachine := sound_perform hsound op
  cases op with
  | run => exact h.of_sameView ⟨rfl, rfl⟩ hmachine
  | step => exact h.of_sameView d.sameView_step hmachine
  | tick => exact h.of_sameView d.sameView_tick hmachine
  | reset => exact h.of_sameView d.sameView_reset hmachine
  | flipBreakpoint =>
    have hrow : d.flipBreakpoint.firstRow = d.firstRow := by
      unfold Debugger.flipBreakpoint
      split <;> rfl
    refine ⟨hmachine, hrow ▸ h.firstRow_lt, fun addr haddr => ?_⟩
    rcases mem_breakpoints_flipBreakpoint haddr with rfl | hold
    · exact h.pc_le
    · exact h.breakpoints_le addr hold
  | scroll rows =>
    refine ⟨hmachine, ?_, h.breakpoints_le⟩
    have hlast : (d.scroll rows).firstRow ≤ rowCount - 1 := Nat.min_le_right _ _
    exact Nat.lt_of_le_of_lt hlast (by decide)

end InRange

theorem inRange_foldl_perform (program : List Byte) (ops : List Op) :
    (ops.foldl perform (new program)).InRange := by
  induction ops using List.reverseRecOn with
  | nil => exact .new program
  | append_singleton ops op ih =>
    rw [List.foldl_append]
    exact ih.perform op

/-! ### The views -/

/-- **The views of a debugger are always in range.**  Take a new debugger with any program and any
operations on it, scrolling by any number of rows among them.  The memory view begins with one of 32
rows, the program counter is at most 256, memory has 256 cells, and no breakpoint is behind 256.
However far it is scrolled next, words of 64 bits are enough to find the row.  A window of up to
65535 lines can be computed in such words from a slice of memory, and shows rows that end within
memory.  The panels of the disassembly, the registers, the memory and the output can be drawn in any
height up to this, and so can the screen, with slices and indices that must lie within the lists. -/
theorem views_inRange (program : List Byte) (ops : List Op) :
    let d := ops.foldl perform (new program)
    d.firstRow ≤ 31 ∧ d.pc ≤ 256 ∧ d.cpu.mem.cells.length = 256 ∧
    (∀ addr ∈ d.breakpoints, addr ≤ 256) ∧
    (∀ rows : Int, (d.scroll rows).firstRow = min (cappedShift d.firstRow rows) 31) ∧
    (∀ lines ≤ 65535, d.window? lines = some (d.window lines) ∧
      ∀ r ∈ d.window lines, r.row.stop ≤ 256) ∧
    ∀ width height, height ≤ 65535 →
      d.disassemblyPanel? width height = some (d.disassemblyPanel width height) ∧
      d.registerPanel? width height = some (d.registerPanel width height) ∧
      d.memoryPanel? width height = some (d.memoryPanel width height) ∧
      d.outputPanel? width height = some (d.outputPanel width height) ∧
      d.draw? width height = some (d.draw width height) := by
  intro d
  have h : d.InRange := inRange_foldl_perform program ops
  have hcells := h.length_cells
  have hpc : d.pc ≤ 256 := h.pc_le
  have hrow : d.firstRow ≤ 31 := Nat.le_of_lt_succ h.firstRow_lt
  have hword : ∀ n ≤ 65535, 256 + n < UInt64.size := by
    intro n hn
    exact Nat.lt_of_le_of_lt (Nat.add_le_add_left hn 256) (by decide)
  refine ⟨hrow, hpc, hcells, h.breakpoints_le, d.firstRow_scroll, ?_, ?_⟩
  · intro lines hlines
    have := hword lines hlines
    exact ⟨window?_eq_some (hcells ▸ hpc) (by omega), fun r => stop_le_of_mem_window hcells hpc⟩
  · intro width height hheight
    have := hword height hheight
    exact ⟨disassemblyPanel?_eq_some (hcells ▸ hpc) (by omega) width,
      registerPanel?_eq_some d width height, memoryPanel?_eq_some hcells (by omega) width,
      outputPanel?_eq_some d width height, draw?_eq_some hcells hpc (by omega) (by omega) width⟩

/-- A program that jumps to the last instruction of memory, which ends with it. -/
def endingWithMemory : List Byte :=
  Instr.encodeList [.ldi 0 254, .call 0] ++ List.replicate 249 0 ++ Instr.encodeList [.prn 0]

/-- Run to the end of memory, set a breakpoint there, and scroll as far as possible. -/
def toTheEnd : List Op :=
  [.step, .step, .step, .flipBreakpoint, .scroll 0x7FFFFFFFFFFFFFFF]

/-- With the program counter and a breakpoint behind memory and the last row on top of the memory
view, everything can be drawn; and so it can with a program of 257 bytes. -/
theorem views_inRange_behindMemory :
    let d := toTheEnd.foldl perform (new endingWithMemory)
    d.pc = 256 ∧ d.breakpoints = [256] ∧ d.firstRow = 31 ∧
      d.window? 65535 = some (d.window 65535) ∧ d.draw? 80 24 = some (d.draw 80 24) ∧
      let d' := toTheEnd.foldl perform (new (List.replicate 257 0))
      d'.window? 65535 = some (d'.window 65535) ∧ d'.draw? 80 24 = some (d'.draw 80 24) := by
  intro d
  obtain ⟨-, -, -, -, -, hwindow, hviews⟩ := views_inRange endingWithMemory toTheEnd
  obtain ⟨-, -, -, -, -, hwindow', hviews'⟩ := views_inRange (List.replicate 257 0) toTheEnd
  have hpc : d.pc = 256 := by decide +kernel
  have hbreakpoints : d.breakpoints = [256] := by decide +kernel
  have hrow : d.firstRow = 31 := by decide +kernel
  exact ⟨hpc, hbreakpoints, hrow, (hwindow 65535 (by decide)).1,
    (hviews 80 24 (by decide)).2.2.2.2, (hwindow' 65535 (by decide)).1,
    (hviews' 80 24 (by decide)).2.2.2.2⟩

end ByteMachine.Debugger
