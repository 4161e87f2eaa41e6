import ByteMachine.Proofs.Debugger.Machine
import ByteMachine.Proofs.Debugger.Window
import ByteMachine.Proofs.Listing.Cut

/-!
# The rows above the current one

The memory in front of the program counter is swept from address 0, like a listing of the whole
memory, but it is cut off at the program counter first.  Where a row of the listing ends at the
program counter both show the same rows.  Where none does, a row lies across it, and what is left of
that row is shown byte by byte, its operands among them.

## Main definitions

- `Debugger.IsListed` — a row that the listing of the memory has in front of the program counter

## Main statements

- `Debugger.takeWhile_window` — the rows in front of the current one
- `Debugger.shown_before_current` — which of them are listed, and when all of them are
- `Debugger.operand_shown_before_current` — an operand that is shown as an instruction
-/

namespace ByteMachine.Debugger

/-- The listing of the memory has a row with the same address and text, and it ends at or before the
program counter. -/
def IsListed (d : Debugger) (row : Row) : Prop :=
  ∃ listed ∈ listing d.cpu.mem.cells, listed.stop ≤ d.pc ∧ listed.addr = row.addr ∧
    listed.chunk.text = row.chunk.text

instance (d : Debugger) (row : Row) : Decidable (d.IsListed row) :=
  inferInstanceAs (Decidable (∃ listed ∈ _, _))

variable {d : Debugger} {lines : Nat} {row across : Row}

theorem takeWhile_window (hcells : d.cpu.mem.cells.length = addressCount) (hpc : d.pc < addressCount)
    (hlines : 1 ≤ lines) :
    (d.window lines).takeWhile (!·.current) = (d.rowsAbove lines).map (⟨·, false⟩) := by
  have habove : ∀ r ∈ (d.rowsAbove lines).map (⟨·, false⟩), (!WindowRow.current r) = true := by
    intro r hr
    obtain ⟨row, -, rfl⟩ := List.mem_map.1 hr
    rfl
  rw [window_eq hcells hpc hlines, List.takeWhile_append_of_pos habove,
    List.takeWhile_cons_of_neg (by simp), List.append_nil]

/-- A row of the window in front of the current one is a row of the memory cut off at the program
counter. -/
theorem mem_rowsAbove (h : row ∈ d.rowsAbove lines) : row ∈ listing (d.cpu.mem.cells.take d.pc) :=
  List.mem_of_mem_drop h

theorem not_isListed_of_stump (h : Stump d.cpu.mem.cells d.pc across row) : ¬d.IsListed row := by
  rintro ⟨listed, hmem, hstop, haddr, -⟩
  exact h.not_stop_le hmem haddr hstop

theorem isListed_or_stump (hpc : d.pc ≤ d.cpu.mem.cells.length) (h : row ∈ d.rowsAbove lines) :
    d.IsListed row ∨ ∃ across, Stump d.cpu.mem.cells d.pc across row := by
  rcases mem_listing_take hpc (mem_rowsAbove h) with ⟨hmem, hstop⟩ | hstump
  · exact .inl ⟨row, hmem, hstop, rfl, rfl⟩
  · exact .inr hstump

/-- If two lines or more are shown, and a row of the listing lies across the program counter, what
is left of it is shown. -/
theorem exists_stump_above (hpc : d.pc ≤ d.cpu.mem.cells.length) (hlines : 2 ≤ lines)
    (hacross : across ∈ listing d.cpu.mem.cells) (hlies : across.LiesAcross d.pc) :
    ∃ row ∈ d.rowsAbove lines, Stump d.cpu.mem.cells d.pc across row := by
  obtain ⟨row, hlast, hstump⟩ := exists_stump hpc hacross hlies
  have hhalf : 1 ≤ lines / 2 := by omega
  obtain ⟨front, hrows⟩ := List.getLast?_eq_some_iff.1 hlast
  refine ⟨row, ?_, hstump⟩
  rw [rowsAbove, hrows, List.length_append, List.length_singleton,
    List.drop_append_of_le_length (by omega)]
  exact List.mem_append_right _ List.mem_cons_self

/-- **What is shown before the current row.**  Take any operations on a new debugger with any
program, after which the program counter is an address, and any number of lines.  A row before the
current one is a row of the listing of the memory that ends at or before the program counter, unless
it shows a single byte of a row of the listing that lies across the program counter, and then it is
none.  No such byte is shown exactly if a row of the listing begins at the program counter, or if
only one line is shown. -/
theorem shown_before_current (program : List Byte) (ops : List Op) (lines : Nat)
    (hpc : (ops.foldl perform (new program)).pc ≤ 255) (hlines : 1 ≤ lines) :
    let d := ops.foldl perform (new program)
    let before := (d.window lines).takeWhile (!·.current)
    (∀ r ∈ before, d.IsListed r.row ↔ ¬∃ across, Stump d.cpu.mem.cells d.pc across r.row) ∧
    ((∀ r ∈ before, d.IsListed r.row) ↔
      lines = 1 ∨ ∃ row ∈ listing d.cpu.mem.cells, row.addr = d.pc) := by
  intro d before
  obtain ⟨count, hsound⟩ := exists_sound program ops
  have hcells : d.cpu.mem.cells.length = addressCount := hsound.length_cells
  have hlt : d.pc < addressCount := Nat.lt_succ_of_le hpc
  have hle : d.pc ≤ d.cpu.mem.cells.length := hcells ▸ hlt.le
  have hbefore : before = (d.rowsAbove lines).map (⟨·, false⟩) := takeWhile_window hcells hlt hlines
  have hlisted : ∀ row ∈ d.rowsAbove lines,
      d.IsListed row ↔ ¬∃ across, Stump d.cpu.mem.cells d.pc across row := by
    intro row hrow
    constructor
    · rintro h ⟨across, hstump⟩
      exact not_isListed_of_stump hstump h
    · exact (isListed_or_stump hle hrow).resolve_right
  rw [hbefore, List.forall_mem_map, List.forall_mem_map]
  refine ⟨hlisted, ?_, ?_⟩
  · intro hall
    by_contra! hnone
    have htwo : 2 ≤ lines := Nat.lt_of_le_of_ne hlines (Ne.symm hnone.1)
    obtain ⟨across, hmem, hlies⟩ := exists_liesAcross (hcells ▸ hlt)
      (fun ⟨row, hrow, haddr⟩ => hnone.2 row hrow haddr)
    obtain ⟨row, hrow, hstump⟩ := exists_stump_above hle htwo hmem hlies
    exact not_isListed_of_stump hstump (hall row hrow)
  · rintro (rfl | ⟨row, hrow, haddr⟩) shown hshown
    · have hnone : (d.rowsAbove 1).length = 0 := by
        rw [length_rowsAbove]
        exact Nat.zero_min _
      rw [List.eq_nil_of_length_eq_zero hnone] at hshown
      exact nomatch hshown
    · rw [hlisted shown hshown]
      rintro ⟨across, hstump⟩
      exact not_liesAcross_of_mem hrow hstump.across_mem (haddr ▸ hstump.liesAcross)

/-- A program that calls the address of an operand of its first instruction. -/
def callingOperand : List Byte :=
  Instr.encodeList [.ldi 1 2, .call 1]

/-- In front of the call, all that is shown before it is listed. -/
theorem shown_before_current_call :
    let d := [Op.step].foldl perform (new callingOperand)
    d.pc = 3 ∧ ∀ r ∈ (d.window 4).takeWhile (!·.current), d.IsListed r.row := by
  intro d
  have hpc : d.pc = 3 := by decide +kernel
  obtain ⟨-, hall⟩ := shown_before_current callingOperand [.step] 4 (hpc ▸ by decide) (by decide)
  exact ⟨hpc, hall.2 (.inr (by decide +kernel))⟩

/-- After the call, the operand before the current row is shown as an instruction.  The listing has
the whole instruction there. -/
theorem operand_shown_before_current :
    let d := [Op.step, .step].foldl perform (new callingOperand)
    d.pc = 2 ∧ ⟨0, .instr (.ldi 1 2)⟩ ∈ listing d.cpu.mem.cells ∧
      ∃ r ∈ (d.window 4).takeWhile (!·.current), r.row = ⟨1, .instr .hlt⟩ ∧ ¬d.IsListed r.row := by
  decide +kernel

end ByteMachine.Debugger
