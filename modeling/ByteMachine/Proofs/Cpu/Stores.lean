import ByteMachine.Proofs.Cpu.Stack

/-!
# What a run stores

Memory is changed by the instructions that put a byte on the stack: each of them stores into the
cell below the stack pointer.  So everything that a run leaves in memory is what was there before or
the byte of the latest store into that cell, however stores overwrite each other or the code.

Both the stack pointer of a store and the byte that it saves are those of the machine in front of
the instruction.

## Main definitions

- `Cpu.StoresAt` — an instruction that stores into a cell
- `Cpu.IsLatestStore` — the last instruction of a run that stores into a cell

## Main statements

- `Cpu.cells_step`, `Cpu.cell_of_storesAt` — one step
- `Cpu.IsRun.cell_eq_or_stored`, `Cpu.IsRun.output_eq` — a whole run
- `Cpu.run_frame` — what a run may touch, registers and output included
-/

namespace ByteMachine.Cpu

/-- The instruction puts a byte on the stack, into the cell at the address. -/
def StoresAt (cpu : Cpu) (instr : Instr) (addr : Nat) : Prop :=
  instr.isPush = true ∧ cpu.regs.sp.toNat = addr + 1

instance (cpu : Cpu) (instr : Instr) (addr : Nat) : Decidable (cpu.StoresAt instr addr) :=
  inferInstanceAs (Decidable (_ ∧ _))

/-- Among the first `n` instructions of a run, number `k` is the last that stores into the cell. -/
structure IsLatestStore (cpu : Nat → Cpu) (instr : Nat → Instr) (n addr k : Nat) : Prop where
  lt : k < n
  storesAt : (cpu k).StoresAt (instr k) addr
  latest : ∀ j, k < j → j < n → ¬(cpu j).StoresAt (instr j) addr

variable {cpu mid : Cpu} {instr : Instr} {reg : Byte} {addr : Nat}

/-! ## One step -/

/-- A step changes no cell but the one into which its instruction stores. -/
theorem cells_step (hcells : cpu.mem.cells.length = addressCount) (h : step cpu = .ok instr mid)
    (hstores : ¬cpu.StoresAt instr addr) : mid.mem.cells[addr]? = cpu.mem.cells[addr]? := by
  cases hpush : instr.isPush with
  | true =>
    obtain ⟨value, -, hsp, hmem⟩ := step_push hcells h hpush
    have hne : mid.regs.sp.toNat ≠ addr := fun heq => hstores ⟨hpush, heq ▸ hsp⟩
    rw [hmem, List.getElem?_set_ne hne]
  | false => rw [mem_step h hpush]

/-- The cell into which an instruction stores holds what it saves. -/
theorem cell_of_storesAt (hcells : cpu.mem.cells.length = addressCount)
    (h : step cpu = .ok instr mid) (hstores : cpu.StoresAt instr addr) :
    ∃ value : Byte, cpu.saved instr = some value.toNat ∧ mid.mem.cells[addr]? = some value := by
  obtain ⟨hpush, haddr⟩ := hstores
  obtain ⟨value, hsaved, hsp, hmem⟩ := step_push hcells h hpush
  obtain rfl : mid.regs.sp.toNat = addr := by omega
  have hlt : mid.regs.sp.toNat < cpu.mem.cells.length := hcells ▸ mid.regs.sp.toNat_lt
  exact ⟨value, hsaved, by rw [hmem, List.getElem?_set_self hlt]⟩

/-- A `prn` prints the value of its register. -/
theorem printed_prn (h : step cpu = .ok (.prn reg) mid) :
    ∃ value, cpu.regs.get reg = .ok value ∧ cpu.printed (.prn reg) = [value] := by
  obtain ⟨-, -, next, -, mid, hmid, -⟩ := step_eq_ok_iff.1 h
  obtain ⟨value, hvalue, -⟩ := bind_eq_ok_iff.1 hmid
  have hget := mapError_eq_ok_iff.1 hvalue
  exact ⟨value, hget, by rw [printed, hget]; rfl⟩

/-! ## Runs -/

section Runs

variable {cpu : Nat → Cpu} {instr : Nat → Instr} {n k : Nat}

theorem isLatestStore_last (hstores : (cpu n).StoresAt (instr n) addr) :
    IsLatestStore cpu instr (n + 1) addr n :=
  ⟨n.lt_succ_self, hstores, fun _ hlt hle => absurd hlt (Nat.not_lt.2 (Nat.le_of_lt_succ hle))⟩

/-- A store stays the latest as long as no other one follows. -/
theorem IsLatestStore.succ (h : IsLatestStore cpu instr n addr k)
    (hstores : ¬(cpu n).StoresAt (instr n) addr) : IsLatestStore cpu instr (n + 1) addr k := by
  refine ⟨h.lt.trans n.lt_succ_self, h.storesAt, fun j hkj hj => ?_⟩
  rcases Nat.lt_succ_iff_lt_or_eq.1 hj with hj | rfl
  · exact h.latest j hkj hj
  · exact hstores

namespace IsRun

/-- A cell holds what it held at the beginning, if no instruction of the run stores into it, and
otherwise what the latest one has saved. -/
theorem cell_eq_or_stored (h : IsRun cpu instr n)
    (hcells : (cpu 0).mem.cells.length = addressCount) (hk : k ≤ n) (addr : Nat) :
    (∀ j < k, ¬(cpu j).StoresAt (instr j) addr) ∧
        (cpu k).mem.cells[addr]? = (cpu 0).mem.cells[addr]? ∨
      ∃ j, IsLatestStore cpu instr k addr j ∧ ∃ value : Byte,
        (cpu j).saved (instr j) = some value.toNat ∧ (cpu k).mem.cells[addr]? = some value := by
  induction k with
  | zero => exact .inl ⟨fun j hj => absurd hj (Nat.not_lt_zero j), rfl⟩
  | succ k ih =>
    have hlen := (h.length_cells (Nat.le_of_succ_le hk)).trans hcells
    by_cases hstores : (cpu k).StoresAt (instr k) addr
    · exact .inr ⟨k, isLatestStore_last hstores, cell_of_storesAt hlen (h k hk) hstores⟩
    rw [cells_step hlen (h k hk) hstores]
    rcases ih (Nat.le_of_succ_le hk) with ⟨hnone, hsame⟩ | ⟨j, hlatest, hstored⟩
    · exact .inl ⟨Nat.forall_lt_succ_right.2 ⟨hnone, hstores⟩, hsame⟩
    · exact .inr ⟨j, hlatest.succ hstores, hstored⟩

/-- A run prints what its instructions print, in order. -/
theorem output_eq (h : IsRun cpu instr n) (hk : k ≤ n) :
    (cpu k).output =
      (cpu 0).output ++ (List.range k).flatMap fun j => (cpu j).printed (instr j) := by
  induction k with
  | zero => simp
  | succ k ih =>
    rw [output_step (h k hk), ih (Nat.le_of_succ_le hk), List.range_succ, List.flatMap_append,
      List.append_assoc, List.flatMap_singleton]

end IsRun

end Runs

/-- **What a run may touch.**  Take any run from a full memory.

* A cell holds at its end what it held at the beginning, and then no instruction has stored into it,
  or what the last instruction that did has saved: a register of the machine in front of a `push`,
  or the address behind a `call`.
* The output has grown by what the instructions have printed, in order, and each `prn` prints the
  value of its register.
* A step changes no register but the destination of its instruction and, if that works on the stack,
  the stack pointer. -/
theorem run_frame {cpu : Nat → Cpu} {instr : Nat → Instr} {n : Nat} (hrun : IsRun cpu instr n)
    (hcells : (cpu 0).mem.cells.length = addressCount) :
    (∀ addr,
      (∀ k < n, ¬(cpu k).StoresAt (instr k) addr) ∧
          (cpu n).mem.cells[addr]? = (cpu 0).mem.cells[addr]? ∨
        ∃ k, IsLatestStore cpu instr n addr k ∧ ∃ value : Byte,
          (cpu k).saved (instr k) = some value.toNat ∧ (cpu n).mem.cells[addr]? = some value) ∧
    (cpu n).output =
      (cpu 0).output ++ ((List.range n).flatMap fun k => (cpu k).printed (instr k)) ∧
    ∀ k < n,
      (∀ reg, instr k = .prn reg →
        ∃ value, (cpu k).regs.get reg = .ok value ∧ (cpu k).printed (instr k) = [value]) ∧
      ∀ reg ∉ (instr k).changes, (cpu (k + 1)).regs.get reg = (cpu k).regs.get reg := by
  refine ⟨hrun.cell_eq_or_stored hcells le_rfl, hrun.output_eq le_rfl, fun k hk => ⟨?_, ?_⟩⟩
  · intro reg hprn
    have hstep := hrun k hk
    rw [hprn] at hstep ⊢
    exact printed_prn hstep
  · exact fun reg hreg => get_step (hrun k hk) hreg

/-- Instructions that push the stack pointer, pop it, and push it again. -/
def stackPointerMoves : List Instr :=
  [.push 7, .pop 7, .push 7, .prn 7]

/-- A machine that is about to execute them. -/
def movingStack : Cpu :=
  loaded (Instr.encodeList stackPointerMoves)

/-- The first push stores the stack pointer from before it into cell 243.  Popping that value into
the stack pointer leaves it one above, so the second push stores one address higher. -/
theorem run_frame_movingStack :
    let instr := (stackPointerMoves.getD · .hlt)
    IsRun movingStack.after instr 4 ∧ IsLatestStore movingStack.after instr 4 244 2 ∧
      (movingStack.after 4).mem.cells[244]? = some 245 ∧
      (movingStack.after 4).output = [244] := by
  intro instr
  have hrun : IsRun movingStack.after instr 4 := by
    unfold IsRun
    decide +kernel
  obtain ⟨hcell, houtput, -⟩ := run_frame hrun (by decide +kernel)
  rw [houtput]
  rcases hcell 244 with ⟨hnone, -⟩ | ⟨k, hlatest, value, hsaved, hvalue⟩
  · exact absurd (hnone 2 (by decide)) (by decide +kernel)
  have hothers : ∀ j < 4, (movingStack.after j).StoresAt (instr j) 244 → j = 2 := by
    decide +kernel
  obtain rfl := hothers k hlatest.lt hlatest.storesAt
  have hsecond : (movingStack.after 2).saved (instr 2) = some (245 : Byte).toNat := by
    decide +kernel
  have h245 : value = 245 := UInt8.toNat_inj.1 (Option.some.inj (hsaved.symm.trans hsecond))
  exact ⟨hrun, hlatest, h245 ▸ hvalue, by decide +kernel⟩

end ByteMachine.Cpu
