import ByteMachine.Proofs.Cpu.Frame
import ByteMachine.Proofs.Cpu.Runs
import Mathlib.Data.Nat.Count
import Mathlib.Data.Nat.Find

/-!
# The stack over whole runs

`push` and `call` put a byte on the stack, `pop` and `ret` take one off, and all four may be mixed.
As long as no instruction stores into the stack pointer by name and no more bytes are taken off
than were put on, the stack works like one: everything from the first top upwards is left alone,
and each byte taken off is the one put on by the instruction that matches as a bracket would.

The code of the program may be overwritten by its own pushes; nothing below assumes otherwise.

## Main definitions

- `Cpu.saved`, `Cpu.delivered` — the number put on the stack and the number taken off it
- `Cpu.depth`, `Cpu.Matches` — bytes on the stack, and the bracket structure of a run

## Main statements

- `Cpu.step_push`, `Cpu.step_pop`, `Cpu.step_other` — one step
- `Cpu.IsRun.sp_eq`, `Cpu.IsRun.cells_eq`, `Cpu.IsRun.delivered_eq` — what a run keeps
- `Cpu.stack_discipline` — all of it together
-/

namespace ByteMachine

namespace Cpu

/-- The number that an instruction saves on the stack of a machine that is about to execute it: the
value of a register, or the address behind a call. -/
def saved (cpu : Cpu) : Instr → Option Nat
  | .push reg => (cpu.regs.get reg).toOption.map UInt8.toNat
  | .call _ => some (cpu.pc + 2)
  | .hlt | .ldi .. | .prn _ | .arith .. | .pop _ | .ret => none

/-- The number that an instruction has got off the stack, as the machine after it shows it: in a
register, or as the address where execution goes on. -/
def delivered (cpu : Cpu) : Instr → Option Nat
  | .pop reg => (cpu.regs.get reg).toOption.map UInt8.toNat
  | .ret => some cpu.pc
  | .hlt | .ldi .. | .prn _ | .arith .. | .push _ | .call _ => none

/-! ## One step -/

theorem toNat_eq_succ_of_ne_zero {b : Byte} (h : b ≠ 0) : b.toNat = (b - 1).toNat + 1 := by
  have hpos : 1 ≤ b.toNat := Nat.one_le_iff_ne_zero.2 fun h0 => h (UInt8.toNat_inj.1 h0)
  rw [UInt8.toNat_sub_of_le b 1 (UInt8.le_iff_toNat_le.2 hpos), UInt8.toNat_one,
    Nat.sub_add_cancel hpos]

theorem toNat_add_one_of_ne {b : Byte} (h : b ≠ 255) : (b + 1).toNat = b.toNat + 1 := by
  have hne : b.toNat ≠ 255 := fun h0 => h (UInt8.toNat_inj.1 h0)
  have hlt := b.toNat_lt
  rw [UInt8.toNat_add, UInt8.toNat_one, Nat.mod_eq_of_lt (by omega)]

theorem saved_push {cpu : Cpu} {reg value : Byte} (h : cpu.regValue reg = .ok value) :
    cpu.saved (.push reg) = some value.toNat := by
  obtain ⟨hreg, rfl⟩ := regValue_eq_ok_iff.1 h
  simp [saved, Registers.get, hreg, Except.toOption]

/-- The byte that a call saves is the address behind it. -/
theorem saved_call {cpu : Cpu} {reg value : Byte} {next : UInt16} (hpc : cpu.pc < addressCount)
    (hnext : cpu.pcBehind (.call reg) = .ok next) (hvalue : returnByte next = .ok value) :
    cpu.saved (.call reg) = some value.toNat := by
  obtain ⟨-, rfl⟩ := pcBehind_eq_ok_iff.1 hnext
  obtain ⟨hle, rfl⟩ := returnByte_eq_ok_iff.1 hvalue
  have hwidth : (Instr.call reg).width.toUInt16 = 2 := by
    simp only [Instr.width, Instr.opcodeByte]
    decide
  have hsum : (cpu.regs.pc + 2).toNat = cpu.pc + 2 := by
    rw [UInt16.toNat_add]
    simp only [pc, addressCount, UInt16.reduceToNat] at hpc ⊢
    omega
  rw [hwidth, hsum] at hle
  rw [saved, hwidth, UInt16.toNat_toUInt8, hsum, Nat.mod_eq_of_lt (by omega)]

/-- A push moves the stack pointer down by one and stores there what it saves. -/
theorem step_push {cpu cpu' : Cpu} {instr : Instr} (hcells : cpu.mem.cells.length = addressCount)
    (h : step cpu = .ok instr cpu') (hi : instr.isPush = true) :
    ∃ value : Byte, cpu.saved instr = some value.toNat ∧
      cpu.regs.sp.toNat = cpu'.regs.sp.toNat + 1 ∧
      cpu'.mem.cells = cpu.mem.cells.set cpu'.regs.sp.toNat value := by
  have hpc := pc_lt_of_step h
  obtain ⟨-, -, next, -, mid, hmid, rfl⟩ := step_eq_ok_iff.1 h
  cases instr <;> simp only [Instr.isPush, Bool.false_eq_true] at hi
  case push reg =>
    obtain ⟨value, hvalue, hpush⟩ := bind_eq_ok_iff.1 hmid
    obtain ⟨hsp, -, rfl⟩ := pushed_eq_ok_iff.1 hpush
    refine ⟨value, saved_push hvalue, ?_, ?_⟩
    · simpa using toNat_eq_succ_of_ne_zero hsp
    · simp
  case call reg =>
    simp only [effect, bind_eq_ok_iff, pure_eq_ok_iff] at hmid
    obtain ⟨old, -, next, hnext, value, hvalue, mid, hpush, target, -, rfl⟩ := hmid
    obtain ⟨hsp, -, rfl⟩ := pushed_eq_ok_iff.1 hpush
    refine ⟨value, saved_call (hcells ▸ hpc) hnext hvalue, ?_, ?_⟩
    · simpa using toNat_eq_succ_of_ne_zero hsp
    · simp

/-- A pop delivers the byte at the stack pointer and moves it up by one. -/
theorem step_pop {cpu cpu' : Cpu} {instr : Instr} (h : step cpu = .ok instr cpu')
    (hi : instr.isPop = true) (hdest : instr.destination? ≠ some stackRegister) :
    ∃ value : Byte, cpu.mem.cells[cpu.regs.sp.toNat]? = some value ∧
      cpu'.delivered instr = some value.toNat ∧
      cpu'.regs.sp.toNat = cpu.regs.sp.toNat + 1 ∧ cpu'.mem = cpu.mem := by
  obtain ⟨-, -, next, hnext, mid, hmid, rfl⟩ := step_eq_ok_iff.1 h
  cases instr <;> simp only [Instr.isPop, Bool.false_eq_true] at hi
  case pop reg =>
    have hne : reg ≠ stackRegister := fun heq => hdest (congrArg some heq)
    simp only [effect, bind_eq_ok_iff, pure_eq_ok_iff, if_neg hne] at hmid
    obtain ⟨old, -, value, htop, sp, hsp, mid, hmid, rfl⟩ := hmid
    obtain ⟨hne255, rfl⟩ := raised_eq_ok_iff.1 hsp
    refine ⟨value, top_eq_ok_iff.1 htop, ?_, ?_, ?_⟩
    · obtain ⟨hreg, rfl⟩ := withReg_eq_ok_iff.1 hmid
      have : reg.toNat ≠ 7 := fun h7 => hne (UInt8.toNat_inj.1 h7)
      simp [delivered, settled, withSp, Registers.withSp, Registers.get, hreg, this.symm,
        Except.toOption]
    · simpa using toNat_add_one_of_ne hne255
    · rw [mem_settled, mem_withSp, mem_withReg hmid]
  case ret =>
    simp only [effect, bind_eq_ok_iff, pure_eq_ok_iff] at hmid
    obtain ⟨value, htop, sp, hsp, rfl⟩ := hmid
    obtain ⟨hne255, rfl⟩ := raised_eq_ok_iff.1 hsp
    obtain rfl := Except.ok.inj hnext
    refine ⟨value, top_eq_ok_iff.1 htop, ?_, ?_, rfl⟩
    · simp [delivered, pc, settled, jumpedTo, Registers.jump]
    · simpa using toNat_add_one_of_ne hne255

/-- Any other instruction leaves stack pointer and memory alone. -/
theorem step_other {cpu cpu' : Cpu} {instr : Instr} (h : step cpu = .ok instr cpu')
    (hpush : instr.isPush = false) (hpop : instr.isPop = false)
    (hdest : instr.destination? ≠ some stackRegister) :
    cpu'.regs.sp = cpu.regs.sp ∧ cpu'.mem = cpu.mem := by
  have hsp : stackRegister ∉ instr.changes := by
    simp [Instr.mem_changes_iff, hpush, hpop, hdest]
  exact ⟨Except.ok.inj (get_step h hsp), mem_step h hpush⟩

/-! ## Depth and matching -/

/-- How many of the first `k` instructions put a byte on the stack. -/
def pushes (instr : Nat → Instr) (k : Nat) : Nat :=
  Nat.count (fun i => (instr i).isPush = true) k

/-- How many of the first `k` instructions take a byte off the stack. -/
def pops (instr : Nat → Instr) (k : Nat) : Nat :=
  Nat.count (fun i => (instr i).isPop = true) k

/-- How many more bytes have been put on the stack than taken off it before instruction `k`. -/
def depth (instr : Nat → Instr) (k : Nat) : Int :=
  pushes instr k - pops instr k

/-- Instruction `k` takes off the stack what instruction `j` has put there: as with brackets, what
lies between the two never goes below the depth after `j` and comes back to it. -/
structure Matches (instr : Nat → Instr) (j k : Nat) : Prop where
  lt : j < k
  isPush : (instr j).isPush = true
  isPop : (instr k).isPop = true
  above : ∀ m, j < m → m ≤ k → depth instr (j + 1) ≤ depth instr m
  level : depth instr k = depth instr (j + 1)

section Counting

variable {instr : Nat → Instr} {j k : Nat}

theorem depth_zero : depth instr 0 = 0 := by
  simp [depth, pushes, pops]

theorem isPush_and_isPop (i : Instr) : (i.isPush && i.isPop) = false := by
  cases i <;> rfl

theorem depth_succ_of_isPush (h : (instr k).isPush = true) :
    depth instr (k + 1) = depth instr k + 1 := by
  have hpop : (instr k).isPop = false := by simpa [h] using isPush_and_isPop (instr k)
  simp only [depth, pushes, pops, Nat.count_succ, h, hpop, Bool.false_eq_true, if_true, if_false]
  omega

theorem depth_succ_of_isPop (h : (instr k).isPop = true) :
    depth instr (k + 1) = depth instr k - 1 := by
  have hpush : (instr k).isPush = false := by simpa [h] using isPush_and_isPop (instr k)
  simp only [depth, pushes, pops, Nat.count_succ, h, hpush, Bool.false_eq_true, if_true, if_false]
  omega

theorem depth_succ_of_other (hpush : (instr k).isPush = false) (hpop : (instr k).isPop = false) :
    depth instr (k + 1) = depth instr k := by
  simp [depth, pushes, pops, Nat.count_succ, hpush, hpop]

/-- The depth grows by a push alone. -/
theorem isPush_of_depth_lt (h : depth instr k < depth instr (k + 1)) :
    (instr k).isPush = true ∧ depth instr (k + 1) = depth instr k + 1 := by
  by_cases hpush : (instr k).isPush = true
  · exact ⟨hpush, depth_succ_of_isPush hpush⟩
  · exfalso
    by_cases hpop : (instr k).isPop = true
    · have := depth_succ_of_isPop hpop
      omega
    · have := depth_succ_of_other (Bool.eq_false_iff.2 hpush) (Bool.eq_false_iff.2 hpop)
      omega

/-- A pop from a stack that is not empty has a push that matches it. -/
theorem exists_matches (hpop : (instr k).isPop = true) (hdepth : 0 ≤ depth instr (k + 1)) :
    ∃ j, Matches instr j k := by
  have hk : depth instr (k + 1) = depth instr k - 1 := depth_succ_of_isPop hpop
  have hzero : depth instr 0 < depth instr k := by
    rw [depth_zero]
    omega
  -- the last moment before `k` at which the stack was less deep
  let j := Nat.findGreatest (fun i => depth instr i < depth instr k) k
  have hj : depth instr j < depth instr k :=
    Nat.findGreatest_spec (P := fun i => depth instr i < depth instr k) (Nat.zero_le k) hzero
  have hjk : j < k := by
    have hle : j ≤ k := Nat.findGreatest_le k
    have hne : j ≠ k := by
      intro h
      rw [h] at hj
      omega
    omega
  have hlast : ∀ m, j < m → m ≤ k → depth instr k ≤ depth instr m := fun m hm hmk =>
    not_lt.1 (Nat.findGreatest_is_greatest hm hmk)
  have hnext : depth instr k ≤ depth instr (j + 1) := hlast (j + 1) (by omega) hjk
  obtain ⟨hpush, hsucc⟩ := isPush_of_depth_lt (lt_of_lt_of_le hj hnext)
  have hlevel : depth instr k = depth instr (j + 1) := by omega
  exact ⟨j, hjk, hpush, hpop, fun m hm hmk => hlevel ▸ hlast m hm hmk, hlevel⟩

theorem Matches.unique {i : Nat} (hi : Matches instr i k) (hj : Matches instr j k) : i = j := by
  -- of two candidates, the later one starts from below the level that the earlier one keeps
  have hlt : ∀ {a b : Nat}, Matches instr a k → Matches instr b k → ¬a < b := by
    intro a b ha hb hab
    have h1 := ha.above b hab hb.lt.le
    have h2 := depth_succ_of_isPush hb.isPush
    have h3 := ha.level
    have h4 := hb.level
    omega
  exact le_antisymm (not_lt.1 (hlt hj hi)) (not_lt.1 (hlt hi hj))

end Counting

/-! ## What a run keeps -/

namespace IsRun

variable {cpu : Nat → Cpu} {instr : Nat → Instr} {n : Nat}

/-- Stack pointer and depth move against each other. -/
theorem sp_succ (h : IsRun cpu instr n) (hcells : (cpu 0).mem.cells.length = addressCount)
    (hdest : ∀ k < n, (instr k).destination? ≠ some stackRegister) {k : Nat} (hk : k < n) :
    ((cpu (k + 1)).regs.sp.toNat : Int) + depth instr (k + 1) =
      (cpu k).regs.sp.toNat + depth instr k := by
  have hlen := (h.length_cells hk.le).trans hcells
  by_cases hpush : (instr k).isPush = true
  · obtain ⟨value, -, hsp, -⟩ := step_push hlen (h k hk) hpush
    rw [depth_succ_of_isPush hpush]
    omega
  by_cases hpop : (instr k).isPop = true
  · obtain ⟨value, -, -, hsp, -⟩ := step_pop (h k hk) hpop (hdest k hk)
    rw [depth_succ_of_isPop hpop]
    omega
  · rw [Bool.not_eq_true] at hpush hpop
    obtain ⟨hsp, -⟩ := step_other (h k hk) hpush hpop (hdest k hk)
    rw [depth_succ_of_other hpush hpop, hsp]

theorem sp_eq (h : IsRun cpu instr n) (hcells : (cpu 0).mem.cells.length = addressCount)
    (hdest : ∀ k < n, (instr k).destination? ≠ some stackRegister) {k : Nat} (hk : k ≤ n) :
    ((cpu k).regs.sp.toNat : Int) + depth instr k = (cpu 0).regs.sp.toNat := by
  induction k with
  | zero => rw [depth_zero, Int.add_zero]
  | succ k ih => rw [h.sp_succ hcells hdest hk, ih (by omega)]

theorem cells_succ (h : IsRun cpu instr n) (hcells : (cpu 0).mem.cells.length = addressCount)
    (hdest : ∀ k < n, (instr k).destination? ≠ some stackRegister) {k addr : Nat} (hk : k < n)
    (haddr : (cpu k).regs.sp.toNat ≤ addr) :
    (cpu (k + 1)).mem.cells[addr]? = (cpu k).mem.cells[addr]? := by
  have hlen := (h.length_cells hk.le).trans hcells
  by_cases hpush : (instr k).isPush = true
  · obtain ⟨value, -, hsp, hmem⟩ := step_push hlen (h k hk) hpush
    rw [hmem, List.getElem?_set_ne (by omega)]
  by_cases hpop : (instr k).isPop = true
  · obtain ⟨value, -, -, -, hmem⟩ := step_pop (h k hk) hpop (hdest k hk)
    rw [hmem]
  · rw [Bool.not_eq_true] at hpush hpop
    obtain ⟨-, hmem⟩ := step_other (h k hk) hpush hpop (hdest k hk)
    rw [hmem]

/-- While the stack stays as deep as it was before instruction `j`, nothing at or above its top
changes. -/
theorem cells_eq (h : IsRun cpu instr n) (hcells : (cpu 0).mem.cells.length = addressCount)
    (hdest : ∀ k < n, (instr k).destination? ≠ some stackRegister) {j k addr : Nat} (hjk : j ≤ k)
    (hk : k ≤ n) (habove : ∀ m, j ≤ m → m ≤ k → depth instr j ≤ depth instr m)
    (haddr : (cpu j).regs.sp.toNat ≤ addr) :
    (cpu k).mem.cells[addr]? = (cpu j).mem.cells[addr]? := by
  induction k, hjk using Nat.le_induction with
  | base => rfl
  | succ k hjk ih =>
    -- a stack that is at least as deep has its top at or below the old one
    have hsp : (cpu k).regs.sp.toNat ≤ (cpu j).regs.sp.toNat := by
      have := h.sp_eq hcells hdest (k := k) (by omega)
      have := h.sp_eq hcells hdest (k := j) (by omega)
      have := habove k hjk (by omega)
      omega
    rw [h.cells_succ hcells hdest hk (by omega),
      ih (by omega) fun m hjm hmk => habove m hjm (by omega)]

/-- A pop delivers what the push that it matches has saved, and takes the stack back. -/
theorem delivered_eq (h : IsRun cpu instr n) (hcells : (cpu 0).mem.cells.length = addressCount)
    (hdest : ∀ k < n, (instr k).destination? ≠ some stackRegister) {j k : Nat} (hk : k < n)
    (hm : Matches instr j k) :
    (cpu (k + 1)).regs.sp = (cpu j).regs.sp ∧ ∃ value : Byte,
      (cpu (j + 1)).mem.cells[(cpu (j + 1)).regs.sp.toNat]? = some value ∧
        (cpu j).saved (instr j) = some value.toNat ∧
          (cpu (k + 1)).delivered (instr k) = some value.toNat := by
  have hj : j < n := hm.lt.trans hk
  have hlen := (h.length_cells hj.le).trans hcells
  obtain ⟨value, hsaved, hspj, hmem⟩ := step_push hlen (h j hj) hm.isPush
  obtain ⟨value', htop, hdel, hspk, -⟩ := step_pop (h k hk) hm.isPop (hdest k hk)
  have hlevel : (cpu k).regs.sp.toNat = (cpu (j + 1)).regs.sp.toNat := by
    have := h.sp_eq hcells hdest hk.le
    have := h.sp_eq hcells hdest (k := j + 1) (by omega)
    have := hm.level
    omega
  -- between the two the stack stays above the cell that the push has filled
  have hkept := h.cells_eq hcells hdest (j := j + 1) hm.lt hk.le
    (fun m hjm hmk => hm.above m hjm hmk) le_rfl
  have hstored : (cpu (j + 1)).mem.cells[(cpu (j + 1)).regs.sp.toNat]? = some value := by
    rw [hmem, List.getElem?_set_self]
    have := (cpu (j + 1)).regs.sp.toNat_lt
    rw [hlen, addressCount]
    omega
  have hvalue : value' = value := by
    rw [hlevel, hkept, hstored] at htop
    exact (Option.some.inj htop).symm
  subst hvalue
  exact ⟨UInt8.toNat_inj.1 (by omega), value', hstored, hsaved, hdel⟩

end IsRun

/-- **Stack discipline.**  In a run from a full memory in which no instruction names the stack
pointer as its destination and pops never outnumber pushes, the stack pointer counts both without
wrapping and no cell from the first stack pointer upwards changes.  Every pop has exactly one
matching push, delivers the byte that this one has stored, and takes the stack pointer back to where
it stood before it; so a `ret` that matches a `call` goes on behind that call. -/
theorem stack_discipline {cpu : Nat → Cpu} {instr : Nat → Instr} {n : Nat}
    (hrun : IsRun cpu instr n) (hcells : (cpu 0).mem.cells.length = addressCount)
    (hdest : ∀ k < n, (instr k).destination? ≠ some stackRegister)
    (hpops : ∀ k ≤ n, pops instr k ≤ pushes instr k) :
    (∀ k ≤ n,
      ((cpu k).regs.sp.toNat : Int) =
          (cpu 0).regs.sp.toNat - pushes instr k + pops instr k ∧
        ∀ addr, (cpu 0).regs.sp.toNat ≤ addr →
          (cpu k).mem.cells[addr]? = (cpu 0).mem.cells[addr]?) ∧
    ∀ k < n, (instr k).isPop = true → ∃ j, Matches instr j k ∧
      (∀ i, Matches instr i k → i = j) ∧
      (cpu (k + 1)).regs.sp = (cpu j).regs.sp ∧
      (∃ value : Byte,
        (cpu (j + 1)).mem.cells[(cpu (j + 1)).regs.sp.toNat]? = some value ∧
          (cpu j).saved (instr j) = some value.toNat ∧
            (cpu (k + 1)).delivered (instr k) = some value.toNat) ∧
      ∀ reg, instr j = .call reg → instr k = .ret → (cpu (k + 1)).pc = (cpu j).pc + 2 := by
  refine ⟨fun k hk => ⟨?_, fun addr haddr => ?_⟩, fun k hk hpop => ?_⟩
  · have := hrun.sp_eq hcells hdest hk
    rw [depth] at this
    omega
  · refine hrun.cells_eq hcells hdest (Nat.zero_le k) hk (fun m _ hm => ?_) haddr
    have := hpops m (by omega)
    rw [depth_zero, depth]
    omega
  · have hdepth : 0 ≤ depth instr (k + 1) := by
      have := hpops (k + 1) hk
      rw [depth]
      omega
    obtain ⟨j, hm⟩ := exists_matches hpop hdepth
    obtain ⟨hsp, value, hstored, hsaved, hdel⟩ := hrun.delivered_eq hcells hdest hk hm
    refine ⟨j, hm, fun i hi => hi.unique hm, hsp, ⟨value, hstored, hsaved, hdel⟩, ?_⟩
    intro reg hcall hret
    rw [hcall, saved] at hsaved
    rw [hret, delivered] at hdel
    exact Option.some.inj (hdel.trans hsaved.symm)

/-- A machine that is about to call a routine that pushes, pops and returns. -/
def callAtZero : Cpu :=
  { powerOn with
    regs := ⟨#v[0, 2, 0, 0, 0, 0, 0, emptyStack], 0⟩
    mem := Memory.blank.overlay 0 (Instr.encodeList [.call 1, .push 1, .pop 2, .ret]) }

/-- The routine comes back behind its call with the stack empty again. -/
theorem stack_discipline_callAtZero :
    ∃ j, Matches ([Instr.call 1, .push 1, .pop 2, .ret].getD · .hlt) j 3 ∧
      (callAtZero.after 4).regs.sp = (callAtZero.after j).regs.sp := by
  have hrun : IsRun callAtZero.after ([Instr.call 1, .push 1, .pop 2, .ret].getD · .hlt) 4 := by
    unfold IsRun
    decide +kernel
  obtain ⟨-, h⟩ := stack_discipline hrun (by decide +kernel) (by decide) (by decide +kernel)
  obtain ⟨j, hm, -, hsp, -⟩ := h 3 (by decide) rfl
  exact ⟨j, hm, hsp⟩

end Cpu

end ByteMachine
