import ByteMachine.Proofs.Cpu.Effect

/-!
# What an instruction leaves alone

An instruction changes the register that it names as its destination and, if it works on the stack,
the stack pointer.  It changes memory only if it puts a byte on the stack.

## Main definitions

- `Instr.destination?`, `Instr.isPush`, `Instr.isPop` — what an instruction does to the stack
- `Instr.changes` — the registers that an instruction may change

## Main statements

- `Cpu.get_step`, `Cpu.mem_step` — a step leaves everything else alone
-/

namespace ByteMachine

namespace Instr

/-- The register that an instruction names as the one it stores into. -/
def destination? : Instr → Option Byte
  | .ldi reg _ | .arith _ reg _ | .pop reg => some reg
  | .hlt | .prn _ | .push _ | .call _ | .ret => none

/-- Whether an instruction puts a byte on the stack. -/
def isPush : Instr → Bool
  | .push _ | .call _ => true
  | .hlt | .ldi .. | .prn _ | .arith .. | .pop _ | .ret => false

/-- Whether an instruction takes a byte off the stack. -/
def isPop : Instr → Bool
  | .pop _ | .ret => true
  | .hlt | .ldi .. | .prn _ | .arith .. | .push _ | .call _ => false

/-- The registers that an instruction may change. -/
def changes : Instr → List Byte
  | .ldi reg _ | .arith _ reg _ => [reg]
  | .pop reg => [reg, stackRegister]
  | .push _ | .call _ | .ret => [stackRegister]
  | .hlt | .prn _ => []

/-- These are its destination and, if it works on the stack, the stack pointer. -/
theorem mem_changes_iff {instr : Instr} {reg : Byte} :
    reg ∈ instr.changes ↔ instr.destination? = some reg ∨
      (instr.isPush = true ∨ instr.isPop = true) ∧ reg = stackRegister := by
  cases instr <;> simp [changes, destination?, isPush, isPop, eq_comm]

end Instr

namespace Cpu

variable {cpu mid : Cpu} {instr : Instr} {reg : Byte}

/-! ## Registers -/

theorem get_withReg {index value : Byte} (h : cpu.withReg index value = .ok mid)
    (hne : reg ≠ index) : mid.regs.get reg = cpu.regs.get reg := by
  obtain ⟨regs, hset, rfl⟩ := map_eq_ok_iff.1 (mapError_eq_ok_iff.1 h)
  obtain ⟨⟨⟩, hset⟩ := changed?_eq_ok_iff.1 hset
  exact Registers.get_set_ne hset hne

theorem get_withSp (cpu : Cpu) (sp : Byte) (hne : reg ≠ stackRegister) :
    (cpu.withSp sp).regs.get reg = cpu.regs.get reg := by
  have hset : Registers.set stackRegister sp cpu.regs = .ok () (cpu.regs.withSp sp) := rfl
  exact Registers.get_set_ne hset hne

theorem get_pushed {value : Byte} (h : cpu.pushed value = .ok mid) (hne : reg ≠ stackRegister) :
    mid.regs.get reg = cpu.regs.get reg := by
  obtain ⟨-, -, rfl⟩ := pushed_eq_ok_iff.1 h
  exact get_withSp cpu _ hne

theorem get_effect (h : cpu.effect instr = .ok mid) (hreg : reg ∉ instr.changes) :
    mid.regs.get reg = cpu.regs.get reg := by
  cases instr <;> simp only [effect, bind_eq_ok_iff, pure_eq_ok_iff] at h <;>
    simp only [Instr.changes, List.mem_cons, List.not_mem_nil, or_false, not_or] at hreg
  case hlt => rw [← h]
  case ldi dest value => exact get_withReg h hreg
  case prn src =>
    obtain ⟨value, -, rfl⟩ := h
    rfl
  case arith op dest src =>
    obtain ⟨a, -, b, -, h⟩ := h
    exact get_withReg h hreg
  case push src =>
    obtain ⟨value, -, h⟩ := h
    exact get_pushed h hreg
  case pop dest =>
    obtain ⟨old, -, value, -, sp, -, mid, hmid, rfl⟩ := h
    rw [get_withSp mid sp hreg.2, get_withReg hmid hreg.1]
  case call src =>
    obtain ⟨old, -, next, -, saved, -, mid, hmid, target, -, rfl⟩ := h
    show mid.regs.get reg = cpu.regs.get reg
    exact get_pushed hmid hreg
  case ret =>
    obtain ⟨target, -, sp, -, rfl⟩ := h
    exact get_withSp cpu sp hreg

/-- A step changes no register but those of its instruction. -/
theorem get_step (h : step cpu = .ok instr mid) (hreg : reg ∉ instr.changes) :
    mid.regs.get reg = cpu.regs.get reg := by
  obtain ⟨-, -, next, -, mid, hmid, rfl⟩ := step_eq_ok_iff.1 h
  show mid.regs.get reg = cpu.regs.get reg
  exact get_effect hmid hreg

/-! ## Memory -/

theorem mem_effect (h : cpu.effect instr = .ok mid) (hpush : instr.isPush = false) :
    mid.mem = cpu.mem := by
  cases instr <;> simp only [effect, bind_eq_ok_iff, pure_eq_ok_iff] at h
  case hlt => rw [← h]
  case ldi dest value => exact mem_withReg h
  case prn src =>
    obtain ⟨value, -, rfl⟩ := h
    rfl
  case arith op dest src =>
    obtain ⟨a, -, b, -, h⟩ := h
    exact mem_withReg h
  case push | call => cases hpush
  case pop dest =>
    obtain ⟨old, -, value, -, sp, -, mid, hmid, rfl⟩ := h
    rw [mem_withSp, mem_withReg hmid]
  case ret =>
    obtain ⟨target, -, sp, -, rfl⟩ := h
    rfl

theorem mem_step (h : step cpu = .ok instr mid) (hpush : instr.isPush = false) :
    mid.mem = cpu.mem := by
  obtain ⟨-, -, next, -, mid, hmid, rfl⟩ := step_eq_ok_iff.1 h
  rw [mem_settled, mem_effect hmid hpush]

end Cpu

end ByteMachine
