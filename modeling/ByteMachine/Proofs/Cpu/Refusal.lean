import ByteMachine.Proofs.Cpu.Effect

/-!
# When a step fails

On a machine with all its 256 cells and a program counter that is not beyond the address behind
them, the outcome of a step is settled by a few checks in a fixed order: the state of the machine,
the byte at the program counter, the operands behind it, the registers that they name, and last the
addresses that the instruction needs for its return address or for the stack.  Nothing else can go
wrong.

## Main definitions

- `Opcode.registerCount` — how many operands name registers
- `Cpu.registerFault?`, `Cpu.stackFault?` — the checks of an instruction with its operands in place
- `Cpu.refusal?` — all checks, in their order

## Main statements

- `Cpu.error?_effect` — the two checks of an instruction are the ones that its effect makes
- `Cpu.error?_transition` — a step fails as the first check that applies says
- `Cpu.step_error_iff` — the same of the actions in place, with the faults that never arise
-/

namespace ByteMachine

/-- How many of the operands name registers.  These stand in front of the others. -/
def Opcode.registerCount : Opcode → Nat
  | .hlt | .ret => 0
  | .ldi | .prn | .push | .pop | .call => 1
  | .add | .mul => 2

namespace Cpu

/-- The fault of an instruction that names a register that does not exist: the first such one. -/
def registerFault? (op : Opcode) (operands : List Byte) : Option Fault :=
  ((operands.take op.registerCount).find? (7 < ·)).map fun reg => .register (.noRegister reg)

/-- The fault of an instruction that needs an address outside memory: a return address that is no
byte, a push onto a full stack, or a stack pointer that would move past the last address.  Popping
into the stack pointer moves it to the address above the popped value. -/
def stackFault? (cpu : Cpu) (op : Opcode) (operands : List Byte) : Option Fault :=
  let sp := cpu.regs.sp
  if op = .call ∧ cpu.pc = 254 then some (.memory (.noCell 256))
  else if (op = .push ∨ op = .call) ∧ sp = 0 then some (.memory (.noCell (-1)))
  else if (op = .ret ∨ op = .pop ∧ operands ≠ [stackRegister]) ∧ sp = 255 ∨
      op = .pop ∧ operands = [stackRegister] ∧ cpu.mem.peek sp.toNat = 255 then
    some (.memory (.noCell 256))
  else none

/-- Why the next step fails, if it does. -/
def refusal? (cpu : Cpu) : Option Fault :=
  if cpu.state = .halted then some (.notRunning .halted)
  else if cpu.pc = addressCount then some (.memory (.noCell 256))
  else
    let opcode := cpu.mem.peek cpu.pc
    match Opcode.ofByte? opcode with
    | none => some (.unknownOpcode opcode cpu.pc)
    | some op =>
      let count := (arity opcode).toNat
      if 255 < cpu.pc + count then some (.memory (.noCell 256))
      else
        let operands := (cpu.mem.cells.drop (cpu.pc + 1)).take count
        (registerFault? op operands).or (cpu.stackFault? op operands)

variable {cpu : Cpu}

/-! ## The parts of an effect -/

theorem seven_lt_iff {index : Byte} : 7 < index ↔ ¬index.toNat < 8 :=
  UInt8.lt_iff_toNat_lt.trans Nat.not_lt.symm

theorem error?_regValue (cpu : Cpu) (index : Byte) :
    error? (cpu.regValue index) =
      if 7 < index then some (.register (.noRegister index)) else none := by
  unfold regValue Registers.get
  by_cases h : index.toNat < 8 <;> simp [h, seven_lt_iff, error?]

theorem error?_withReg (cpu : Cpu) (index value : Byte) :
    error? (cpu.withReg index value) =
      if 7 < index then some (.register (.noRegister index)) else none := by
  unfold withReg Registers.set
  by_cases h : index.toNat < 8 <;> simp [h, seven_lt_iff, changed?, Except.map, error?]

/-- A register that can be read can be written. -/
theorem error?_withReg_of_regValue {index old : Byte} (h : cpu.regValue index = .ok old)
    (value : Byte) : error? (cpu.withReg index value) = none := by
  rw [error?_withReg, ← error?_regValue cpu, h]
  rfl

/-- In a full memory every stack pointer has a cell. -/
theorem top_eq (hcells : cpu.mem.cells.length = addressCount) :
    cpu.top = .ok (cpu.mem.peek cpu.regs.sp.toNat) := by
  have hlt : cpu.regs.sp.toNat < cpu.mem.cells.length := hcells ▸ cpu.regs.sp.toNat_lt
  rw [top_eq_ok_iff, Memory.peek, List.getElem?_eq_getElem hlt]
  rfl

theorem error?_raised (addr : Byte) :
    error? (raised addr) = if addr = 255 then some (.memory (.noCell 256)) else none := by
  unfold raised
  split <;> rfl

theorem error?_pushed (hcells : cpu.mem.cells.length = addressCount) (value : Byte) :
    error? (cpu.pushed value) =
      if cpu.regs.sp = 0 then some (.memory (.noCell (-1))) else none := by
  by_cases hsp : cpu.regs.sp = 0
  · simp [pushed, hsp, error?]
  · rw [if_neg hsp, error?_eq_none_iff]
    exact ⟨_, pushed_eq_ok_iff.2 ⟨hsp, hcells ▸ (cpu.regs.sp - 1).toNat_lt, rfl⟩⟩

theorem error?_returnByte {addr : UInt16} (h : addr.toNat ≤ addressCount) :
    error? (returnByte addr) =
      if addr.toNat = addressCount then some (.memory (.noCell 256)) else none := by
  unfold returnByte
  by_cases hlast : addr.toNat = addressCount
  · rw [if_pos hlast, if_pos (by rw [hlast]; decide), hlast]
    rfl
  · have hle : ¬255 < addr.toNat := by
      rw [addressCount] at h hlast
      omega
    rw [if_neg hlast, if_neg hle]
    rfl

theorem registerFault?_singleton {op : Opcode} (reg : Byte) (h : op.registerCount = 1) :
    registerFault? op [reg] = if 7 < reg then some (.register (.noRegister reg)) else none := by
  by_cases hreg : 7 < reg <;> simp [registerFault?, h, hreg]

/-! ## An instruction with its operands in place -/

/-- The effect of an instruction with its operands in place fails as the two checks say. -/
theorem error?_effect {instr : Instr} (hcells : cpu.mem.cells.length = addressCount)
    (hfits : cpu.pc + instr.width.toNat ≤ addressCount) :
    error? (cpu.effect instr) =
      (registerFault? instr.opcode instr.operands).or
        (cpu.stackFault? instr.opcode instr.operands) := by
  cases instr with
  | hlt => rfl
  | ldi reg value =>
    rw [effect, error?_withReg]
    by_cases h : 7 < reg <;>
      simp [registerFault?, stackFault?, Instr.opcode, Instr.operands, Opcode.registerCount, h]
  | prn reg =>
    rw [effect, error?_bind (r := none) fun _ _ => rfl, error?_regValue]
    rw [Instr.opcode, Instr.operands, registerFault?_singleton reg rfl]
    simp [stackFault?]
  | arith op dest src =>
    have hrest : ∀ a, cpu.regValue dest = .ok a →
        error? (cpu.regValue src >>= fun b => cpu.withReg dest (op.eval a b)) =
          error? (cpu.regValue src) := by
      intro a ha
      rw [error?_bind fun b _ => error?_withReg_of_regValue ha _, Option.or_none]
    rw [effect, error?_bind hrest, error?_regValue, error?_regValue]
    by_cases hdest : 7 < dest <;> by_cases hsrc : 7 < src <;> cases op <;>
      simp [registerFault?, stackFault?, Instr.opcode, Instr.operands, Opcode.registerCount, hdest,
        hsrc]
  | push reg =>
    rw [effect, error?_bind fun _ _ => error?_pushed hcells _, error?_regValue]
    rw [Instr.opcode, Instr.operands, registerFault?_singleton reg rfl]
    simp [stackFault?]
  | pop reg =>
    let popped := cpu.mem.peek cpu.regs.sp.toNat
    let base := if reg = stackRegister then popped else cpu.regs.sp
    rw [effect, error?_bind (r := error? (raised base)) fun _ hreg => ?_, error?_regValue,
      error?_raised]
    · rw [Instr.opcode, Instr.operands, registerFault?_singleton reg rfl]
      by_cases hreg : reg = stackRegister <;> simp [stackFault?, hreg, base, popped]
    · -- neither the read nor the write behind the check of the new stack pointer can fail
      rw [bind_of_eq_ok (top_eq hcells), error?_bind (r := none) fun _ _ => ?_, Option.or_none]
      rw [error?_bind (r := none) fun _ _ => rfl, error?_withReg_of_regValue hreg, Option.or_none]
  | call reg =>
    obtain ⟨next, hnext, hpc⟩ := pcBehind_of_le hfits
    have hlast : next.toNat = addressCount ↔ cpu.pc = 254 := by
      rw [hpc, Instr.toNat_width, Instr.operands, addressCount]
      simp
    have hrest : ∀ old, cpu.regValue reg = .ok old →
        error? (cpu.pcBehind (.call reg) >>= fun next => do
          let saved ← returnByte next
          let cpu' ← cpu.pushed saved
          let target ← cpu'.regValue reg
          return cpu'.jumpedTo target) =
        (error? (returnByte next)).or
          (if cpu.regs.sp = 0 then some (.memory (.noCell (-1))) else none) := by
      intro old hold
      rw [bind_of_eq_ok hnext, error?_bind fun saved _ => ?_]
      rw [error?_bind (r := none) fun cpu' _ => ?_, error?_pushed hcells, Option.or_none]
      obtain ⟨target, htarget⟩ := exists_regValue hold cpu'
      rw [bind_of_eq_ok htarget]
      rfl
    rw [effect, error?_bind hrest, error?_regValue, error?_returnByte (hpc ▸ hfits)]
    rw [Instr.opcode, Instr.operands, registerFault?_singleton reg rfl]
    by_cases h254 : cpu.pc = 254 <;> simp [stackFault?, hlast, h254]
  | ret =>
    rw [effect, bind_of_eq_ok (top_eq hcells), error?_bind (r := none) fun _ _ => rfl,
      error?_raised]
    simp [registerFault?, stackFault?, Instr.opcode, Instr.operands]

/-- The program counter has somewhere to go behind an instruction that ends within memory. -/
theorem exists_advancedPc {instr : Instr} (hfits : cpu.pc + instr.width.toNat ≤ addressCount) :
    ∃ next, cpu.advancedPc instr = .ok next := by
  obtain ⟨next, hnext, -⟩ := pcBehind_of_le hfits
  unfold advancedPc
  split
  · exact ⟨_, rfl⟩
  · exact ⟨some next, by rw [hnext]; rfl⟩

/-! ## A step -/

theorem nextInstr_of_error {e : DecodeError} (h : decode cpu.mem.cells cpu.pc = .error e) :
    cpu.nextInstr = .error (.ofDecode e) := by
  rw [nextInstr, h]
  rfl

/-- A step fails as the first check that applies says. -/
theorem error?_transition (hcells : cpu.mem.cells.length = addressCount)
    (hpc : cpu.pc ≤ addressCount) : error? cpu.transition = cpu.refusal? := by
  unfold transition refusal?
  by_cases hstate : cpu.state = .halted
  · have hcheck : cpu.checkRunning = .error (.notRunning .halted) := by
      rw [checkRunning, hstate]
      rfl
    rw [if_pos hstate, bind_of_eq_error hcheck]
    rfl
  have hcheck : cpu.checkRunning = .ok () := by
    rw [checkRunning_eq_ok_iff]
    cases h : cpu.state with
    | running => rfl
    | halted => exact absurd h hstate
  rw [if_neg hstate, bind_of_eq_ok hcheck]
  by_cases hend : cpu.pc = addressCount
  · have hdecode := decode_of_missing (hcells.trans_le hend.ge)
    rw [if_pos hend, bind_of_eq_error (nextInstr_of_error hdecode), hend]
    rfl
  have hlt : cpu.pc < cpu.mem.cells.length := by omega
  have hopcode : cpu.mem.cells[cpu.pc]? = some (cpu.mem.peek cpu.pc) := by
    rw [Memory.peek, List.getElem?_eq_getElem hlt]
    rfl
  rw [if_neg hend]
  dsimp only
  cases hop : Opcode.ofByte? (cpu.mem.peek cpu.pc) with
  | none =>
    have hdecode := decode_of_unknown hopcode (Opcode.ofByte?_eq_none_iff.1 hop)
    rw [bind_of_eq_error (nextInstr_of_error hdecode)]
    rfl
  | some op =>
    rw [← Opcode.byte_of_ofByte? hop] at hopcode ⊢
    by_cases hcut : 255 < cpu.pc + (arity op.byte).toNat
    · have hdecode := decode_of_cut hopcode (by rw [hcells, addressCount]; omega)
      rw [bind_of_eq_error (nextInstr_of_error hdecode), hcells]
      simp only [hcut, if_true]
      rfl
    · obtain ⟨instr, hdecode, rfl⟩ := decode_of_fits hopcode (by rw [hcells, addressCount]; omega)
      have hinstr := decode_eq_ok_iff.1 hdecode
      have hfits := hcells ▸ Instr.add_width_le_of_encode_isPrefix hinstr
      obtain ⟨next, hnext⟩ := exists_advancedPc hfits
      rw [bind_of_eq_ok (nextInstr_eq_ok_iff.2 hdecode), bind_of_eq_ok hnext]
      rw [error?_bind (r := none) fun _ _ => rfl, Option.or_none, error?_effect hcells hfits]
      simp only [hcut, if_false, ← Instr.operands_eq_of_encode_isPrefix hinstr]

/-- The faults that can arise: an address that is missing is the one behind memory or the one below
it, and the arithmetic unit is never asked for an operation that it does not know. -/
theorem refusal?_eq_some {fault : Fault} (h : cpu.refusal? = some fault) :
    (∀ e, fault ≠ .arith e) ∧ ∀ e, fault = .memory e → e = .noCell 256 ∨ e = .noCell (-1) := by
  have hregister : ∀ op operands, registerFault? op operands = some fault →
      ∃ reg, fault = .register (.noRegister reg) := by
    intro op operands h
    obtain ⟨reg, -, rfl⟩ := Option.map_eq_some_iff.1 h
    exact ⟨reg, rfl⟩
  have hstack : ∀ op operands, cpu.stackFault? op operands = some fault →
      fault = .memory (.noCell 256) ∨ fault = .memory (.noCell (-1)) := by
    intro op operands h
    unfold stackFault? at h
    grind
  unfold refusal? at h
  grind [Option.or_eq_some_iff]

/-- **When a step fails, and how.**  On a machine with 256 cells whose program counter is at most
256, a step fails exactly if a check applies, and with the fault of the first one that does.  No
fault but these arises, and the address behind a decoded instruction always exists. -/
theorem step_error_iff (hcells : cpu.mem.cells.length = addressCount) (hpc : cpu.pc ≤ addressCount) :
    (∀ fault, (∃ cpu', step cpu = .error fault cpu') ↔ cpu.refusal? = some fault) ∧
    (∀ fault cpu', step cpu = .error fault cpu' →
      (∀ e, fault ≠ .arith e) ∧ ∀ e, fault = .memory e → e = .noCell 256 ∨ e = .noCell (-1)) ∧
    ∀ instr, decode cpu.mem.cells cpu.pc = .ok instr →
      ∃ next, following instr cpu = .ok next cpu := by
  have hiff : ∀ fault, (∃ cpu', step cpu = .error fault cpu') ↔ cpu.refusal? = some fault := by
    intro fault
    rw [← error?_transition hcells hpc, error?_eq_some_iff, step_eq]
    simp only [outcome_eq_error_iff, exists_and_left, exists_eq, and_true]
  refine ⟨hiff, fun fault cpu' h => refusal?_eq_some ((hiff fault).1 ⟨cpu', h⟩), fun instr h => ?_⟩
  have hfits := Instr.add_width_le_of_encode_isPrefix (decode_eq_ok_iff.1 h)
  obtain ⟨next, hnext⟩ := exists_advancedPc (hcells ▸ hfits)
  exact ⟨next, by rw [following_eq, hnext]; rfl⟩

/-- A machine without room on its stack that stands before a call at the end of memory. -/
def callAtEnd : Cpu :=
  { powerOn with
    regs := ⟨#v[0, 0, 0, 0, 0, 0, 0, 0], 254⟩
    mem := Memory.blank.overlay 254 (Instr.call 3).encode }

/-- The return address of a call is looked at before the room for it. -/
theorem step_error_callAtEnd : ∃ cpu', step callAtEnd = .error (.memory (.noCell 256)) cpu' :=
  ((step_error_iff (by decide +kernel) (by decide)).1 _).2 (by decide +kernel)

end Cpu

end ByteMachine
