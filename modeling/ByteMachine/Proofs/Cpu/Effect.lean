import ByteMachine.Cpu.Run
import ByteMachine.Proofs.Instr.Decode

/-!
# The effect of one instruction

`Cpu.execute` and `Cpu.step` change the machine in place, one action after the other.  Here the
same instructions are functions that give either a new machine or a fault and no machine at all.
That both agree says that no instruction fails halfway, and it lets everything else about a step be
read off a function without intermediate machines.

## Main definitions

- `Cpu.effect` — the machine after an instruction, its program counter not yet moved on
- `Cpu.transition` — the instruction at the program counter with the machine after it

## Main statements

- `Cpu.execute_eq`, `Cpu.step_eq` — the actions in place have exactly these outcomes
- `Cpu.step_eq_ok_iff` — what a successful step consists of
- `Cpu.step_error_state` — a failing step changes nothing
-/

namespace ByteMachine

instance decidableEqResult {ε σ α : Type} [DecidableEq ε] [DecidableEq σ] [DecidableEq α] :
    DecidableEq (EStateM.Result ε σ α)
  | .ok a s, .ok a' s' => decidable_of_iff (a = a' ∧ s = s') (by simp)
  | .error e s, .error e' s' => decidable_of_iff (e = e' ∧ s = s') (by simp)
  | .ok .., .error .. => isFalse nofun
  | .error .., .ok .. => isFalse nofun

namespace Cpu

/-- The value of a register, or the fault of an instruction that reads it. -/
def regValue (cpu : Cpu) (index : Byte) : Except Fault Byte :=
  (cpu.regs.get index).mapError .register

/-- The machine with another value in a register. -/
def withReg (cpu : Cpu) (index value : Byte) : Except Fault Cpu :=
  ((changed? (cpu.regs.set index value)).map fun regs => { cpu with regs }).mapError .register

/-- The machine with another stack pointer. -/
def withSp (cpu : Cpu) (sp : Byte) : Cpu :=
  { cpu with regs := cpu.regs.withSp sp }

/-- The machine with the program counter at a byte address. -/
def jumpedTo (cpu : Cpu) (addr : Byte) : Cpu :=
  { cpu with regs := cpu.regs.jump addr }

/-- The byte on top of the stack. -/
def top (cpu : Cpu) : Except Fault Byte :=
  (cpu.mem.read cpu.regs.sp.toNat).mapError .memory

/-- The machine with another value in a memory cell. -/
def withCell (cpu : Cpu) (addr : Nat) (value : Byte) : Except Fault Cpu :=
  ((changed? (cpu.mem.write addr value)).map fun mem => { cpu with mem }).mapError .memory

/-- The machine with a byte put on its stack. -/
def pushed (cpu : Cpu) (value : Byte) : Except Fault Cpu :=
  if cpu.regs.sp = 0 then .error (.memory (.noCell (-1)))
  else do
    let sp := cpu.regs.sp - 1
    let cpu' ← cpu.withCell sp.toNat value
    return cpu'.withSp sp

/-- The address above a stack address. -/
def raised (addr : Byte) : Except Fault Byte :=
  if addr = 255 then .error (.memory (.ofAddress 256)) else .ok (addr + 1)

/-- The address behind the instruction at the program counter. -/
def pcBehind (cpu : Cpu) (instr : Instr) : Except Fault UInt16 :=
  (cpu.regs.pcAfter instr.width).mapError .memory

/-- An address as the byte that a call saves. -/
def returnByte (addr : UInt16) : Except Fault Byte :=
  if 255 < addr.toNat then .error (.memory (.ofAddress addr.toNat)) else .ok addr.toUInt8

/-- The machine after an instruction, except that the program counter has not moved on where the
instruction does not set it. -/
def effect (cpu : Cpu) : Instr → Except Fault Cpu
  | .hlt => return { cpu with state := .halted }
  | .ldi reg value => cpu.withReg reg value
  | .prn reg => do
    let value ← cpu.regValue reg
    return { cpu with output := cpu.output ++ [value] }
  | .arith op dest src => do
    let a ← cpu.regValue dest
    let b ← cpu.regValue src
    cpu.withReg dest (op.eval a b)
  | .push reg => do
    let value ← cpu.regValue reg
    cpu.pushed value
  | .pop reg => do
    let _ ← cpu.regValue reg
    let value ← cpu.top
    let sp ← raised (if reg = stackRegister then value else cpu.regs.sp)
    let cpu' ← cpu.withReg reg value
    return cpu'.withSp sp
  | .call reg => do
    let _ ← cpu.regValue reg
    let next ← cpu.pcBehind (.call reg)
    let saved ← returnByte next
    let cpu' ← cpu.pushed saved
    let target ← cpu'.regValue reg
    return cpu'.jumpedTo target
  | .ret => do
    let target ← cpu.top
    let sp ← raised cpu.regs.sp
    return (cpu.withSp sp).jumpedTo target

/-- Where the program counter moves after an instruction that neither halts nor sets it. -/
def advancedPc (cpu : Cpu) (instr : Instr) : Except Fault (Option UInt16) :=
  if instr = .hlt ∨ instr.isJump then .ok none
  else some <$> cpu.pcBehind instr

/-- The machine with an executed instruction accounted for. -/
def settled (cpu : Cpu) (instr : Instr) (next : Option UInt16) : Cpu :=
  { cpu with
    regs := { cpu.regs with pc := next.getD cpu.regs.pc }
    cycles := cpu.cycles + 1
    last := some instr }

/-- The fault of a machine that is not running. -/
def checkRunning (cpu : Cpu) : Except Fault Unit :=
  if cpu.state = .running then .ok () else .error (.notRunning cpu.state)

/-- The instruction at the program counter. -/
def nextInstr (cpu : Cpu) : Except Fault Instr :=
  (decode cpu.mem.cells cpu.pc).mapError .ofDecode

/-- The instruction at the program counter and the machine after it. -/
def transition (cpu : Cpu) : Except Fault (Instr × Cpu) := do
  cpu.checkRunning
  let instr ← cpu.nextInstr
  let next ← cpu.advancedPc instr
  let cpu' ← cpu.effect instr
  return (instr, cpu'.settled instr next)

/-- The outcome of an action that either gives a new machine or fails without touching it. -/
def outcome {α : Type} (cpu : Cpu) : Except Fault (α × Cpu) → EStateM.Result Fault Cpu α
  | .ok (value, cpu') => .ok value cpu'
  | .error fault => .error fault cpu

@[simp]
theorem sp_withSp (cpu : Cpu) (sp : Byte) : (cpu.withSp sp).regs.sp = sp := by
  simp [withSp, Registers.withSp, Registers.sp]

@[simp]
theorem mem_withSp (cpu : Cpu) (sp : Byte) : (cpu.withSp sp).mem = cpu.mem := rfl

@[simp]
theorem sp_jumpedTo (cpu : Cpu) (addr : Byte) : (cpu.jumpedTo addr).regs.sp = cpu.regs.sp := rfl

@[simp]
theorem mem_jumpedTo (cpu : Cpu) (addr : Byte) : (cpu.jumpedTo addr).mem = cpu.mem := rfl

@[simp]
theorem sp_settled (cpu : Cpu) (instr : Instr) (next : Option UInt16) :
    (cpu.settled instr next).regs.sp = cpu.regs.sp := rfl

@[simp]
theorem mem_settled (cpu : Cpu) (instr : Instr) (next : Option UInt16) :
    (cpu.settled instr next).mem = cpu.mem := rfl

theorem outcome_eq_ok_iff {α : Type} {cpu cpu' : Cpu} {x : Except Fault (α × Cpu)} {value : α} :
    cpu.outcome x = .ok value cpu' ↔ x = .ok (value, cpu') := by
  rcases x with fault | ⟨value, cpu'⟩ <;> simp [outcome]

theorem outcome_eq_error_iff {α : Type} {cpu cpu' : Cpu} {x : Except Fault (α × Cpu)}
    {fault : Fault} : cpu.outcome x = .error fault cpu' ↔ x = .error fault ∧ cpu' = cpu := by
  rcases x with fault | ⟨value, cpu'⟩ <;> simp [outcome, eq_comm]

/-! ## When the parts of an effect succeed -/

theorem regValue_eq_ok_iff {cpu : Cpu} {index value : Byte} :
    cpu.regValue index = .ok value ↔ ∃ h : index.toNat < 8, cpu.regs.reg[index.toNat] = value := by
  unfold regValue Registers.get
  by_cases h : index.toNat < 8 <;> simp [h]

theorem withReg_eq_ok_iff {cpu cpu' : Cpu} {index value : Byte} :
    cpu.withReg index value = .ok cpu' ↔ ∃ h : index.toNat < 8,
      { cpu with regs := { cpu.regs with reg := cpu.regs.reg.set index.toNat value } } = cpu' := by
  unfold withReg Registers.set
  by_cases h : index.toNat < 8 <;> simp [h, changed?, Except.map]

theorem withCell_eq_ok_iff {cpu cpu' : Cpu} {addr : Nat} {value : Byte} :
    cpu.withCell addr value = .ok cpu' ↔
      addr < cpu.mem.cells.length ∧ { cpu with mem := ⟨cpu.mem.cells.set addr value⟩ } = cpu' := by
  unfold withCell Memory.write
  by_cases h : addr < cpu.mem.cells.length <;> simp [h, changed?, Except.map]

theorem top_eq_ok_iff {cpu : Cpu} {value : Byte} :
    cpu.top = .ok value ↔ cpu.mem.cells[cpu.regs.sp.toNat]? = some value := by
  rw [top, mapError_eq_ok_iff, Memory.read_eq_ok_iff]

theorem raised_eq_ok_iff {addr above : Byte} :
    raised addr = .ok above ↔ addr ≠ 255 ∧ addr + 1 = above := by
  rw [raised, guard_eq_ok_iff, Except.ok.injEq]

theorem pcBehind_eq_ok_iff {cpu : Cpu} {instr : Instr} {next : UInt16} :
    cpu.pcBehind instr = .ok next ↔
      (cpu.regs.pc + instr.width.toUInt16).toNat ≤ addressCount ∧
        cpu.regs.pc + instr.width.toUInt16 = next := by
  rw [pcBehind, mapError_eq_ok_iff, Registers.pcAfter, guard_eq_ok_iff, Nat.not_lt,
    Except.ok.injEq]

/-- No address overflows behind an instruction that ends within memory. -/
theorem pcBehind_of_le {cpu : Cpu} {instr : Instr}
    (h : cpu.pc + instr.width.toNat ≤ addressCount) :
    ∃ next, cpu.pcBehind instr = .ok next ∧ next.toNat = cpu.pc + instr.width.toNat := by
  have hsum : (cpu.regs.pc + instr.width.toUInt16).toNat = cpu.pc + instr.width.toNat := by
    rw [UInt16.toNat_add, UInt8.toNat_toUInt16]
    exact Nat.mod_eq_of_lt (Nat.lt_of_le_of_lt h (by decide))
  exact ⟨_, pcBehind_eq_ok_iff.2 ⟨hsum ▸ h, rfl⟩, hsum⟩

theorem returnByte_eq_ok_iff {addr : UInt16} {b : Byte} :
    returnByte addr = .ok b ↔ addr.toNat ≤ 255 ∧ addr.toUInt8 = b := by
  rw [returnByte, guard_eq_ok_iff, Nat.not_lt, Except.ok.injEq]

theorem pushed_eq_ok_iff {cpu cpu' : Cpu} {value : Byte} :
    cpu.pushed value = .ok cpu' ↔
      cpu.regs.sp ≠ 0 ∧ (cpu.regs.sp - 1).toNat < cpu.mem.cells.length ∧
        { cpu.withSp (cpu.regs.sp - 1) with
          mem := ⟨cpu.mem.cells.set (cpu.regs.sp - 1).toNat value⟩ } = cpu' := by
  simp only [pushed, guard_eq_ok_iff, bind_eq_ok_iff, withCell_eq_ok_iff, pure_eq_ok_iff]
  constructor
  · rintro ⟨hsp, _, ⟨hlt, rfl⟩, rfl⟩
    exact ⟨hsp, hlt, rfl⟩
  · rintro ⟨hsp, hlt, rfl⟩
    exact ⟨hsp, _, ⟨hlt, rfl⟩, rfl⟩

theorem mem_withReg {cpu cpu' : Cpu} {index value : Byte} (h : cpu.withReg index value = .ok cpu') :
    cpu'.mem = cpu.mem := by
  obtain ⟨-, rfl⟩ := withReg_eq_ok_iff.1 h
  rfl

theorem length_cells_pushed {cpu cpu' : Cpu} {value : Byte} (h : cpu.pushed value = .ok cpu') :
    cpu'.mem.cells.length = cpu.mem.cells.length := by
  obtain ⟨-, -, rfl⟩ := pushed_eq_ok_iff.1 h
  simp

/-- No instruction changes the number of memory cells. -/
theorem length_cells_effect {cpu cpu' : Cpu} {instr : Instr} (h : cpu.effect instr = .ok cpu') :
    cpu'.mem.cells.length = cpu.mem.cells.length := by
  cases instr <;> simp only [effect, bind_eq_ok_iff, pure_eq_ok_iff] at h
  case hlt => rw [← h]
  case ldi reg value => rw [mem_withReg h]
  case prn reg =>
    obtain ⟨value, -, rfl⟩ := h
    rfl
  case arith op dest src =>
    obtain ⟨a, -, b, -, h⟩ := h
    rw [mem_withReg h]
  case push reg =>
    obtain ⟨value, -, h⟩ := h
    exact length_cells_pushed h
  case pop reg =>
    obtain ⟨old, -, value, -, sp, -, mid, hmid, rfl⟩ := h
    rw [mem_withSp, mem_withReg hmid]
  case call reg =>
    obtain ⟨old, -, next, -, saved, -, mid, hmid, target, -, rfl⟩ := h
    rw [mem_jumpedTo, length_cells_pushed hmid]
  case ret =>
    obtain ⟨target, -, sp, -, rfl⟩ := h
    rfl

/-! ## The actions in place -/

theorem bind_of_ok {α β : Type} {x : Exec α} {f : α → Exec β} {cpu mid : Cpu} {value : α}
    (h : x cpu = .ok value mid) : (x >>= f) cpu = f value mid := by
  show EStateM.bind x f cpu = _
  rw [EStateM.bind, h]

theorem bind_of_error {α β : Type} {x : Exec α} {f : α → Exec β} {cpu mid : Cpu} {fault : Fault}
    (h : x cpu = .error fault mid) : (x >>= f) cpu = .error fault mid := by
  show EStateM.bind x f cpu = _
  rw [EStateM.bind, h]

/-- An action that leaves the machine alone can be run before the rest of an effect. -/
theorem bind_of_check {α β : Type} {x : Exec α} {f : α → Exec β} {cpu : Cpu} {r : Except Fault α}
    {g : α → Except Fault (β × Cpu)} (hx : x cpu = cpu.outcome ((·, cpu) <$> r))
    (hf : ∀ value, r = .ok value → f value cpu = cpu.outcome (g value)) :
    (x >>= f) cpu = cpu.outcome (r >>= g) := by
  show EStateM.bind x f cpu = _
  rw [EStateM.bind, hx]
  cases r with
  | error fault => rfl
  | ok value => exact hf value rfl

/-- An action that changes the machine can be run before actions that do not fail after it. -/
theorem bind_of_change {β : Type} {x : Exec Unit} {f : Unit → Exec β} {cpu : Cpu}
    {r : Except Fault Cpu} {g : Cpu → Except Fault (β × Cpu)}
    (hx : x cpu = cpu.outcome (((), ·) <$> r))
    (hf : ∀ cpu', r = .ok cpu' → ∃ b cpu'', f () cpu' = .ok b cpu'' ∧ g cpu' = .ok (b, cpu'')) :
    (x >>= f) cpu = cpu.outcome (r >>= g) := by
  show EStateM.bind x f cpu = _
  rw [EStateM.bind, hx]
  cases r with
  | error fault => rfl
  | ok cpu' =>
    obtain ⟨b, cpu'', hfb, hg⟩ := hf cpu' rfl
    show f () cpu' = cpu.outcome (g cpu')
    rw [hfb, hg, outcome]

/-- A look at the machine leaves it alone. -/
theorem inspect_eq {α : Type} (look : Cpu → Except Fault α) (cpu : Cpu) :
    inspect look cpu = cpu.outcome ((·, cpu) <$> look cpu) := by
  unfold inspect
  cases look cpu <;> rfl

theorem readReg_eq (cpu : Cpu) (index : Byte) :
    readReg index cpu = cpu.outcome ((·, cpu) <$> cpu.regValue index) := by
  rw [readReg, onRegs, Registers.read, onPart_inspect fun _ => rfl]
  exact inspect_eq _ cpu

theorem writeReg_eq (cpu : Cpu) (index value : Byte) :
    writeReg index value cpu = cpu.outcome (((), ·) <$> cpu.withReg index value) := by
  unfold writeReg onRegs onPart withReg
  by_cases h : index.toNat < 8
  · rw [Registers.set, dif_pos h]
    rfl
  · rw [Registers.set, dif_neg h]
    rfl

theorem readMem_sp_eq (cpu : Cpu) :
    readMem cpu.regs.sp.toNat cpu = cpu.outcome ((·, cpu) <$> cpu.top) := by
  rw [readMem, onMem, onPart_inspect fun _ => rfl]
  exact inspect_eq _ cpu

theorem above_eq (cpu : Cpu) (addr : Byte) :
    above addr cpu = cpu.outcome ((·, cpu) <$> raised addr) := by
  unfold above raised
  split <;> rfl

theorem pcAfter_eq (cpu : Cpu) (instr : Instr) :
    pcAfter instr.width cpu = cpu.outcome ((·, cpu) <$> cpu.pcBehind instr) :=
  inspect_eq _ cpu

theorem writeMem_eq (cpu : Cpu) (addr : Nat) (value : Byte) :
    writeMem addr value cpu = cpu.outcome (((), ·) <$> cpu.withCell addr value) := by
  unfold writeMem onMem onPart withCell
  by_cases h : addr < cpu.mem.cells.length
  · rw [Memory.write, if_pos h]
    rfl
  · rw [Memory.write, if_neg h]
    rfl

theorem pushByte_eq (cpu : Cpu) (value : Byte) :
    pushByte value cpu = cpu.outcome (((), ·) <$> cpu.pushed value) := by
  show EStateM.bind (below cpu.regs.sp) _ cpu = _
  unfold pushed below
  by_cases hsp : cpu.regs.sp = 0
  · rw [if_pos hsp, if_pos hsp]
    rfl
  · rw [if_neg hsp, if_neg hsp]
    simp only [map_bind, map_pure]
    exact bind_of_change (writeMem_eq cpu _ value) fun cpu' _ => ⟨(), _, rfl, rfl⟩

theorem readSp_bind {β : Type} (f : Byte → Exec β) (cpu : Cpu) :
    (readSp >>= f) cpu = f cpu.regs.sp cpu := rfl

/-- Whether a register can be read depends on its index alone. -/
theorem exists_regValue {cpu : Cpu} {index value : Byte} (h : cpu.regValue index = .ok value)
    (other : Cpu) : ∃ value', other.regValue index = .ok value' := by
  obtain ⟨hindex, -⟩ := regValue_eq_ok_iff.1 h
  exact ⟨_, regValue_eq_ok_iff.2 ⟨hindex, rfl⟩⟩

theorem onRegs_bind {α β : Type} (x : Registers.Action α) (f : α → Registers.Action β) :
    onRegs (x >>= f) = onRegs x >>= fun a => onRegs (f a) := by
  refine onPart_bind ?_ ?_ x f <;> intros <;> rfl

/-- The arithmetic unit works on the registers one after the other, like the other instructions. -/
theorem execute_arith (op : ArithOp) (dest src : Byte) :
    execute (.arith op dest src) = (do
      let a ← readReg dest
      let b ← readReg src
      writeReg dest (op.eval a b)) := by
  rw [execute, ArithOp.apply]
  simp only [onRegs_bind, bind_assoc]
  exact bind_congr fun a => bind_congr fun b => bind_pure (writeReg dest (op.eval a b))

/-- An instruction in place either gives the machine of its effect or fails without a trace. -/
theorem execute_eq (cpu : Cpu) (instr : Instr) :
    execute instr cpu = cpu.outcome (((), ·) <$> cpu.effect instr) := by
  cases instr with
  | hlt => rfl
  | ldi reg value => exact writeReg_eq cpu reg value
  | prn reg =>
    simp only [effect, map_bind, map_pure]
    exact bind_of_check (readReg_eq cpu reg) fun value _ => rfl
  | arith op dest src =>
    rw [execute_arith]
    simp only [effect, map_bind]
    refine bind_of_check (readReg_eq cpu dest) fun a _ => ?_
    refine bind_of_check (readReg_eq cpu src) fun b _ => ?_
    exact writeReg_eq cpu dest (op.eval a b)
  | push reg =>
    simp only [effect, map_bind]
    exact bind_of_check (readReg_eq cpu reg) fun value _ => pushByte_eq cpu value
  | pop reg =>
    simp only [effect, map_bind, map_pure]
    refine bind_of_check (readReg_eq cpu reg) fun old hold => ?_
    refine (readSp_bind _ cpu).trans ?_
    refine bind_of_check (readMem_sp_eq cpu) fun value _ => ?_
    refine bind_of_check (above_eq cpu _) fun sp _ => ?_
    -- the register is the last thing that can fail, and the stack pointer moves after it
    exact bind_of_change (writeReg_eq cpu reg value) fun cpu' _ => ⟨(), _, rfl, rfl⟩
  | call reg =>
    simp only [effect, map_bind, map_pure]
    refine bind_of_check (readReg_eq cpu reg) fun old hold => ?_
    refine bind_of_check (pcAfter_eq cpu _) fun next _ => ?_
    rw [returnByte]
    split
    · rfl
    · -- the target is read after the push, but its index was checked before
      refine bind_of_change (pushByte_eq cpu _) fun cpu' _ => ?_
      obtain ⟨target, htarget⟩ := exists_regValue hold cpu'
      refine ⟨(), cpu'.jumpedTo target, ?_, ?_⟩
      · show EStateM.bind (readReg reg) _ cpu' = _
        rw [EStateM.bind, readReg_eq, htarget]
        rfl
      · rw [htarget]
        rfl
  | ret =>
    simp only [effect, map_bind, map_pure]
    refine (readSp_bind _ cpu).trans ?_
    refine bind_of_check (readMem_sp_eq cpu) fun target _ => ?_
    exact bind_of_check (above_eq cpu _) fun sp _ => rfl

theorem requireRunning_eq (cpu : Cpu) :
    requireRunning cpu = cpu.outcome ((·, cpu) <$> cpu.checkRunning) :=
  inspect_eq _ cpu

theorem fetchInstr_eq (cpu : Cpu) :
    fetchInstr cpu = cpu.outcome ((·, cpu) <$> cpu.nextInstr) :=
  inspect_eq _ cpu

theorem following_eq (cpu : Cpu) (instr : Instr) :
    following instr cpu = cpu.outcome ((·, cpu) <$> cpu.advancedPc instr) := by
  unfold following advancedPc
  split
  · rfl
  · show EStateM.map some (pcAfter instr.width) cpu = _
    rw [EStateM.map, pcAfter_eq]
    cases cpu.pcBehind instr <;> rfl

/-- A step either gives the machine of its transition or fails without a trace. -/
theorem step_eq (cpu : Cpu) : step cpu = cpu.outcome cpu.transition := by
  refine bind_of_check (requireRunning_eq cpu) fun _ _ => ?_
  refine bind_of_check (fetchInstr_eq cpu) fun instr _ => ?_
  refine bind_of_check (following_eq cpu instr) fun next _ => ?_
  -- nothing behind the instruction can fail, so its effect may be the last that does
  exact bind_of_change (execute_eq cpu instr) fun cpu' _ => ⟨instr, _, rfl, rfl⟩

theorem checkRunning_eq_ok_iff {cpu : Cpu} {u : Unit} :
    cpu.checkRunning = .ok u ↔ cpu.state = .running := by
  unfold checkRunning
  split <;> simp_all

theorem nextInstr_eq_ok_iff {cpu : Cpu} {instr : Instr} :
    cpu.nextInstr = .ok instr ↔ decode cpu.mem.cells cpu.pc = .ok instr :=
  mapError_eq_ok_iff

/-- What a successful step consists of. -/
theorem step_eq_ok_iff {cpu cpu' : Cpu} {instr : Instr} :
    step cpu = .ok instr cpu' ↔
      cpu.state = .running ∧ decode cpu.mem.cells cpu.pc = .ok instr ∧
        ∃ next, cpu.advancedPc instr = .ok next ∧
          ∃ mid, cpu.effect instr = .ok mid ∧ mid.settled instr next = cpu' := by
  rw [step_eq, outcome_eq_ok_iff, transition]
  simp only [bind_eq_ok_iff, checkRunning_eq_ok_iff, nextInstr_eq_ok_iff]
  constructor
  · rintro ⟨_, hrun, i, hdec, next, hnext, mid, hmid, h⟩
    cases h
    exact ⟨hrun, hdec, next, hnext, mid, hmid, rfl⟩
  · rintro ⟨hrun, hdec, next, hnext, mid, hmid, rfl⟩
    exact ⟨(), hrun, instr, hdec, next, hnext, mid, hmid, rfl⟩

/-- A failing step is a transition that fails, and there is no other machine than the one before. -/
theorem step_eq_error_iff {cpu cpu' : Cpu} {fault : Fault} :
    step cpu = .error fault cpu' ↔ cpu.transition = .error fault ∧ cpu' = cpu := by
  rw [step_eq, outcome_eq_error_iff]

/-- A step needs an opcode at the program counter. -/
theorem pc_lt_of_step {cpu cpu' : Cpu} {instr : Instr} (h : step cpu = .ok instr cpu') :
    cpu.pc < cpu.mem.cells.length := by
  obtain ⟨-, hdec, -⟩ := step_eq_ok_iff.1 h
  obtain ⟨hop, -⟩ := cons_isPrefix_drop_iff.1 (decode_eq_ok_iff.1 hdec)
  exact (List.getElem?_eq_some_iff.1 hop).1

theorem length_cells_step {cpu cpu' : Cpu} {instr : Instr} (h : step cpu = .ok instr cpu') :
    cpu'.mem.cells.length = cpu.mem.cells.length := by
  obtain ⟨-, -, next, -, mid, hmid, rfl⟩ := step_eq_ok_iff.1 h
  rw [mem_settled, length_cells_effect hmid]

/-- **A failing step is atomic**: whatever the fault, and whatever the number of memory cells,
registers, memory, state, counter, output and last instruction are what they were. -/
theorem step_error_state {cpu cpu' : Cpu} {fault : Fault} (h : step cpu = .error fault cpu') :
    cpu' = cpu := by
  rw [step_eq, outcome_eq_error_iff] at h
  exact h.2

/-- A machine whose two cells hold a call, with no cell at the address below its stack pointer. -/
def callWithoutStack : Cpu :=
  { powerOn with mem := ⟨(Instr.call 1).encode⟩ }

/-- A call fails for want of a cell only after it has computed its return address. -/
theorem step_callWithoutStack :
    ∃ cpu', step callWithoutStack = .error (.memory (.noCell 243)) cpu' ∧
      cpu' = callWithoutStack := by
  have h : step callWithoutStack = .error (.memory (.noCell 243)) callWithoutStack := by
    decide +kernel
  exact ⟨_, h, step_error_state h⟩

end Cpu

end ByteMachine
