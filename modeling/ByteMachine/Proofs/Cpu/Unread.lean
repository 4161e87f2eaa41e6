import ByteMachine.Proofs.Cpu.Stores

/-!
# Memory that is not read

A step reads the bytes of its instruction and, if that takes a byte off the stack, the cell at the
stack pointer.  A cell that a run does not read before it has stored into it has no influence on the
run: two machines that differ there alone give the same answers, also where a step fails, and differ
there alone until the store makes them equal.

Of two such machines, one is the other with another byte put into the cell.  So what has to be shown
is that putting the byte in before a step or after it is the same, unless the step stores into the
cell and with that makes the byte disappear.

## Main definitions

- `Memory.poke`, `Cpu.poke` — another byte in a cell
- `Cpu.reads` — the addresses that a step reads or tries to read
- `Cpu.Stores` — a step that stores into a cell
- `Cpu.AgreeOff` — two machines that differ in one cell at most

## Main statements

- `Cpu.effect_poke`, `Cpu.effect_poke_of_storesAt` — another byte in a cell before an instruction
- `Cpu.step_poke_of_not_stores`, `Cpu.step_poke_of_stores` — the same before a step
- `Cpu.AgreeOff.step` — one step of two machines
- `Cpu.AgreeOff.after`, `Cpu.unread_without_influence` — any number of steps
-/

namespace ByteMachine

namespace Memory

/-- The memory with another byte in the cell at an address, if there is one. -/
def poke (addr : Nat) (value : Byte) (m : Memory) : Memory :=
  ⟨m.cells.set addr value⟩

variable {m : Memory} {addr i : Nat} {value b : Byte}

@[simp]
theorem length_cells_poke : (m.poke addr value).cells.length = m.cells.length :=
  List.length_set

theorem cells_poke_of_ne (hne : i ≠ addr) : (m.poke addr value).cells[i]? = m.cells[i]? :=
  List.getElem?_set_ne hne.symm

theorem read_poke_of_ne (hne : i ≠ addr) : (m.poke addr value).read i = m.read i := by
  rw [read, cells_poke_of_ne hne, read]

theorem write_poke_of_ne (hne : i ≠ addr) :
    (m.poke addr value).write i b = mapState (poke addr value) (m.write i b) := by
  unfold write
  rw [length_cells_poke]
  split
  · rw [poke, List.set_comm value b hne.symm]
    rfl
  · rfl

/-- A byte that is stored replaces whatever was there. -/
theorem write_poke_self : (m.poke addr value).write addr b = m.write addr b := by
  unfold write
  rw [length_cells_poke]
  split
  next => rw [poke, List.set_set]
  next hmissing =>
    have hsame : m.poke addr value = m :=
      congrArg Memory.mk (List.set_eq_of_length_le (Nat.not_lt.1 hmissing))
    rw [hsame]

end Memory

namespace Cpu

/-- The addresses at which a step looks for an opcode and its operands. -/
def fetched (cpu : Cpu) : List Nat :=
  match (cpu.mem.cells[cpu.pc]?).bind Opcode.ofByte? with
  | some op => List.range' cpu.pc ((arity op.byte).toNat + 1)
  | none => [cpu.pc]

/-- The address at which a step looks for the top of the stack, if its instruction takes a byte off
it. -/
def popped (cpu : Cpu) : List Nat :=
  match cpu.nextInstr with
  | .ok instr => if instr.isPop then [cpu.regs.sp.toNat] else []
  | .error _ => []

/-- The addresses that a step reads or tries to read. -/
def reads (cpu : Cpu) : List Nat :=
  if cpu.state = .running then cpu.fetched ++ cpu.popped else []

/-- A step of the machine puts a byte on the stack, into the cell at the address. -/
def Stores (cpu : Cpu) (addr : Nat) : Prop :=
  ∃ instr cpu', step cpu = .ok instr cpu' ∧ cpu.StoresAt instr addr

/-- Two machines with the same number of cells that differ in nothing but, perhaps, one cell. -/
structure AgreeOff (addr : Nat) (cpu cpu' : Cpu) : Prop where
  frame : cpu' = { cpu with mem := cpu'.mem }
  length_cells : cpu'.mem.cells.length = cpu.mem.cells.length
  cells : ∀ i ≠ addr, cpu'.mem.cells[i]? = cpu.mem.cells[i]?

/-- The machine with another byte in the cell at an address, if there is one. -/
def poke (addr : Nat) (value : Byte) (cpu : Cpu) : Cpu :=
  { cpu with mem := cpu.mem.poke addr value }

variable {cpu cpu' mid : Cpu} {instr : Instr} {addr : Nat} {value : Byte}

/-! ## Another byte before an instruction -/

section Parts

variable (addr value cpu)

theorem regs_poke : (cpu.poke addr value).regs = cpu.regs := rfl

theorem regValue_poke (index : Byte) :
    (cpu.poke addr value).regValue index = cpu.regValue index := rfl

theorem pcBehind_poke (instr : Instr) :
    (cpu.poke addr value).pcBehind instr = cpu.pcBehind instr := rfl

theorem withSp_poke (sp : Byte) :
    (cpu.poke addr value).withSp sp = (cpu.withSp sp).poke addr value := rfl

theorem jumpedTo_poke (target : Byte) :
    (cpu.poke addr value).jumpedTo target = (cpu.jumpedTo target).poke addr value := rfl

theorem withReg_poke (index b : Byte) :
    (cpu.poke addr value).withReg index b = poke addr value <$> cpu.withReg index b := by
  unfold withReg
  rw [regs_poke]
  cases cpu.regs.set index b <;> rfl

variable {addr cpu}

theorem top_poke (hsp : cpu.regs.sp.toNat ≠ addr) : (cpu.poke addr value).top = cpu.top :=
  congrArg (Except.mapError Fault.memory) (Memory.read_poke_of_ne hsp)

theorem withCell_poke_of_ne {i : Nat} (hne : i ≠ addr) (b : Byte) :
    (cpu.poke addr value).withCell i b = poke addr value <$> cpu.withCell i b := by
  have hwrite : (cpu.poke addr value).mem.write i b = _ := Memory.write_poke_of_ne hne
  unfold withCell
  rw [hwrite]
  cases cpu.mem.write i b <;> rfl

theorem withCell_poke_self (b : Byte) :
    (cpu.poke addr value).withCell addr b = cpu.withCell addr b := by
  have hwrite : (cpu.poke addr value).mem.write addr b = _ := Memory.write_poke_self
  unfold withCell
  rw [hwrite]
  cases cpu.mem.write addr b <;> rfl

theorem pushed_poke (hsp : cpu.regs.sp.toNat ≠ addr + 1) (b : Byte) :
    (cpu.poke addr value).pushed b = poke addr value <$> cpu.pushed b := by
  unfold pushed
  rw [regs_poke]
  by_cases hzero : cpu.regs.sp = 0
  · rw [if_pos hzero, if_pos hzero]
    rfl
  · have hne : (cpu.regs.sp - 1).toNat ≠ addr := by
      have := toNat_eq_succ_of_ne_zero hzero
      omega
    rw [if_neg hzero, if_neg hzero]
    simp only [withCell_poke_of_ne value hne, withSp_poke, map_bind, bind_map_left, map_pure]

/-- A push replaces the byte. -/
theorem pushed_poke_of_eq (hsp : cpu.regs.sp.toNat = addr + 1) (b : Byte) :
    (cpu.poke addr value).pushed b = cpu.pushed b := by
  have hzero : cpu.regs.sp ≠ 0 := by
    intro h
    rw [h] at hsp
    exact nomatch hsp
  obtain rfl : (cpu.regs.sp - 1).toNat = addr := by
    have := toNat_eq_succ_of_ne_zero hzero
    omega
  unfold pushed
  rw [regs_poke, if_neg hzero, if_neg hzero]
  simp only [withCell_poke_self]

end Parts

/-- Another byte in a cell stays there while an instruction is executed that neither takes it off
the stack nor stores into the cell. -/
theorem effect_poke (hpop : instr.isPop = true → cpu.regs.sp.toNat ≠ addr)
    (hstores : ¬cpu.StoresAt instr addr) (value : Byte) :
    (cpu.poke addr value).effect instr = poke addr value <$> cpu.effect instr := by
  have hpush : instr.isPush = true → cpu.regs.sp.toNat ≠ addr + 1 := fun h hsp => hstores ⟨h, hsp⟩
  cases instr with
  | hlt => rfl
  | ldi reg b => exact withReg_poke cpu addr value reg b
  | prn reg =>
    simp only [effect, regValue_poke, map_bind, map_pure]
    rfl
  | arith op dest src => simp only [effect, regValue_poke, withReg_poke, map_bind]
  | push reg => simp only [effect, regValue_poke, pushed_poke value (hpush rfl), map_bind]
  | pop reg =>
    simp only [effect, regValue_poke, top_poke value (hpop rfl), regs_poke, withReg_poke,
      withSp_poke, map_bind, bind_map_left, map_pure]
  | call reg =>
    simp only [effect, regValue_poke, pcBehind_poke, pushed_poke value (hpush rfl), jumpedTo_poke,
      map_bind, bind_map_left, map_pure]
  | ret =>
    simp only [effect, top_poke value (hpop rfl), regs_poke, withSp_poke, jumpedTo_poke, map_bind,
      map_pure]

/-- It disappears where an instruction stores into the cell. -/
theorem effect_poke_of_storesAt (hstores : cpu.StoresAt instr addr) (value : Byte) :
    (cpu.poke addr value).effect instr = cpu.effect instr := by
  obtain ⟨hpush, hsp⟩ := hstores
  cases instr with
  | push reg => simp only [effect, regValue_poke, pushed_poke_of_eq value hsp]
  | call reg => simp only [effect, regValue_poke, pcBehind_poke, pushed_poke_of_eq value hsp]
  | hlt | ldi | prn | arith | pop | ret => cases hpush

/-! ## Another byte before a step -/

/-- An instruction is decoded from the bytes that are fetched. -/
theorem nextInstr_poke (hfetched : addr ∉ cpu.fetched) (value : Byte) :
    (cpu.poke addr value).nextInstr = cpu.nextInstr := by
  have hpc : cpu.pc ≠ addr := by
    rintro rfl
    refine hfetched ?_
    unfold fetched
    split <;> simp
  have hdecode : decode (cpu.mem.poke addr value).cells cpu.pc = decode cpu.mem.cells cpu.pc := by
    refine decode_congr (Memory.cells_poke_of_ne hpc) fun op hop i hlt hle => ?_
    refine Memory.cells_poke_of_ne ?_
    rintro rfl
    refine hfetched ?_
    rw [fetched, hop, Option.bind_some, Opcode.ofByte?_byte]
    simp only [List.mem_range'_1]
    omega
  exact congrArg (Except.mapError Fault.ofDecode) hdecode

theorem not_mem_fetched (hrunning : cpu.state = .running) (hread : addr ∉ cpu.reads) :
    addr ∉ cpu.fetched := by
  rw [reads, if_pos hrunning] at hread
  exact fun h => hread (List.mem_append_left _ h)

theorem sp_ne_of_isPop (hrunning : cpu.state = .running) (hread : addr ∉ cpu.reads)
    (hinstr : cpu.nextInstr = .ok instr) (hpop : instr.isPop = true) :
    cpu.regs.sp.toNat ≠ addr := by
  rintro rfl
  rw [reads, if_pos hrunning] at hread
  refine hread (List.mem_append_right _ ?_)
  simp [popped, hinstr, hpop]

theorem transition_of_running (hrunning : cpu.state = .running)
    (hinstr : cpu.nextInstr = .ok instr) :
    cpu.transition = do
      let next ← cpu.advancedPc instr
      let cpu' ← cpu.effect instr
      return (instr, cpu'.settled instr next) := by
  have hcheck : cpu.checkRunning = .ok () := checkRunning_eq_ok_iff.2 hrunning
  rw [transition, bind_of_eq_ok hcheck, bind_of_eq_ok hinstr]

/-- Another byte in a cell that a step does not read stays there, unless the instruction would store
into the cell. -/
theorem transition_poke (hread : addr ∉ cpu.reads)
    (hstores : cpu.state = .running → ∀ instr, cpu.nextInstr = .ok instr →
      ¬cpu.StoresAt instr addr) (value : Byte) :
    (cpu.poke addr value).transition =
      (fun (instr, cpu') => (instr, cpu'.poke addr value)) <$> cpu.transition := by
  by_cases hrunning : cpu.state = .running
  swap
  · have hcheck : cpu.checkRunning = .error (.notRunning cpu.state) := if_neg hrunning
    rw [transition, transition, bind_of_eq_error hcheck]
    exact bind_of_eq_error hcheck
  have hpoked : (cpu.poke addr value).state = .running := hrunning
  have hnext := nextInstr_poke (not_mem_fetched hrunning hread) value
  cases hinstr : cpu.nextInstr with
  | error fault =>
    have hcheck : cpu.checkRunning = .ok () := checkRunning_eq_ok_iff.2 hrunning
    rw [transition, transition, bind_of_eq_ok hcheck, bind_of_eq_error hinstr]
    exact (bind_of_eq_ok hcheck).trans (bind_of_eq_error (hnext.trans hinstr))
  | ok instr =>
    have heffect := effect_poke (sp_ne_of_isPop hrunning hread hinstr)
      (hstores hrunning instr hinstr) value
    rw [transition_of_running hrunning hinstr, transition_of_running hpoked (hnext.trans hinstr),
      heffect]
    simp only [map_bind, bind_map_left, map_pure]
    rfl

/-- If the instruction would store into the cell, the byte makes no difference. -/
theorem transition_poke_of_storesAt (hread : addr ∉ cpu.reads) (hrunning : cpu.state = .running)
    (hinstr : cpu.nextInstr = .ok instr) (hstores : cpu.StoresAt instr addr) (value : Byte) :
    (cpu.poke addr value).transition = cpu.transition := by
  have hpoked : (cpu.poke addr value).state = .running := hrunning
  have hnext := nextInstr_poke (not_mem_fetched hrunning hread) value
  rw [transition_of_running hrunning hinstr, transition_of_running hpoked (hnext.trans hinstr),
    effect_poke_of_storesAt hstores]
  rfl

/-- Another byte in a cell that a step does not read comes through the step, unless this stores
into the cell. -/
theorem step_poke_of_not_stores (hread : addr ∉ cpu.reads) (hstores : ¬cpu.Stores addr)
    (value : Byte) :
    step (cpu.poke addr value) = mapState (poke addr value) (step cpu) := by
  rw [step_eq, step_eq]
  by_cases haims : cpu.state = .running ∧
      ∃ instr, cpu.nextInstr = .ok instr ∧ cpu.StoresAt instr addr
  · obtain ⟨hrunning, instr, hinstr, hat⟩ := haims
    rw [transition_poke_of_storesAt hread hrunning hinstr hat]
    -- the instruction would store into the cell, so it has failed
    cases htransition : cpu.transition with
    | error fault => rfl
    | ok result =>
      have hstep : step cpu = .ok result.1 result.2 := by rw [step_eq, htransition, outcome]
      obtain ⟨-, hdecode, -⟩ := step_eq_ok_iff.1 hstep
      obtain rfl : instr = result.1 :=
        Except.ok.inj (hinstr.symm.trans (nextInstr_eq_ok_iff.2 hdecode))
      exact absurd ⟨_, _, hstep, hat⟩ hstores
  · rw [transition_poke hread fun hrunning instr hinstr hat => haims ⟨hrunning, instr, hinstr, hat⟩]
    rcases cpu.transition with fault | ⟨instr, cpu'⟩ <;> rfl

theorem step_poke_of_stores (hread : addr ∉ cpu.reads) (hstores : cpu.Stores addr) (value : Byte) :
    step (cpu.poke addr value) = step cpu := by
  obtain ⟨instr, cpu', hstep, hat⟩ := hstores
  obtain ⟨hrunning, hdecode, -⟩ := step_eq_ok_iff.1 hstep
  rw [hstep, step_eq, outcome_eq_ok_iff,
    transition_poke_of_storesAt hread hrunning (nextInstr_eq_ok_iff.2 hdecode) hat,
    ← outcome_eq_ok_iff, ← step_eq, hstep]

/-! ## Two machines -/

theorem agreeOff_poke (addr : Nat) (value : Byte) (cpu : Cpu) :
    AgreeOff addr cpu (cpu.poke addr value) :=
  ⟨rfl, Memory.length_cells_poke, fun _ hne => Memory.cells_poke_of_ne hne⟩

namespace AgreeOff

theorem refl (addr : Nat) (cpu : Cpu) : AgreeOff addr cpu cpu :=
  ⟨rfl, rfl, fun _ _ => rfl⟩

/-- One of the two is the other with another byte in the cell. -/
theorem exists_poke (h : AgreeOff addr cpu cpu') : ∃ value, cpu' = cpu.poke addr value := by
  refine ⟨cpu'.mem.peek addr, ?_⟩
  have hcells : cpu'.mem.cells = cpu.mem.cells.set addr (cpu'.mem.peek addr) := by
    refine List.ext_getElem (by rw [h.length_cells, List.length_set]) fun i hi hi' => ?_
    by_cases hne : i = addr
    · subst hne
      rw [List.getElem_set_self, Memory.peek, List.getElem?_eq_getElem hi]
      rfl
    · have hcell := h.cells i hne
      rw [List.getElem_set_ne (Ne.symm hne)]
      rw [List.length_set] at hi'
      rw [List.getElem?_eq_getElem hi, List.getElem?_eq_getElem hi'] at hcell
      exact Option.some.inj hcell
  rw [poke, Memory.poke, ← hcells]
  exact h.frame

/-- A step that does not read the cell gives the same answer on both machines.  They still differ
there at most, and nowhere if the step has stored into the cell. -/
theorem step (h : AgreeOff addr cpu cpu') (hread : addr ∉ cpu.reads) :
    answer (Cpu.step cpu') = answer (Cpu.step cpu) ∧
      AgreeOff addr (endState (Cpu.step cpu)) (endState (Cpu.step cpu')) ∧
      (cpu.Stores addr → endState (Cpu.step cpu') = endState (Cpu.step cpu)) := by
  obtain ⟨value, rfl⟩ := h.exists_poke
  by_cases hstores : cpu.Stores addr
  · rw [step_poke_of_stores hread hstores]
    exact ⟨rfl, refl addr _, fun _ => rfl⟩
  · rw [step_poke_of_not_stores hread hstores, answer_mapState, endState_mapState]
    exact ⟨rfl, agreeOff_poke addr value _, fun h => absurd h hstores⟩

/-- Two machines differ in the cell at most, as long as no step has read it before one has stored
into it, and then nowhere. -/
theorem after {n : Nat} (h : AgreeOff addr cpu cpu')
    (hunread : ∀ k < n, addr ∈ (cpu.after k).reads → ∃ j < k, (cpu.after j).Stores addr)
    {k : Nat} (hk : k ≤ n) :
    AgreeOff addr (cpu.after k) (cpu'.after k) ∧
      ((∃ j < k, (cpu.after j).Stores addr) → cpu'.after k = cpu.after k) := by
  induction k with
  | zero => exact ⟨h, fun ⟨j, hj, _⟩ => absurd hj (Nat.not_lt_zero j)⟩
  | succ k ih =>
    obtain ⟨hagree, hequal⟩ := ih (Nat.le_of_succ_le hk)
    rw [after_succ_eq_endState cpu, after_succ_eq_endState cpu']
    by_cases hstored : ∃ j < k, (cpu.after j).Stores addr
    · rw [hequal hstored]
      exact ⟨refl addr _, fun _ => rfl⟩
    obtain ⟨-, hnext, hstore⟩ := hagree.step fun hread => hstored (hunread k hk hread)
    refine ⟨hnext, ?_⟩
    rintro ⟨j, hj, hstores⟩
    -- the store is that of the last step, as there was none before
    rcases Nat.lt_succ_iff_lt_or_eq.1 hj with hj | rfl
    · exact absurd ⟨j, hj, hstores⟩ hstored
    · exact hstore hstores

end AgreeOff

/-- **Memory that a run does not read has no influence on it.**  Take two machines that differ in
one cell at most, and any number of steps, which may fail.  Let no step of the first machine try to
fetch an opcode or an operand from the cell, nor to take a byte off a stack whose top it is, before
a step has stored into the cell.  Then each step gives the same answer on both machines.  They
differ in the cell at most after every step, and nowhere from the first store into it on. -/
theorem unread_without_influence {n : Nat} (h : AgreeOff addr cpu cpu')
    (hunread : ∀ k < n, addr ∈ (cpu.after k).reads → ∃ j < k, (cpu.after j).Stores addr) :
    (∀ k < n, answer (step (cpu'.after k)) = answer (step (cpu.after k))) ∧
    ∀ k ≤ n, AgreeOff addr (cpu.after k) (cpu'.after k) ∧
      ((∃ j < k, (cpu.after j).Stores addr) → cpu'.after k = cpu.after k) := by
  refine ⟨fun k hk => ?_, fun k hk => h.after hunread hk⟩
  obtain ⟨hagree, hequal⟩ := h.after hunread hk.le
  by_cases hstored : ∃ j < k, (cpu.after j).Stores addr
  · rw [hequal hstored]
  · exact (hagree.step fun hread => hstored (hunread k hk hread)).1

/-- A machine that is about to push a value, to pop it and to halt. -/
def pushingOnce : Cpu :=
  loaded (Instr.encodeList [.push 1, .pop 2, .hlt])

/-- The cell that is popped is overwritten before.  Whatever was in it, the machine is the same from
the push on, and so are the answers up to the refusal of a step after the end. -/
theorem unread_without_influence_pushingOnce :
    AgreeOff 243 pushingOnce (pushingOnce.poke 243 9) ∧
      pushingOnce.poke 243 9 ≠ pushingOnce ∧
      (pushingOnce.poke 243 9).after 4 = pushingOnce.after 4 ∧
      answer (step ((pushingOnce.poke 243 9).after 3)) = .error (.notRunning .halted) := by
  have hagree := agreeOff_poke 243 9 pushingOnce
  have hstores : (pushingOnce.after 0).Stores 243 :=
    ⟨.push 1, pushingOnce.after 1, by decide +kernel⟩
  have hunread : ∀ k < 4, 243 ∈ (pushingOnce.after k).reads →
      ∃ j < k, (pushingOnce.after j).Stores 243 := by
    have hlater : ∀ k < 4, 243 ∈ (pushingOnce.after k).reads → 0 < k := by
      decide +kernel
    exact fun k hk hread => ⟨0, hlater k hk hread, hstores⟩
  obtain ⟨hanswers, hmachines⟩ := unread_without_influence hagree hunread
  refine ⟨hagree, by decide +kernel, (hmachines 4 le_rfl).2 ⟨0, by decide, hstores⟩, ?_⟩
  rw [hanswers 3 (by decide)]
  decide +kernel

end Cpu

end ByteMachine
