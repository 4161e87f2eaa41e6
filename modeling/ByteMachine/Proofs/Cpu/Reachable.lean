import ByteMachine.Proofs.Cpu.Ending

/-!
# The machines that can come about

A new machine is loaded, run, written to and reset in any order, and each of these operations may
fail.  What is true of it at every moment is true of a new machine, and a step keeps it; so do runs,
which consist of steps, and so does every operation that is no step, because none of them changes
the number of cells or moves the program counter behind memory.

## Main definitions

- `Cpu.Op`, `Cpu.perform` — the operations on a machine
- `Cpu.PerformsSteps` — the instructions that an operation executes
- `Cpu.Reached` — the histories of a machine, with the steps since the last reset
- `Cpu.Sound` — what holds at every moment

## Main statements

- `Cpu.Sound.step`, `Cpu.Sound.perform` — one step, and one operation
- `Cpu.Reached.sound` — a whole history
- `Cpu.halted_foldl_perform` — a machine that has halted stays so until it is reset
- `Cpu.reached_invariant` — the same for all operations together
-/

namespace ByteMachine.Cpu

/-- The operations on a machine. -/
inductive Op where
  | load (program : List Byte)
  | loadAt (start : Nat) (bytes : List Byte)
  | step
  | run
  | runFor (max : UInt64)
  | reset
  /-- Take the output. -/
  | drain
  | jump (addr : Byte)
  | setReg (index value : Byte)
  | setCell (addr : Nat) (value : Byte)
deriving DecidableEq, Repr

/-- The machine after an operation, whether it has failed or not.  A machine that has all its cells
is never stopped by a load (`Memory.isSome_load`). -/
def perform (cpu : Cpu) : Op → Cpu
  | .load program => ((cpu.load program).map endState).getD cpu
  | .loadAt start bytes =>
    { cpu with mem := ((cpu.mem.load start bytes).map endState).getD cpu.mem }
  | .step => endState (Cpu.step cpu)
  | .run => endState (Cpu.run cpu)
  | .runFor max => endState (Cpu.runFor max cpu)
  | .reset => cpu.reset
  | .drain => cpu.drain.2
  | .jump addr => endState (Cpu.jump addr cpu)
  | .setReg index value => endState (Cpu.writeReg index value cpu)
  | .setCell addr value => endState (Cpu.writeMem addr value cpu)

/-- The number of steps that a limited run may take.  It never passes the last value of the cycle
counter. -/
def room (cpu : Cpu) (max : UInt64) : Nat :=
  min max.toNat (cycleSpan - 1 - cpu.cycles.toNat)

/-- The number of steps that an operation may take, if there is a limit to it. -/
def stepLimit (cpu : Cpu) : Op → Option Nat
  | .step => some 1
  | .run => none
  | .runFor max => some (cpu.room max)
  | .load _ | .loadAt .. | .reset | .drain | .jump _ | .setReg .. | .setCell .. => some 0

/-- Whether an operation executes instructions. -/
def Op.executesSteps : Op → Bool
  | .step | .run | .runFor _ => true
  | .load _ | .loadAt .. | .reset | .drain | .jump _ | .setReg .. | .setCell .. => false

/-- The operation executes the instructions, none of which fails, and then no more of them. -/
def PerformsSteps (cpu : Cpu) (op : Op) (instrs : List Instr) : Prop :=
  ∃ last ending, cpu.RunsTo (cpu.stepLimit op) instrs last ending

/-- The operations make a new machine this one, and so many of their steps have succeeded since the
last reset.  All of them have come to an end. -/
inductive Reached : List Op → Nat → Cpu → Prop where
  | new : Reached [] 0 powerOn
  | next {ops : List Op} {count : Nat} {cpu : Cpu} {op : Op} {instrs : List Instr} :
    Reached ops count cpu → cpu.PerformsSteps op instrs →
      Reached (ops ++ [op]) (if op = .reset then 0 else count + instrs.length) (cpu.perform op)

/-- What holds at every moment of a history with so many steps since the last reset. -/
structure Sound (cpu : Cpu) (count : Nat) : Prop where
  length_cells : cpu.mem.cells.length = addressCount
  /-- The program counter may stand behind memory, but no further. -/
  pc_le : cpu.pc ≤ addressCount
  cycles_eq : cpu.cycles = UInt64.ofNat count

variable {cpu cpu' last mid : Cpu} {instr : Instr} {instrs : List Instr} {op : Op} {count : Nat}
  {ending : Ending}

/-! ### Steps -/

theorem toNat_pc_jumpedTo_lt (cpu : Cpu) (addr : Byte) : (cpu.jumpedTo addr).pc < addressCount := by
  show addr.toUInt16.toNat < addressCount
  rw [UInt8.toNat_toUInt16]
  exact addr.toNat_lt

/-- An instruction moves the program counter to a byte address or not at all. -/
theorem pc_effect (h : cpu.effect instr = .ok mid) : mid.pc = cpu.pc ∨ mid.pc < addressCount := by
  cases instr <;> simp only [effect, bind_eq_ok_iff, pure_eq_ok_iff, withReg_eq_ok_iff,
    pushed_eq_ok_iff] at h
  case hlt =>
    rw [← h]
    exact .inl rfl
  case ldi reg value =>
    obtain ⟨-, rfl⟩ := h
    exact .inl rfl
  case prn reg =>
    obtain ⟨value, -, rfl⟩ := h
    exact .inl rfl
  case arith op dest src =>
    obtain ⟨a, -, b, -, -, rfl⟩ := h
    exact .inl rfl
  case push reg =>
    obtain ⟨value, -, -, -, rfl⟩ := h
    exact .inl rfl
  case pop reg =>
    obtain ⟨old, -, value, -, sp, -, mid, ⟨-, rfl⟩, rfl⟩ := h
    exact .inl rfl
  case call reg =>
    obtain ⟨old, -, next, -, saved, -, mid, -, target, -, rfl⟩ := h
    exact .inr (toNat_pc_jumpedTo_lt mid target)
  case ret =>
    obtain ⟨target, -, sp, -, rfl⟩ := h
    exact .inr (toNat_pc_jumpedTo_lt _ target)

theorem pc_le_of_step (h : step cpu = .ok instr mid) (hpc : cpu.pc ≤ addressCount) :
    mid.pc ≤ addressCount := by
  obtain ⟨-, -, next, hnext, mid, hmid, rfl⟩ := step_eq_ok_iff.1 h
  cases next with
  | none =>
    show mid.pc ≤ addressCount
    rcases pc_effect hmid with hsame | hlt
    · exact hsame ▸ hpc
    · exact Nat.le_of_lt hlt
  | some next =>
    show next.toNat ≤ addressCount
    unfold advancedPc at hnext
    split at hnext
    · exact nomatch hnext
    · obtain ⟨addr, hbehind, hsome⟩ := map_eq_ok_iff.1 hnext
      obtain ⟨hle, rfl⟩ := pcBehind_eq_ok_iff.1 hbehind
      exact Option.some.inj hsome ▸ hle

namespace Sound

theorem powerOn : Sound powerOn 0 :=
  ⟨Memory.length_cells_blank, Nat.zero_le _, rfl⟩

theorem step (h : Sound cpu count) (hstep : step cpu = .ok instr mid) : Sound mid (count + 1) := by
  have hcycles := (Executes.cons hstep (.nil mid)).cycles_eq
  refine ⟨(length_cells_step hstep).trans h.length_cells, pc_le_of_step hstep h.pc_le, ?_⟩
  rw [hcycles, h.cycles_eq, UInt64.ofNat_add]
  rfl

theorem executes (h : Sound cpu count) (hexec : cpu.Executes instrs last) :
    Sound last (count + instrs.length) := by
  induction hexec generalizing count with
  | nil cpu => exact h
  | cons hstep _ ih =>
    rw [List.length_cons, Nat.add_comm _ 1, ← Nat.add_assoc]
    exact ih (h.step hstep)

end Sound

/-! ### Operations that execute instructions -/

theorem step_of_halted (h : cpu.state = .halted) :
    step cpu = .error (.notRunning .halted) cpu := by
  have hcheck : cpu.checkRunning = .error (.notRunning .halted) := by
    rw [checkRunning, h]
    rfl
  exact step_eq_error_iff.2 ⟨bind_of_eq_error hcheck, rfl⟩

theorem run_of_halted (h : cpu.state = .halted) : run cpu = .ok 0 cpu :=
  (Executes.nil cpu).run_eq h

theorem runFor_of_halted (h : cpu.state = .halted) (max : UInt64) : runFor max cpu = .ok 0 cpu :=
  (Executes.nil cpu).counted_eq (advance_of_halted h _)

theorem endState_result {α : Type} (ending : Ending) (value : α) (last : Cpu) :
    endState (ending.result value last) = last := by
  cases ending <;> rfl

/-- A step leaves the same machine as a run for one step, which does not fail where the machine has
halted. -/
theorem endState_step (cpu : Cpu) : endState (step cpu) = endState (advance 1 cpu) := by
  cases hstate : cpu.state with
  | halted => rw [step_of_halted hstate, advance_of_halted hstate, endState, endState]
  | running =>
    rw [advance, hstate]
    cases step cpu <;> rfl

theorem RunsTo.runFor_eq {max : UInt64} (h : cpu.RunsTo (some (cpu.room max)) instrs last ending) :
    runFor max cpu = ending.result (UInt64.ofNat instrs.length) last :=
  h.counted_eq h.advance_eq

/-- An operation that executes instructions leaves the machine at the end of its run. -/
theorem perform_of_executesSteps (hop : op.executesSteps = true)
    (h : cpu.RunsTo (cpu.stepLimit op) instrs last ending) : cpu.perform op = last := by
  cases op with
  | step =>
    show endState (Cpu.step cpu) = last
    rw [endState_step, RunsTo.advance_eq h, endState_result]
  | run => rw [perform, RunsTo.run_eq h, endState_result]
  | runFor max => rw [perform, RunsTo.runFor_eq h, endState_result]
  | load | loadAt | reset | drain | jump | setReg | setCell => exact nomatch hop

/-! ### Operations that change the machine directly -/

/-- What the operations leave as it is that are neither steps nor resets.  They may move the program
counter, but to no address behind memory. -/
structure Adjusted (cpu cpu' : Cpu) : Prop where
  length_cells : cpu'.mem.cells.length = cpu.mem.cells.length
  pc : cpu'.pc = cpu.pc ∨ cpu'.pc < addressCount
  cycles : cpu'.cycles = cpu.cycles
  state : cpu'.state = cpu.state

theorem Adjusted.refl (cpu : Cpu) : Adjusted cpu cpu :=
  ⟨rfl, .inl rfl, rfl, rfl⟩

theorem adjusted_perform (hop : op.executesSteps = false) (hreset : op ≠ .reset) :
    Adjusted cpu (cpu.perform op) := by
  cases op with
  | step | run | runFor => exact nomatch hop
  | reset => exact absurd rfl hreset
  | load program =>
    rw [perform, load]
    cases hload : cpu.mem.load 0 program with
    | none => exact .refl cpu
    | some result =>
      rw [Option.map_some, Option.map_some, Option.getD_some, endState_mapState]
      exact ⟨Memory.length_cells_load hload, .inl rfl, rfl, rfl⟩
  | loadAt start bytes =>
    rw [perform]
    cases hload : cpu.mem.load start bytes with
    | none => exact .refl cpu
    | some result => exact ⟨Memory.length_cells_load hload, .inl rfl, rfl, rfl⟩
  | drain => exact ⟨rfl, .inl rfl, rfl, rfl⟩
  | jump addr => exact ⟨rfl, .inr (toNat_pc_jumpedTo_lt cpu addr), rfl, rfl⟩
  | setReg index value =>
    rw [perform, writeReg_eq]
    cases hset : cpu.withReg index value with
    | error fault => exact .refl cpu
    | ok cpu' =>
      obtain ⟨-, rfl⟩ := withReg_eq_ok_iff.1 hset
      exact ⟨rfl, .inl rfl, rfl, rfl⟩
  | setCell addr value =>
    rw [perform, writeMem_eq]
    cases hset : cpu.withCell addr value with
    | error fault => exact .refl cpu
    | ok cpu' =>
      obtain ⟨-, rfl⟩ := withCell_eq_ok_iff.1 hset
      exact ⟨List.length_set, .inl rfl, rfl, rfl⟩

/-! ### Histories -/

theorem stepLimit_of_not_executesSteps (hop : op.executesSteps = false) :
    cpu.stepLimit op = some 0 := by
  cases op with
  | step | run | runFor => exact nomatch hop
  | load | loadAt | reset | drain | jump | setReg | setCell => rfl

theorem RunsTo.eq_nil (h : cpu.RunsTo (some 0) instrs last ending) : instrs = [] :=
  List.length_eq_zero_iff.1 (Nat.le_zero.1 (h.stops.le 0 rfl))

/-- Every operation comes to an end, but for a run without a limit that does not. -/
theorem exists_performsSteps (h : op = .run → cpu.Terminates) :
    ∃ instrs, cpu.PerformsSteps op instrs := by
  have hends : cpu.stepLimit op = none → cpu.Terminates := by
    intro hlimit
    cases op with
    | run => exact h rfl
    | step | runFor | load | loadAt | reset | drain | jump | setReg | setCell => exact nomatch hlimit
  obtain ⟨instrs, last, ending, hruns⟩ := exists_runsTo hends
  exact ⟨instrs, last, ending, hruns⟩

theorem Sound.reset (h : Sound cpu count) : Sound cpu.reset 0 :=
  ⟨(Memory.length_cells_clear _).trans h.length_cells, Nat.zero_le _, rfl⟩

theorem Sound.perform (h : Sound cpu count) (hsteps : cpu.PerformsSteps op instrs) :
    Sound (cpu.perform op) (if op = .reset then 0 else count + instrs.length) := by
  by_cases hreset : op = .reset
  · rw [if_pos hreset, hreset]
    exact h.reset
  obtain ⟨last, ending, hruns⟩ := hsteps
  rw [if_neg hreset]
  cases hop : op.executesSteps with
  | true =>
    rw [perform_of_executesSteps hop hruns]
    exact h.executes hruns.executes
  | false =>
    -- its run has no step to take, so the count stays
    have hframe : Adjusted cpu (cpu.perform op) := adjusted_perform hop hreset
    rw [stepLimit_of_not_executesSteps hop] at hruns
    rw [hruns.eq_nil, List.length_nil, Nat.add_zero]
    refine ⟨hframe.length_cells.trans h.length_cells, ?_, hframe.cycles.trans h.cycles_eq⟩
    rcases hframe.pc with hsame | hlt
    · exact hsame ▸ h.pc_le
    · exact Nat.le_of_lt hlt

theorem Reached.sound {ops : List Op} (h : Reached ops count cpu) : Sound cpu count := by
  induction h with
  | new => exact .powerOn
  | next _ hsteps ih => exact ih.perform hsteps

theorem state_perform_of_halted (h : cpu.state = .halted) (hreset : op ≠ .reset) :
    (cpu.perform op).state = .halted := by
  cases hop : op.executesSteps with
  | false => exact (adjusted_perform hop hreset).state.trans h
  | true =>
    -- a run of a machine that has halted executes nothing
    have hruns : cpu.RunsTo (cpu.stepLimit op) [] cpu .halted :=
      ⟨.nil cpu, fun _ _ => Nat.zero_le _, h⟩
    rw [perform_of_executesSteps hop hruns, h]

/-- A machine that has halted stays so until it is reset. -/
theorem halted_foldl_perform (h : cpu.state = .halted) {ops : List Op} (hreset : .reset ∉ ops) :
    (ops.foldl perform cpu).state = .halted := by
  induction ops generalizing cpu with
  | nil => exact h
  | cons op ops ih =>
    rw [List.mem_cons, not_or] at hreset
    exact ih (state_perform_of_halted h (Ne.symm hreset.1)) hreset.2

/-- **What holds at every moment of a history.**  Let any operations make a new machine this one,
where some may have failed.  It has 256 cells, its program counter is at most 256, and the cycle
counter tells the steps that have succeeded since the last reset, as long as there are fewer than
2^64.  If it has halted, it refuses every step and ends every run at once, whatever is done with it
other than a reset.  Any operation can come next, except for a run that does not end. -/
theorem reached_invariant {ops : List Op} (h : Reached ops count cpu) :
    cpu.mem.cells.length = 256 ∧ cpu.pc ≤ 256 ∧
    (count < UInt64.size → cpu.cycles.toNat = count) ∧
    (cpu.state = .halted → ∀ later : List Op, .reset ∉ later →
      let cpu' := later.foldl perform cpu
      step cpu' = .error (.notRunning .halted) cpu' ∧ run cpu' = .ok 0 cpu' ∧
        ∀ max, runFor max cpu' = .ok 0 cpu') ∧
    ∀ op, (op = .run → cpu.Terminates) → ∃ count', Reached (ops ++ [op]) count' (cpu.perform op) := by
  have hsound := h.sound
  refine ⟨hsound.length_cells, hsound.pc_le, ?_, ?_, ?_⟩
  · intro hcount
    rw [hsound.cycles_eq, UInt64.toNat_ofNat_of_lt' hcount]
  · intro hhalted later hreset
    have hlater := halted_foldl_perform hhalted hreset
    exact ⟨step_of_halted hlater, run_of_halted hlater, runFor_of_halted hlater⟩
  · intro op hends
    obtain ⟨instrs, hsteps⟩ := exists_performsSteps hends
    exact ⟨_, h.next hsteps⟩

/-- A program that stores a value and halts. -/
def storingOnce : List Byte :=
  Instr.encodeList [.ldi 0 8, .hlt]

/-- After a run to the end, loading the program again and jumping to it does not let it run
again. -/
theorem reached_invariant_loadedAgain :
    ∃ cpu, Reached [.load storingOnce, .run] 2 cpu ∧ cpu.cycles.toNat = 2 ∧
      ∃ again, again = [Op.load storingOnce, .jump 0].foldl perform cpu ∧ again.pc = 0 ∧
        run again = .ok 0 again := by
  let start := powerOn.perform (.load storingOnce)
  have hstore : start.step = .ok (.ldi 0 8) (start.after 1) := by decide +kernel
  have hhalt : (start.after 1).step = .ok .hlt (start.after 2) := by decide +kernel
  have hhalted : (start.after 2).state = .halted := by decide +kernel
  have hstops : Stops none 2 (start.after 2) .halted := by
    simp [Stops, hhalted]
  have hruns : start.RunsTo (start.stepLimit .run) [.ldi 0 8, .hlt] (start.after 2) .halted :=
    ⟨.cons hstore (.cons hhalt (.nil _)), hstops⟩
  have hlast : start.perform .run = start.after 2 := perform_of_executesSteps rfl hruns
  have hload : Reached [.load storingOnce] 0 start :=
    Reached.new.next ⟨_, .unfinished, .nil _, rfl, rfl⟩
  have hreached : Reached [.load storingOnce, .run] 2 (start.perform .run) :=
    hload.next ⟨_, _, hruns⟩
  have hstate : (start.perform .run).state = .halted := by
    rw [hlast, hhalted]
  obtain ⟨-, -, hcycles, hstays, -⟩ := reached_invariant hreached
  have hagain := hstays hstate [.load storingOnce, .jump 0] (by decide)
  exact ⟨_, hreached, hcycles (by decide), _, rfl, rfl, hagain.2.1⟩

end ByteMachine.Cpu
