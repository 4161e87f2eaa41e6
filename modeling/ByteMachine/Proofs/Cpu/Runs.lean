import ByteMachine.Cpu.Run
import ByteMachine.Proofs.Cpu.Reframing

/-!
# Runs, step by step

A run is given by its machines and the instructions between them, so that a statement can speak of
any two moments of it.  Where only its ends matter, it is given by the list of its instructions.

The loop without a bound has no recursion to induct on.  It is unfolded one turn at a time, along
the instructions of a run that is known to end.

## Main definitions

- `Cpu.IsRun` — a sequence of successful steps
- `Cpu.after` — the machine after a number of steps
- `Cpu.Executes` — the instructions of a run, with the machines at its ends
- `Cpu.printed`, `Cpu.prints` — what an instruction prints, and what a run prints
- `Cpu.loaded` — a new machine with a program in memory

## Main statements

- `Cpu.Executes.advance_eq` — a bounded run begins with any run that is not longer
- `Cpu.Executes.finish_eq` — so does an unbounded run
- `Cpu.Executes.run_eq` — an unbounded run ends where the machine halts
- `Cpu.Executes.output_eq` — what is printed comes behind the output from before
-/

namespace ByteMachine

/-! ## Loops without a bound -/

section Loop

variable {α β : Type} [Nonempty β] {f : α → Id (α ⊕ β)} {a next : α} {result : β}

theorem run_repeatM_of_inl (h : f a = .inl next) :
    Id.run (repeatM f a) = Id.run (repeatM f next) := by
  rw [repeatM_eq_of_monadTail]
  show Id.run (f a >>= _) = _
  rw [h]
  rfl

theorem run_repeatM_of_inr (h : f a = .inr result) : Id.run (repeatM f a) = result := by
  rw [repeatM_eq_of_monadTail]
  show Id.run (f a >>= _) = _
  rw [h]
  rfl

end Loop

namespace Cpu

/-- The machines `cpu` go through the instructions `instr` one after the other, `n` of them. -/
def IsRun (cpu : Nat → Cpu) (instr : Nat → Instr) (n : Nat) : Prop :=
  ∀ k < n, step (cpu k) = .ok (instr k) (cpu (k + 1))

/-- The machine after `k` attempts at a step. -/
def after (cpu : Cpu) : Nat → Cpu
  | 0 => cpu
  | k + 1 =>
    match step (cpu.after k) with
    | .ok _ cpu' => cpu'
    | .error _ cpu' => cpu'

theorem after_one {cpu mid : Cpu} {instr : Instr} (h : step cpu = .ok instr mid) :
    cpu.after 1 = mid := by
  rw [after, after, h]

theorem after_succ (cpu : Cpu) (k : Nat) : cpu.after (k + 1) = (cpu.after 1).after k := by
  induction k with
  | zero => rfl
  | succ k ih =>
    conv_lhs => rw [after, ih]
    rfl

theorem after_succ_eq_endState (cpu : Cpu) (k : Nat) :
    cpu.after (k + 1) = endState (step (cpu.after k)) := by
  rw [after]
  cases step (cpu.after k) <;> rfl

theorem IsRun.length_cells {cpu : Nat → Cpu} {instr : Nat → Instr} {n : Nat}
    (h : IsRun cpu instr n) {k : Nat} (hk : k ≤ n) :
    (cpu k).mem.cells.length = (cpu 0).mem.cells.length := by
  induction k with
  | zero => rfl
  | succ k ih => rw [length_cells_step (h k hk), ih (by omega)]

/-! ## Runs to the end -/

theorem finish_of_step {cpu mid : Cpu} {instr : Instr} (h : step cpu = .ok instr mid) :
    finish cpu = finish mid := by
  have hturn : turn cpu = .inl mid := by
    rw [turn, (step_eq_ok_iff.1 h).1, h]
  exact run_repeatM_of_inl hturn

theorem finish_of_halted {cpu : Cpu} (h : cpu.state = .halted) : finish cpu = .ok () cpu := by
  have hturn : turn cpu = .inr (.ok () cpu) := by
    rw [turn, h]
  exact run_repeatM_of_inr hturn

theorem finish_of_error {cpu cpu' : Cpu} {fault : Fault} (hrunning : cpu.state = .running)
    (h : step cpu = .error fault cpu') : finish cpu = .error fault cpu' := by
  have hturn : turn cpu = .inr (.error fault cpu') := by
    rw [turn, hrunning, h]
  exact run_repeatM_of_inr hturn

/-! ## Counting -/

/-- An action counts by what the counter has grown. -/
theorem counted_of_ok {cpu cpu' : Cpu} {action : Exec Unit} (haction : action cpu = .ok () cpu') :
    counted action cpu = .ok (cpu'.cycles - cpu.cycles) cpu' := by
  show (action >>= _ : Exec UInt64) cpu = _
  rw [bind_of_ok haction]
  rfl

theorem counted_of_error {cpu cpu' : Cpu} {fault : Fault} {action : Exec Unit}
    (haction : action cpu = .error fault cpu') : counted action cpu = .error fault cpu' := by
  show (action >>= _ : Exec UInt64) cpu = _
  rw [bind_of_error haction]

/-! ## Runs by their instructions -/

/-- The machine executes the instructions one after the other and becomes another. -/
inductive Executes : Cpu → List Instr → Cpu → Prop where
  | nil (cpu : Cpu) : Executes cpu [] cpu
  | cons {cpu mid cpu' : Cpu} {instr : Instr} {rest : List Instr} :
    step cpu = .ok instr mid → Executes mid rest cpu' → Executes cpu (instr :: rest) cpu'

namespace Executes

variable {cpu mid cpu' : Cpu} {instrs : List Instr}

theorem snoc {instr : Instr} (h : cpu.Executes instrs mid) (hstep : step mid = .ok instr cpu') :
    cpu.Executes (instrs ++ [instr]) cpu' := by
  induction h with
  | nil cpu => exact .cons hstep (.nil cpu')
  | cons hfirst _ ih => exact .cons hfirst (ih hstep)

/-- The counter goes on with every instruction, and starts again from zero after its last value. -/
theorem cycles_eq (h : cpu.Executes instrs cpu') :
    cpu'.cycles = cpu.cycles + UInt64.ofNat instrs.length := by
  induction h with
  | nil cpu => exact (UInt64.add_zero _).symm
  | cons hstep _ ih =>
    obtain ⟨-, -, next, -, mid, hmid, rfl⟩ := step_eq_ok_iff.1 hstep
    rw [ih, settled, cycles_effect hmid, List.length_cons, UInt64.ofNat_add, UInt64.add_assoc,
      UInt64.add_comm 1]
    rfl

/-- A run for a number of instructions begins with any run that is not longer. -/
theorem advance_eq (h : cpu.Executes instrs cpu') (fuel : Nat) :
    advance (instrs.length + fuel) cpu = advance fuel cpu' := by
  induction h with
  | nil cpu => rw [List.length_nil, Nat.zero_add]
  | cons hstep _ ih =>
    have hrunning := (step_eq_ok_iff.1 hstep).1
    rw [List.length_cons, Nat.add_right_comm, advance, hrunning, hstep]
    exact ih

/-- A run to the end goes on from wherever it has come to. -/
theorem finish_eq (h : cpu.Executes instrs cpu') : finish cpu = finish cpu' := by
  induction h with
  | nil cpu => rfl
  | cons hstep _ ih => exact (finish_of_step hstep).trans ih

/-- The counter tells how many instructions an action has executed. -/
theorem counted_eq (h : cpu.Executes instrs cpu') {action : Exec Unit}
    (haction : action cpu = .ok () cpu') :
    counted action cpu = .ok (UInt64.ofNat instrs.length) cpu' := by
  rw [counted_of_ok haction, h.cycles_eq, UInt64.add_comm, UInt64.add_sub_cancel]

end Executes

theorem advance_of_halted {cpu : Cpu} (h : cpu.state = .halted) (fuel : Nat) :
    advance fuel cpu = .ok () cpu := by
  cases fuel with
  | zero => rfl
  | succ fuel => rw [advance, h]

theorem Executes.run_eq {cpu cpu' : Cpu} {instrs : List Instr} (h : cpu.Executes instrs cpu')
    (hhalted : cpu'.state = .halted) : run cpu = .ok (UInt64.ofNat instrs.length) cpu' :=
  h.counted_eq (h.finish_eq.trans (finish_of_halted hhalted))

/-! ## Output -/

/-- What a machine prints when it executes an instruction. -/
def printed (cpu : Cpu) : Instr → List Byte
  | .prn reg => (cpu.regs.get reg).toOption.toList
  | .hlt | .ldi .. | .arith .. | .push _ | .pop _ | .call _ | .ret => []

/-- What a machine prints when it executes instructions one after the other. -/
def prints (cpu : Cpu) : List Instr → List Byte
  | [] => []
  | instr :: rest => cpu.printed instr ++ (cpu.after 1).prints rest

theorem output_effect {cpu mid : Cpu} {instr : Instr} (h : cpu.effect instr = .ok mid) :
    mid.output = cpu.output ++ cpu.printed instr := by
  cases instr <;> simp only [effect, bind_eq_ok_iff, pure_eq_ok_iff, withReg_eq_ok_iff,
    pushed_eq_ok_iff] at h
  case hlt =>
    rw [← h]
    exact (List.append_nil _).symm
  case ldi reg value =>
    obtain ⟨-, rfl⟩ := h
    exact (List.append_nil _).symm
  case prn reg =>
    obtain ⟨value, hvalue, rfl⟩ := h
    rw [printed, mapError_eq_ok_iff.1 hvalue]
    rfl
  case arith op dest src =>
    obtain ⟨a, -, b, -, -, rfl⟩ := h
    exact (List.append_nil _).symm
  case push reg =>
    obtain ⟨value, -, -, -, rfl⟩ := h
    exact (List.append_nil _).symm
  case pop reg =>
    obtain ⟨old, -, value, -, sp, -, mid, ⟨-, rfl⟩, rfl⟩ := h
    exact (List.append_nil _).symm
  case call reg =>
    obtain ⟨old, -, next, -, saved, -, mid, ⟨-, -, rfl⟩, target, -, rfl⟩ := h
    exact (List.append_nil _).symm
  case ret =>
    obtain ⟨target, -, sp, -, rfl⟩ := h
    exact (List.append_nil _).symm

theorem output_step {cpu mid : Cpu} {instr : Instr} (h : step cpu = .ok instr mid) :
    mid.output = cpu.output ++ cpu.printed instr := by
  obtain ⟨-, -, next, -, mid, heffect, rfl⟩ := step_eq_ok_iff.1 h
  have houtput := output_effect heffect
  exact houtput

theorem Executes.output_eq {cpu cpu' : Cpu} {instrs : List Instr} (h : cpu.Executes instrs cpu') :
    cpu'.output = cpu.output ++ cpu.prints instrs := by
  induction h with
  | nil cpu => exact (List.append_nil _).symm
  | cons hstep _ ih =>
    rw [ih, prints, after_one hstep, ← List.append_assoc, ← output_step hstep]

/-! ### Output that has been taken -/

/-- A new machine with a program in memory from address 0 on. -/
def loaded (program : List Byte) : Cpu :=
  { powerOn with mem := Memory.blank.overlay 0 program }

theorem load_powerOn {program : List Byte} (h : program.length ≤ addressCount) :
    powerOn.load program = some (.ok () (loaded program)) := by
  rw [← Nat.zero_add program.length] at h
  rw [load, powerOn, Memory.load_of_le h (h.trans_eq Memory.length_cells_blank.symm)]
  rfl

theorem load_powerOn_of_lt {program : List Byte} (h : addressCount < program.length) :
    powerOn.load program = some (.error (.tooLarge program.length addressCount) powerOn) := by
  rw [← Nat.zero_add program.length] at h
  rw [load, powerOn, Memory.load_of_tooLarge _ h]
  rfl

/-- A new machine into which a program has been loaded. -/
theorem eq_loaded_of_load {program : List Byte} {first : Cpu}
    (h : powerOn.load program = some (.ok () first)) : first = loaded program := by
  rcases Nat.lt_or_ge addressCount program.length with hlarge | hsize
  · exact nomatch (load_powerOn_of_lt hlarge).symm.trans h
  · have hresult := Option.some.inj ((load_powerOn hsize).symm.trans h)
    exact (EStateM.Result.ok.inj hresult).2.symm

theorem boot_of_le {program : List Byte} (h : program.length ≤ addressCount) :
    boot program = .ok () (loaded program) :=
  Option.some.inj ((load_powerOn_eq_boot program).symm.trans (load_powerOn h))

theorem boot_of_lt {program : List Byte} (h : addressCount < program.length) :
    boot program = .error (.tooLarge program.length addressCount) powerOn :=
  Option.some.inj ((load_powerOn_eq_boot program).symm.trans (load_powerOn_of_lt h))

theorem length_cells_loaded (program : List Byte) :
    (loaded program).mem.cells.length = addressCount :=
  (Memory.length_cells_overlay _ _ _).trans Memory.length_cells_blank

/-- A program that fits stands at the beginning of memory. -/
theorem isPrefix_cells_loaded {program : List Byte} (h : program.length ≤ addressCount) :
    program <+: (loaded program).mem.cells := by
  show program <+: (Memory.blank.overlay 0 program).cells
  have htake : program.take (Memory.blank.cells.length - 0) = program := by
    rw [Memory.length_cells_blank]
    exact List.take_of_length_le h
  rw [Memory.overlay, htake, List.take_zero, List.nil_append]
  exact List.prefix_append _ _

end Cpu

end ByteMachine
