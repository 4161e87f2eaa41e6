import ByteMachine.Proofs.Cpu.Effect

/-!
# What an instruction does not see

An instruction reads registers, memory and, if it is a call, the program counter.  How many
instructions came before, which one was the last, and what has been printed so far make no
difference to it; a program counter makes none to an instruction that does not jump.  Changing these
things before an instruction or after it is therefore the same.

## Main definitions

- `Cpu.Reframing`, `Cpu.reframe` — a change of the program counter, the account and the output
- `Cpu.Reframing.standing` — another program counter and another account
- `Cpu.Reframing.behind` — more output before the present one

## Main statements

- `Cpu.effect_reframe` — an effect carries such a change along
- `Cpu.cycles_effect` — it leaves the counter alone
- `Cpu.step_reframe_behind` — a step carries it along, if only the output changes
-/

namespace ByteMachine

namespace Cpu

/-- A change of what instructions do not look at. -/
structure Reframing where
  pc : UInt16 → UInt16
  cycles : UInt64 → UInt64
  last : Option Instr → Option Instr
  /-- Values printed before all others. -/
  printed : List Byte

namespace Reframing

/-- The program counter at an address, and an account of the instructions before it. -/
def standing (addr : Nat) (cycles : UInt64) (last : Option Instr) : Reframing :=
  ⟨fun _ => UInt16.ofNat addr, fun _ => cycles, fun _ => last, []⟩

/-- Output that came before. -/
def behind (printed : List Byte) : Reframing :=
  ⟨id, id, id, printed⟩

end Reframing

def reframe (f : Reframing) (cpu : Cpu) : Cpu :=
  { cpu with
    regs := { cpu.regs with pc := f.pc cpu.regs.pc }
    cycles := f.cycles cpu.cycles
    output := f.printed ++ cpu.output
    last := f.last cpu.last }

/-! ## The parts of an effect -/

section Parts

variable (f : Reframing) (cpu : Cpu)

theorem sp_reframe : (cpu.reframe f).regs.sp = cpu.regs.sp := rfl

theorem mem_reframe : (cpu.reframe f).mem = cpu.mem := rfl

theorem regValue_reframe (index : Byte) : (cpu.reframe f).regValue index = cpu.regValue index := rfl

theorem top_reframe : (cpu.reframe f).top = cpu.top := rfl

theorem withSp_reframe (sp : Byte) : (cpu.reframe f).withSp sp = (cpu.withSp sp).reframe f := rfl

theorem withReg_reframe (index value : Byte) :
    (cpu.reframe f).withReg index value = reframe f <$> cpu.withReg index value := by
  unfold withReg Registers.set
  by_cases h : index.toNat < 8
  · simp only [h, dif_pos]
    rfl
  · simp only [h, dif_neg, not_false_eq_true]
    rfl

theorem withCell_reframe (addr : Nat) (value : Byte) :
    (cpu.reframe f).withCell addr value = reframe f <$> cpu.withCell addr value := by
  unfold withCell
  rw [mem_reframe]
  cases cpu.mem.write addr value <;> rfl

theorem pushed_reframe (value : Byte) :
    (cpu.reframe f).pushed value = reframe f <$> cpu.pushed value := by
  unfold pushed
  rw [sp_reframe]
  by_cases hsp : cpu.regs.sp = 0
  · rw [if_pos hsp, if_pos hsp]
    rfl
  · rw [if_neg hsp, if_neg hsp]
    simp only [withCell_reframe, map_bind, bind_map_left, map_pure, withSp_reframe]

variable {f}

theorem pcBehind_reframe (hpc : f.pc = id) (instr : Instr) :
    (cpu.reframe f).pcBehind instr = cpu.pcBehind instr := by
  unfold pcBehind reframe
  rw [hpc]
  rfl

theorem jumpedTo_reframe (hpc : f.pc = id) (addr : Byte) :
    (cpu.reframe f).jumpedTo addr = (cpu.jumpedTo addr).reframe f := by
  unfold jumpedTo reframe
  rw [hpc]
  rfl

end Parts

/-- An instruction carries a change of the frame along, if it does not jump or the program counter
stays. -/
theorem effect_reframe {f : Reframing} {instr : Instr} (h : instr.isJump = true → f.pc = id)
    (cpu : Cpu) : (cpu.reframe f).effect instr = reframe f <$> cpu.effect instr := by
  cases instr with
  | hlt => rfl
  | ldi reg value => exact withReg_reframe f cpu reg value
  | prn reg =>
    simp only [effect, regValue_reframe, map_bind, map_pure]
    simp only [reframe, List.append_assoc]
  | arith op dest src => simp only [effect, regValue_reframe, withReg_reframe, map_bind]
  | push reg => simp only [effect, regValue_reframe, pushed_reframe, map_bind]
  | pop reg =>
    simp only [effect, regValue_reframe, top_reframe, sp_reframe, withReg_reframe, withSp_reframe,
      map_bind, bind_map_left, map_pure]
  | call reg =>
    have hpc := h ((isJump_byte_iff .call).2 (.inl rfl))
    simp only [effect, regValue_reframe, pcBehind_reframe cpu hpc, pushed_reframe,
      jumpedTo_reframe _ hpc, map_bind, bind_map_left, map_pure]
  | ret =>
    have hpc := h ((isJump_byte_iff .ret).2 (.inr rfl))
    simp only [effect, top_reframe, sp_reframe, withSp_reframe, jumpedTo_reframe _ hpc, map_bind,
      map_pure]

/-- No effect counts instructions. -/
theorem cycles_effect {cpu mid : Cpu} {instr : Instr} (h : cpu.effect instr = .ok mid) :
    mid.cycles = cpu.cycles := by
  -- a change that sets the counter to the value that it has
  let f : Reframing := ⟨id, fun _ => cpu.cycles, id, []⟩
  have hself : cpu.reframe f = cpu := rfl
  have hmap : (cpu.reframe f).effect instr = reframe f <$> cpu.effect instr :=
    effect_reframe (fun _ => rfl) cpu
  rw [hself, h] at hmap
  have hmid : mid = mid.reframe f := Except.ok.inj hmap
  calc
    mid.cycles = (mid.reframe f).cycles := congrArg cycles hmid
    _ = cpu.cycles := rfl

/-! ## A step behind other output -/

theorem transition_behind (printed : List Byte) (cpu : Cpu) :
    (cpu.reframe (.behind printed)).transition =
      (fun (instr, cpu') => (instr, cpu'.reframe (.behind printed))) <$> cpu.transition := by
  simp only [transition, map_bind, map_pure]
  -- the effect is the only part that changes the machine
  show (cpu.checkRunning >>= fun _ => cpu.nextInstr >>= fun instr =>
    cpu.advancedPc instr >>= fun next => (cpu.reframe (.behind printed)).effect instr >>= fun mid =>
      pure (instr, mid.settled instr next)) = _
  simp only [effect_reframe (f := .behind printed) fun _ => rfl, bind_map_left]
  rfl

/-- A step does the same behind other output. -/
theorem step_reframe_behind (printed : List Byte) (cpu : Cpu) :
    step (cpu.reframe (.behind printed)) = mapState (reframe (.behind printed)) (step cpu) := by
  rw [step_eq, step_eq, transition_behind]
  rcases cpu.transition with fault | ⟨instr, cpu'⟩ <;> rfl

theorem step_behind {cpu cpu' : Cpu} {instr : Instr} (h : step cpu = .ok instr cpu')
    (printed : List Byte) :
    step (cpu.reframe (.behind printed)) = .ok instr (cpu'.reframe (.behind printed)) := by
  rw [step_reframe_behind, h, mapState]

end Cpu

end ByteMachine
