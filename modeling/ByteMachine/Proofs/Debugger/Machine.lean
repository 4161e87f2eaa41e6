import ByteMachine.Proofs.Cpu.Reachable
import ByteMachine.Proofs.Debugger.Breakpoints

/-!
# The machine inside a debugger

An operation on a debugger executes one instruction of its machine, replaces the machine by a new
one with the program, or leaves it alone.  So the machine inside a debugger is one that can come
about without it, also if the program is too large to be loaded.

## Main definitions

- `Debugger.Driven` — all that an operation can do to the machine

## Main statements

- `Debugger.driven` — it can do nothing else
- `Debugger.exists_sound` — what holds of the machine after any operations
-/

namespace ByteMachine.Debugger

/-- All that an operation can do to the machine. -/
inductive Driven (d : Debugger) (op : Op) : Prop where
  | kept (hcpu : (d.perform op).cpu = d.cpu)
  | stepped (instr : Instr) (mid : Cpu) (hstep : d.cpu.step = .ok instr mid)
    (hcpu : (d.perform op).cpu = { mid with output := [] })
  | restarted (hcpu : (d.perform op).cpu = Cpu.powerOn.perform (.load d.program))

variable {d : Debugger} {count : Nat}

theorem cpu_restart (d : Debugger) : d.restart.cpu = Cpu.powerOn.perform (.load d.program) := by
  rw [restart, Cpu.perform, Cpu.load_powerOn_eq_boot]
  cases Cpu.boot d.program <;> rfl

theorem driven (d : Debugger) (op : Op) : d.Driven op := by
  cases op with
  | run => exact .kept rfl
  | step =>
    by_cases hstate : d.cpu.state = .running
    swap
    · exact .kept (by rw [perform, step, if_pos hstate])
    have hperform : d.perform .step = d.step := rfl
    rw [step, if_neg (by simp [hstate])] at hperform
    cases hstep : d.cpu.step with
    | ok instr mid =>
      simp only [hstep] at hperform
      exact .stepped instr mid hstep (by rw [hperform]; rfl)
    | error fault cpu =>
      simp only [hstep] at hperform
      exact .kept (by rw [hperform]; exact (Cpu.step_eq_error_iff.1 hstep).2)
  | tick =>
    cases d.ticked with
    | idle hrunning hsame => exact .kept (congrArg cpu hsame)
    | finished hrunning hhalted hstops hkept => exact .kept hstops.1
    | caught hlive hpassing hstops htaken | refused hlive hstops htaken => exact .kept hstops.1
    | executed hlive hpasses instr hexecutes htaken =>
      obtain ⟨mid, hstep, hcpu, -⟩ := hexecutes
      exact .stepped instr mid hstep hcpu
  | flipBreakpoint =>
    refine .kept ?_
    show d.flipBreakpoint.cpu = d.cpu
    unfold flipBreakpoint
    split <;> rfl
  | reset => exact .restarted (cpu_restart _)
  | scroll rows => exact .kept rfl

/-- A new machine with the program, or without it if it is too large. -/
theorem sound_restart (d : Debugger) : ∃ count, d.restart.cpu.Sound count := by
  obtain ⟨instrs, hload⟩ : ∃ instrs, Cpu.powerOn.PerformsSteps (.load d.program) instrs :=
    Cpu.exists_performsSteps fun h => nomatch h
  exact ⟨_, cpu_restart d ▸ Cpu.Sound.powerOn.perform hload⟩

theorem sound_perform (h : d.cpu.Sound count) (op : Op) :
    ∃ count', (d.perform op).cpu.Sound count' := by
  cases d.driven op with
  | kept hcpu => exact ⟨count, hcpu ▸ h⟩
  | stepped instr mid hstep hcpu =>
    obtain ⟨hcells, hpc, hcycles⟩ := h.step hstep
    exact ⟨count + 1, hcpu ▸ ⟨hcells, hpc, hcycles⟩⟩
  | restarted hcpu =>
    obtain ⟨count', hrestart⟩ := sound_restart d
    rw [cpu_restart, ← hcpu] at hrestart
    exact ⟨count', hrestart⟩

/-- After any operations on a new debugger its machine is sound. -/
theorem exists_sound (program : List Byte) (ops : List Op) :
    ∃ count, (ops.foldl perform (new program)).cpu.Sound count := by
  induction ops using List.reverseRecOn with
  | nil => exact sound_restart _
  | append_singleton ops op ih =>
    obtain ⟨count, h⟩ := ih
    rw [List.foldl_append]
    exact sound_perform h op

end ByteMachine.Debugger
