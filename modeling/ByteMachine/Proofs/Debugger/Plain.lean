import ByteMachine.Debugger
import ByteMachine.Proofs.Cpu.Runs

/-!
# The debugger and the plain machine

Whatever is done with a debugger, in whatever order, its machine is where a plain machine with the
same program would be after as many instructions, and its output is what that machine has printed.
Single steps, ticks, pauses at breakpoints, refused instructions and halts all leave this as it is,
because each operation executes at most one instruction and moves what it prints.

## Main definitions

- `Debugger.Op`, `Debugger.perform` — the operations on a debugger
- `Debugger.Mirrors` — a debugger whose machine and output are those of a plain run

## Main statements

- `Debugger.Mirrors.perform` — one operation
- `Debugger.Mirrors.foldl_perform` — any number of them
- `Debugger.exists_plain_run` — a new debugger, or one after a reset
-/

namespace ByteMachine.Debugger

/-- The operations on a debugger. -/
inductive Op where
  | run | step | tick | flipBreakpoint | reset
  /-- Move the memory view by a number of rows. -/
  | scroll (rows : Int)
deriving DecidableEq, Repr

def perform (d : Debugger) : Op → Debugger
  | .run => d.run
  | .step => d.step
  | .tick => d.tick
  | .flipBreakpoint => d.flipBreakpoint
  | .reset => d.reset
  | .scroll rows => d.scroll rows

/-- The machine of a debugger, with the output put back into it, has executed the instructions from
the loaded program on. -/
structure Mirrors (d : Debugger) (program : List Byte) (instrs : List Instr) : Prop where
  program_eq : d.program = program
  executes : (Cpu.loaded program).Executes instrs (d.cpu.reframe (.behind d.output))
  drained : d.cpu.output = []

variable {d : Debugger} {program : List Byte} {instrs : List Instr}

namespace Mirrors

/-- Nothing else in a debugger matters. -/
theorem congr {d' : Debugger} (h : d.Mirrors program instrs) (hprogram : d'.program = d.program)
    (hcpu : d'.cpu = d.cpu) (houtput : d'.output = d.output) : d'.Mirrors program instrs :=
  ⟨hprogram.trans h.program_eq, by rw [hcpu, houtput]; exact h.executes, hcpu ▸ h.drained⟩

theorem of_restart (hsize : program.length ≤ addressCount) (hprogram : d.program = program) :
    d.restart.Mirrors program [] := by
  have hrestart : d.restart = { d with cpu := Cpu.loaded program, output := [] } := by
    simp only [restart, hprogram, Cpu.boot_of_le hsize]
  rw [hrestart]
  exact ⟨hprogram, .nil _, rfl⟩

/-- A step executes one instruction or none. -/
theorem step (h : d.Mirrors program instrs) :
    ∃ instrs', d.step.Mirrors program instrs' ∧ instrs'.length ≤ instrs.length + 1 := by
  unfold Debugger.step
  split
  · exact ⟨instrs, h.congr rfl rfl rfl, Nat.le_succ _⟩
  cases hstep : d.cpu.step with
  | ok instr cpu' =>
    refine ⟨instrs ++ [instr], ⟨h.program_eq, ?_, rfl⟩, by rw [List.length_append]; rfl⟩
    -- what the instruction has printed is behind the earlier output, drained or not
    have hmoved : { cpu' with output := [] }.reframe (.behind (d.output ++ cpu'.output)) =
        cpu'.reframe (.behind d.output) := by
      simp only [Cpu.reframe, Cpu.Reframing.behind, List.append_nil]
    show (Cpu.loaded program).Executes _
      ({ cpu' with output := [] }.reframe (.behind (d.output ++ cpu'.output)))
    rw [hmoved]
    exact h.executes.snoc (Cpu.step_behind hstep d.output)
  | error fault cpu' =>
    have hcpu := (Cpu.step_eq_error_iff.1 hstep).2
    exact ⟨instrs, h.congr rfl hcpu rfl, Nat.le_succ _⟩

theorem tick (h : d.Mirrors program instrs) :
    ∃ instrs', d.tick.Mirrors program instrs' ∧ instrs'.length ≤ instrs.length + 1 := by
  have hsame : ∀ d' : Debugger, d'.program = d.program → d'.cpu = d.cpu → d'.output = d.output →
      ∃ instrs', d'.Mirrors program instrs' ∧ instrs'.length ≤ instrs.length + 1 :=
    fun _ hprogram hcpu houtput => ⟨instrs, h.congr hprogram hcpu houtput, Nat.le_succ _⟩
  unfold Debugger.tick
  split
  · exact hsame _ rfl rfl rfl
  split
  · exact hsame _ rfl rfl rfl
  split
  · exact hsame _ rfl rfl rfl
  · exact step (h.congr rfl rfl rfl)

/-- An operation executes one instruction or none, or begins again. -/
theorem perform (h : d.Mirrors program instrs) (hsize : program.length ≤ addressCount) (op : Op) :
    ∃ instrs', (d.perform op).Mirrors program instrs' ∧ instrs'.length ≤ instrs.length + 1 := by
  cases op with
  | run => exact ⟨instrs, h.congr rfl rfl rfl, Nat.le_succ _⟩
  | step => exact h.step
  | tick => exact h.tick
  | flipBreakpoint =>
    refine ⟨instrs, ?_, Nat.le_succ _⟩
    show d.flipBreakpoint.Mirrors program instrs
    unfold Debugger.flipBreakpoint
    split <;> exact h.congr rfl rfl rfl
  | reset => exact ⟨[], of_restart hsize h.program_eq, Nat.zero_le _⟩
  | scroll rows => exact ⟨instrs, h.congr rfl rfl rfl, Nat.le_succ _⟩

theorem foldl_perform (h : d.Mirrors program instrs) (hsize : program.length ≤ addressCount)
    (ops : List Op) :
    ∃ instrs', (ops.foldl Debugger.perform d).Mirrors program instrs' ∧
      instrs'.length ≤ instrs.length + ops.length := by
  induction ops generalizing d instrs with
  | nil => exact ⟨instrs, h, Nat.le_refl _⟩
  | cons op ops ih =>
    obtain ⟨mid, hmid, hone⟩ := h.perform hsize op
    obtain ⟨instrs', h', hmore⟩ := ih hmid
    refine ⟨instrs', h', ?_⟩
    rw [List.length_cons]
    omega

end Mirrors

/-- **The debugger never changes what a program computes.**  Take a program that fits into memory, a
new debugger with it or any debugger with it right after a reset, and any sequence of operations.
Then a plain machine with the program has a run of successful steps whose end is the machine of the
debugger but for the output: the plain machine still has what the debugger has taken over,
everything that the run prints, in order.  The cycle counter counts the steps of the run.  It has 64
bits, which no sequence of fewer than 2^64 operations exceeds. -/
theorem exists_plain_run (program : List Byte) (hsize : program.length ≤ 256) (start : Debugger)
    (hstart : start = new program ∨ ∃ d : Debugger, d.program = program ∧ start = d.reset)
    (ops : List Op) :
    ∃ first instrs plain, Cpu.powerOn.load program = some (.ok () first) ∧
      first.Executes instrs plain ∧
      let d := ops.foldl perform start
      d.cpu = { plain with output := [] } ∧ d.output = plain.output ∧
        d.output = first.prints instrs ∧ d.cpu.cycles = UInt64.ofNat instrs.length ∧
        (ops.length < UInt64.size → instrs.length = d.cpu.cycles.toNat) := by
  have hfresh : start.Mirrors program [] := by
    rcases hstart with rfl | ⟨d, hprogram, rfl⟩
    · exact (Mirrors.of_restart hsize rfl).congr rfl rfl rfl
    · exact Mirrors.of_restart hsize hprogram
  obtain ⟨instrs, h, hlength⟩ := hfresh.foldl_perform hsize ops
  rw [List.length_nil, Nat.zero_add] at hlength
  let d := ops.foldl perform start
  have houtput : (d.cpu.reframe (.behind d.output)).output = d.output := by
    show d.output ++ d.cpu.output = d.output
    rw [h.drained, List.append_nil]
  have hcycles : d.cpu.cycles = UInt64.ofNat instrs.length :=
    h.executes.cycles_eq.trans (UInt64.zero_add _)
  refine ⟨_, instrs, _, Cpu.load_powerOn hsize, h.executes, ?_, houtput.symm, ?_, hcycles, ?_⟩
  · show d.cpu = { d.cpu with output := [] }
    rw [← h.drained]
  · exact houtput.symm.trans h.executes.output_eq
  · intro hops
    show instrs.length = d.cpu.cycles.toNat
    rw [hcycles, UInt64.toNat_ofNat_of_lt' (Nat.lt_of_le_of_lt hlength hops)]

/-- A run that stops at a breakpoint, goes on over it, and ends. -/
def interruptedRun : List Op :=
  [.step, .flipBreakpoint, .reset, .run, .tick, .tick, .scroll 3, .run, .tick, .tick, .tick]

/-- The value is printed once, although execution has stopped in front of its instruction. -/
theorem exists_plain_run_interrupted :
    ∃ first instrs plain,
      Cpu.powerOn.load (Instr.encodeList [.ldi 0 8, .prn 0, .hlt]) = some (.ok () first) ∧
        first.Executes instrs plain ∧ instrs.length = 3 ∧ first.prints instrs = [8] := by
  obtain ⟨first, instrs, plain, hload, hrun, -, -, hprints, -, hlength⟩ :=
    exists_plain_run (Instr.encodeList [.ldi 0 8, .prn 0, .hlt]) (by decide) _ (.inl rfl)
      interruptedRun
  refine ⟨first, instrs, plain, hload, hrun, ?_, ?_⟩
  · rw [hlength (by decide)]
    decide +kernel
  · rw [← hprints]
    decide +kernel

end ByteMachine.Debugger
