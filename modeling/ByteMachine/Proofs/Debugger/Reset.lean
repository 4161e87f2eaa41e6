import ByteMachine.Proofs.Debugger.Machine

/-!
# What a reset forgets

A reset makes a new machine and stops the debugger, but leaves the flag by which a tick passes over
a breakpoint as some earlier run has left it.  That does not show.  Ticks look at the flag only
while the debugger runs, and what makes it run sets the flag.  So a debugger after a reset behaves
like a new one with the same breakpoints, whatever has happened to it before.

## Main definitions

- `Debugger.Alike` — two debuggers that differ in nothing that matters to execution

## Main statements

- `Debugger.Alike.perform`, `Debugger.Alike.foldl_perform` — they stay so under the same operations
- `Debugger.alike_reset` — a debugger after a reset, and a new one
- `Debugger.reset_forgets` — the two after any further operations
-/

namespace ByteMachine.Debugger

/-- Two debuggers that differ at most in what they show and, unless they run, in the flag that lets
a tick pass over a breakpoint. -/
structure Alike (d d' : Debugger) : Prop where
  program : d'.program = d.program
  cpu : d'.cpu = d.cpu
  output : d'.output = d.output
  running : d'.running = d.running
  breakpoints : d'.breakpoints = d.breakpoints
  passing : d.running = true → d'.passing = d.passing

variable {d d' : Debugger}

/-! ### A reset -/

/-- A restart replaces the machine and the output, and may leave a message. -/
theorem restart_eq (d : Debugger) : ∃ status, d.restart =
    { d with cpu := Cpu.powerOn.perform (.load d.program), output := [], status } := by
  rw [← cpu_restart, restart]
  cases Cpu.boot d.program <;> exact ⟨_, rfl⟩

theorem new_eq (program : List Byte) : new program =
    { cpu := Cpu.powerOn.perform (.load program)
      program
      breakpoints := []
      output := []
      running := false
      quitting := false
      status := .ready
      firstRow := 0
      passing := false } := by
  obtain ⟨status, hrestart⟩ := restart_eq
    ⟨.powerOn, program, [], [], false, false, .ready, 0, false⟩
  rw [new, hrestart]

theorem alike_restart (hprogram : d'.program = d.program) (hrunning : d'.running = d.running)
    (hbreakpoints : d'.breakpoints = d.breakpoints)
    (hpassing : d.running = true → d'.passing = d.passing) : Alike d.restart d'.restart := by
  obtain ⟨status, hrestart⟩ := d.restart_eq
  obtain ⟨status', hrestart'⟩ := d'.restart_eq
  rw [hrestart, hrestart', hprogram]
  exact ⟨rfl, rfl, rfl, hrunning, hbreakpoints, hpassing⟩

/-- The flag is left as it was, but the debugger does not run. -/
theorem alike_reset (d : Debugger) :
    Alike d.reset { new d.program with breakpoints := d.breakpoints } := by
  obtain ⟨status, hreset⟩ := restart_eq { d with running := false, status := .reset }
  rw [reset, hreset, new_eq]
  exact ⟨rfl, rfl, rfl, rfl, rfl, fun hrunning => nomatch hrunning⟩

/-! ### The operations -/

namespace Alike

theorem step (h : Alike d d') : Alike d.step d'.step := by
  unfold Debugger.step
  rw [h.cpu]
  split
  · exact ⟨h.program, rfl, h.output, rfl, h.breakpoints, fun hrunning => nomatch hrunning⟩
  cases d.cpu.step with
  | ok instr cpu =>
    refine ⟨h.program, rfl, ?_, h.running, h.breakpoints, h.passing⟩
    exact congrArg (· ++ cpu.output) h.output
  | error fault cpu =>
    exact ⟨h.program, rfl, h.output, rfl, h.breakpoints, fun hrunning => nomatch hrunning⟩

theorem tick (h : Alike d d') : Alike d.tick d'.tick := by
  unfold Debugger.tick pc
  rw [h.cpu, h.running, h.breakpoints]
  cases hrunning : d.running with
  | false => exact h
  | true =>
    rw [h.passing hrunning]
    simp only [Bool.not_true, Bool.false_eq_true, if_false]
    split
    · exact ⟨h.program, rfl, h.output, rfl, rfl, fun hrunning => nomatch hrunning⟩
    split
    · exact ⟨h.program, rfl, h.output, rfl, rfl, fun hrunning => nomatch hrunning⟩
    · exact step ⟨h.program, rfl, h.output, rfl, rfl, fun _ => rfl⟩

theorem flipBreakpoint (h : Alike d d') : Alike d.flipBreakpoint d'.flipBreakpoint := by
  unfold Debugger.flipBreakpoint pc
  rw [h.cpu, h.breakpoints]
  split <;> exact ⟨h.program, rfl, h.output, h.running, rfl, h.passing⟩

theorem perform (h : Alike d d') (op : Op) : Alike (d.perform op) (d'.perform op) := by
  cases op with
  | run => exact ⟨h.program, h.cpu, h.output, rfl, h.breakpoints, fun _ => rfl⟩
  | step => exact h.step
  | tick => exact h.tick
  | flipBreakpoint => exact h.flipBreakpoint
  | reset => exact alike_restart h.program rfl h.breakpoints fun hrunning => nomatch hrunning
  | scroll rows => exact ⟨h.program, h.cpu, h.output, h.running, h.breakpoints, h.passing⟩

theorem foldl_perform (h : Alike d d') (ops : List Op) :
    Alike (ops.foldl Debugger.perform d) (ops.foldl Debugger.perform d') := by
  induction ops generalizing d d' with
  | nil => exact h
  | cons op ops ih => exact ih (h.perform op)

end Alike

/-! ### The program -/

/-- A step changes the machine, the output and the status, and may end a run. -/
theorem step_eq (d : Debugger) : ∃ cpu output running status,
    d.step = { d with cpu, output, running, status } := by
  unfold step
  split
  · exact ⟨_, _, _, _, rfl⟩
  · cases d.cpu.step <;> exact ⟨_, _, _, _, rfl⟩

/-- A tick may also change whether the next one passes over a breakpoint. -/
theorem tick_eq (d : Debugger) : ∃ cpu output running passing status,
    d.tick = { d with cpu, output, running, passing, status } := by
  unfold tick
  split
  · exact ⟨_, _, _, _, _, rfl⟩
  split
  · exact ⟨_, _, _, _, _, rfl⟩
  split
  · exact ⟨_, _, _, _, _, rfl⟩
  · obtain ⟨cpu, output, running, status, hstep⟩ := step_eq { d with passing := false }
    exact ⟨_, _, _, _, _, hstep⟩

theorem program_perform (d : Debugger) (op : Op) : (d.perform op).program = d.program := by
  cases op with
  | run | scroll => rfl
  | step =>
    obtain ⟨cpu, output, running, status, hstep⟩ := d.step_eq
    show d.step.program = d.program
    rw [hstep]
  | tick =>
    obtain ⟨cpu, output, running, passing, status, htick⟩ := d.tick_eq
    show d.tick.program = d.program
    rw [htick]
  | flipBreakpoint =>
    show d.flipBreakpoint.program = d.program
    unfold flipBreakpoint
    split <;> rfl
  | reset =>
    obtain ⟨status, hreset⟩ := restart_eq { d with running := false, status := .reset }
    show (restart _).program = d.program
    rw [hreset]

theorem program_foldl_perform (d : Debugger) (ops : List Op) :
    (ops.foldl perform d).program = d.program := by
  induction ops generalizing d with
  | nil => rfl
  | cons op ops ih => exact (ih _).trans (d.program_perform op)

/-- **A reset forgets the past.**  Take a debugger after any operations, reset it, and take a new
one with the same program and the same breakpoints.  After any further operations on both, their
machines are the same, and so are their outputs and their breakpoints, and either both run or
neither does. -/
theorem reset_forgets (program : List Byte) (before ops : List Op) :
    let d := before.foldl perform (new program)
    let later := ops.foldl perform d.reset
    let fresh := ops.foldl perform { new program with breakpoints := d.breakpoints }
    later.cpu = fresh.cpu ∧ later.output = fresh.output ∧ later.running = fresh.running ∧
      later.breakpoints = fresh.breakpoints := by
  intro d later fresh
  have hprogram : d.program = program := by
    rw [program_foldl_perform, new_eq]
  have h : Alike later fresh := by
    have hreset := d.alike_reset
    rw [hprogram] at hreset
    exact hreset.foldl_perform ops
  exact ⟨h.cpu.symm, h.output.symm, h.running.symm, h.breakpoints.symm⟩

end ByteMachine.Debugger
