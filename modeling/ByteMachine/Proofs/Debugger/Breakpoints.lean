import ByteMachine.Proofs.Debugger.Plain
import Mathlib.Data.List.Induction

/-!
# Breakpoints

A run resumes over the breakpoint at which it begins and stops at every other.  The flag that makes
the difference is set by a run and taken away by the first tick that has something to do; between
the two it may outlast halts, resets and single steps.  So it says something about the history of
the debugger: whether a tick with something to do has followed the latest run.

## Main definitions

- `Debugger.Live` — a tick of the debugger has something to do
- `Debugger.Resuming` — no such tick has followed the latest run
- `Debugger.TickExecutes`, `Debugger.TickStops` — what the next tick does

## Main statements

- `Debugger.ticked` — everything that a tick can do
- `Debugger.passing_iff` — the flag against the history
- `Debugger.breakpoints_hold` — what ticks do at breakpoints, after any operations
-/

namespace ByteMachine.Debugger

/-- The debugger is running, and its machine has not halted. -/
def Live (d : Debugger) : Prop :=
  d.running = true ∧ d.cpu.state = .running

/-- Among the operations on a new debugger there is a run, and no tick since the latest run has
found the debugger live. -/
def Resuming (program : List Byte) (ops : List Op) : Prop :=
  ∃ before after, ops = before ++ .run :: after ∧ .run ∉ after ∧
    ∀ earlier later, after = earlier ++ .tick :: later →
      ¬((before ++ .run :: earlier).foldl perform (new program)).Live

/-- The next tick executes the instruction: the machine is the one behind it, and what it has
printed is moved to the output of the debugger. -/
def TickExecutes (d : Debugger) (instr : Instr) : Prop :=
  ∃ cpu, d.cpu.step = .ok instr cpu ∧ d.tick.cpu = { cpu with output := [] } ∧
    d.tick.output = d.output ++ cpu.output

/-- The next tick leaves the machine and the output alone and ends the run. -/
def TickStops (d : Debugger) : Prop :=
  d.tick.cpu = d.cpu ∧ d.tick.output = d.output ∧ d.tick.running = false

/-! ### One tick -/

/-- What a tick can do.  The flag `passing` is kept as long as there is nothing to do. -/
inductive Ticked (d : Debugger) : Prop where
  | idle (hrunning : d.running = false) (hsame : d.tick = d)
  | finished (hrunning : d.running = true) (hhalted : d.cpu.state ≠ .running)
    (hstops : d.TickStops) (hkept : d.tick.passing = d.passing)
  | caught (hlive : d.Live) (hpassing : d.passing = false) (hstops : d.TickStops)
    (htaken : d.tick.passing = false)
  | refused (hlive : d.Live) (hstops : d.TickStops) (htaken : d.tick.passing = false)
  | executed (hlive : d.Live) (hpasses : d.pc ∈ d.breakpoints → d.passing = true) (instr : Instr)
    (hexecutes : d.TickExecutes instr) (htaken : d.tick.passing = false)

theorem ticked (d : Debugger) : d.Ticked := by
  by_cases hrunning : d.running = true
  swap
  · refine .idle (Bool.eq_false_iff.2 hrunning) ?_
    rw [tick, if_pos (by simpa using hrunning)]
  by_cases hstate : d.cpu.state = .running
  swap
  · have htick : d.tick = { d with running := false, status := .finished d.cpu.cycles } := by
      rw [tick, if_neg (by simp [hrunning]), if_pos hstate]
    exact .finished hrunning hstate (by simp [TickStops, htick]) (by rw [htick])
  by_cases hcaught : d.pc ∈ d.breakpoints ∧ !d.passing
  · have htick : d.tick = { d with running := false, status := .breakpoint d.pc } := by
      rw [tick, if_neg (by simp [hrunning]), if_neg (by simp [hstate]), if_pos hcaught]
    have hpassing : d.passing = false := by simpa using hcaught.2
    exact .caught ⟨hrunning, hstate⟩ hpassing (by simp [TickStops, htick]) (by rw [htick, hpassing])
  · have htick : d.tick = { d with passing := false }.step := by
      rw [tick, if_neg (by simp [hrunning]), if_neg (by simp [hstate]), if_neg hcaught]
    have hpasses : d.pc ∈ d.breakpoints → d.passing = true := by simpa using hcaught
    rw [step, if_neg (by simp [hstate])] at htick
    cases hstep : d.cpu.step with
    | ok instr cpu =>
      simp only [hstep] at htick
      refine .executed ⟨hrunning, hstate⟩ hpasses instr ⟨cpu, hstep, ?_, ?_⟩ (by rw [htick])
      · rw [htick]
        rfl
      · rw [htick]
        rfl
    | error fault cpu =>
      have hcpu : cpu = d.cpu := (Cpu.step_eq_error_iff.1 hstep).2
      simp only [hstep] at htick
      exact .refused ⟨hrunning, hstate⟩ (by simp [TickStops, htick, hcpu]) (by rw [htick])

theorem passing_tick (d : Debugger) : d.tick.passing = true ↔ d.passing = true ∧ ¬d.Live := by
  cases d.ticked with
  | idle hrunning hsame =>
    have : ¬d.Live := fun hlive => by simp [hlive.1] at hrunning
    simp [hsame, this]
  | finished hrunning hhalted hstops hkept =>
    have : ¬d.Live := fun hlive => hhalted hlive.2
    simp [hkept, this]
  | caught hlive hpassing hstops htaken | refused hlive hstops htaken
  | executed hlive hpasses instr hexecutes htaken => simp [htaken, hlive]

/-! ### The flag and the history -/

theorem passing_perform {d : Debugger} {op : Op} (hrun : op ≠ .run) (htick : op ≠ .tick) :
    (d.perform op).passing = d.passing := by
  cases op with
  | run => exact absurd rfl hrun
  | tick => exact absurd rfl htick
  | step =>
    show d.step.passing = d.passing
    unfold step
    split
    · rfl
    · cases d.cpu.step <;> rfl
  | flipBreakpoint =>
    show d.flipBreakpoint.passing = d.passing
    unfold flipBreakpoint
    split <;> rfl
  | reset =>
    show Debugger.passing (restart { d with running := false, status := .reset }) = d.passing
    unfold restart
    dsimp only
    split <;> rfl
  | scroll rows => rfl

variable {program : List Byte} {ops : List Op}

theorem not_resuming_nil : ¬Resuming program [] := by
  rintro ⟨before, after, hops, -⟩
  exact absurd hops (by simp)

theorem resuming_snoc_run : Resuming program (ops ++ [.run]) := by
  refine ⟨ops, [], rfl, List.not_mem_nil, ?_⟩
  intro earlier later h
  simp at h

/-- An operation other than a run keeps the history resuming, unless it is a tick that finds
something to do. -/
theorem resuming_snoc_iff {op : Op} (hrun : op ≠ .run) :
    Resuming program (ops ++ [op]) ↔
      Resuming program ops ∧ (op = .tick → ¬(ops.foldl perform (new program)).Live) := by
  constructor
  · rintro ⟨before, after, hops, hlatest, hticks⟩
    obtain rfl | ⟨after, last, rfl⟩ := List.eq_nil_or_concat after
    · exact absurd (List.append_inj' hops rfl).2 (by simpa using hrun)
    rw [List.concat_eq_append, ← List.cons_append, ← List.append_assoc] at hops
    obtain ⟨rfl, hlast⟩ := List.append_inj' hops rfl
    obtain rfl : op = last := by simpa using hlast
    refine ⟨⟨before, after, rfl, ?_, ?_⟩, ?_⟩
    · exact fun hmem => hlatest (by simp [hmem])
    · rintro earlier later rfl
      exact hticks earlier (later ++ [op]) (by simp)
    · rintro rfl
      exact hticks after [] (by simp)
  · rintro ⟨⟨before, after, rfl, hlatest, hticks⟩, hlast⟩
    refine ⟨before, after ++ [op], by simp, by simp [hlatest, hrun.symm], ?_⟩
    intro earlier later hafter
    obtain rfl | ⟨later, last, rfl⟩ := List.eq_nil_or_concat later
    · obtain ⟨rfl, hop⟩ := List.append_inj' hafter rfl
      exact hlast (by simpa using hop)
    · rw [List.concat_eq_append, ← List.cons_append, ← List.append_assoc] at hafter
      obtain ⟨rfl, -⟩ := List.append_inj' hafter rfl
      exact hticks earlier later rfl

/-- The flag is set exactly as long as no tick has made use of the latest run. -/
theorem passing_iff (program : List Byte) (ops : List Op) :
    (ops.foldl perform (new program)).passing = true ↔ Resuming program ops := by
  induction ops using List.reverseRecOn with
  | nil =>
    have hnew : (new program).passing = false := by
      unfold new restart
      dsimp only
      split <;> rfl
    rw [List.foldl_nil, hnew]
    exact iff_of_false Bool.false_ne_true not_resuming_nil
  | append_singleton ops op ih =>
    rw [List.foldl_append, List.foldl_cons, List.foldl_nil]
    by_cases hrun : op = .run
    · subst hrun
      exact iff_of_true rfl resuming_snoc_run
    rw [resuming_snoc_iff hrun, ← ih]
    by_cases htick : op = .tick
    · subst htick
      simpa [perform] using passing_tick (ops.foldl perform (new program))
    · simp [passing_perform hrun htick, htick]

/-! ### Breakpoints -/

/-- An executed instruction shows in the cycle counter. -/
theorem not_tickExecutes {d : Debugger} {instr : Instr} (h : d.tick.cpu = d.cpu) :
    ¬d.TickExecutes instr := by
  rintro ⟨cpu, hstep, hcpu, -⟩
  obtain ⟨-, -, next, -, mid, hmid, rfl⟩ := Cpu.step_eq_ok_iff.1 hstep
  have hcycles : d.cpu.cycles = mid.cycles + 1 := congrArg Cpu.cycles (h.symm.trans hcpu)
  rw [Cpu.cycles_effect hmid, UInt64.left_eq_add] at hcycles
  exact absurd hcycles (by decide)

/-- **Breakpoints hold**, after any operations on a new debugger.  A tick executes the instruction
at a breakpoint only if it is the first since the latest run that finds the debugger live.  Every
other tick that finds a running debugger at a breakpoint leaves the machine and the output alone and
ends the run.  Any tick of a running debugger does either this or executes one instruction. -/
theorem breakpoints_hold (program : List Byte) (ops : List Op) :
    let d := ops.foldl perform (new program)
    (∀ instr, d.TickExecutes instr → d.pc ∈ d.breakpoints → d.Live ∧ Resuming program ops) ∧
    (d.running = true → d.pc ∈ d.breakpoints → ¬(d.Live ∧ Resuming program ops) → d.TickStops) ∧
    (d.running = true → (∃ instr, d.TickExecutes instr) ∨ d.TickStops) := by
  intro d
  have hflag : d.passing = true ↔ Resuming program ops := passing_iff program ops
  cases d.ticked with
  | idle hrunning hsame =>
    have hnot : d.running ≠ true := by simp [hrunning]
    refine ⟨fun instr h => absurd h (not_tickExecutes (by rw [hsame])), ?_, ?_⟩
    · exact fun h => absurd h hnot
    · exact fun h => absurd h hnot
  | finished hrunning hhalted hstops hkept | caught hlive hpassing hstops htaken
  | refused hlive hstops htaken =>
    refine ⟨fun instr h => absurd h (not_tickExecutes hstops.1), ?_, ?_⟩
    · exact fun _ _ _ => hstops
    · exact fun _ => .inr hstops
  | executed hlive hpasses instr hexecutes htaken =>
    refine ⟨fun _ _ hhere => ⟨hlive, hflag.1 (hpasses hhere)⟩, ?_, ?_⟩
    · intro _ hhere hnot
      exact absurd ⟨hlive, hflag.1 (hpasses hhere)⟩ hnot
    · exact fun _ => .inl ⟨instr, hexecutes⟩

/-- A program that prints, with a breakpoint at the instruction that does so. -/
def printing : List Byte :=
  Instr.encodeList [.ldi 0 8, .prn 0, .hlt]

/-- The operations that lead to the breakpoint. -/
def upToBreakpoint : List Op :=
  [.step, .flipBreakpoint, .reset, .run, .tick]

/-- The operations that lead there, stop there and begin another run. -/
def resumed : List Op :=
  upToBreakpoint ++ [.tick, .run]

/-- The second tick of the first run stops in front of the instruction, the first tick of the second
run executes it. -/
theorem breakpoints_hold_printing :
    let d := upToBreakpoint.foldl perform (new printing)
    let d' := resumed.foldl perform (new printing)
    d.running = true ∧ d.pc ∈ d.breakpoints ∧ ¬(d.Live ∧ Resuming printing upToBreakpoint) ∧
      d.TickStops ∧ d'.running = true ∧ d'.pc ∈ d'.breakpoints ∧
      ∃ instr, d'.TickExecutes instr ∧ d'.Live ∧
        Resuming printing resumed := by
  intro d d'
  have hrunning : d.running = true := by decide +kernel
  have hhere : d.pc ∈ d.breakpoints := by decide +kernel
  have hused : ¬(d.Live ∧ Resuming printing upToBreakpoint) := by
    rw [← passing_iff]
    rintro ⟨-, hpassing⟩
    exact absurd hpassing (by decide +kernel)
  have hstops := (breakpoints_hold printing upToBreakpoint).2.1 hrunning hhere hused
  obtain ⟨hfirst, -, hdoes⟩ := breakpoints_hold printing resumed
  have hrunning' : d'.running = true := by decide +kernel
  have hhere' : d'.pc ∈ d'.breakpoints := by decide +kernel
  rcases hdoes hrunning' with ⟨instr, hexecutes⟩ | ⟨-, -, hended⟩
  · exact ⟨hrunning, hhere, hused, hstops, hrunning', hhere', instr, hexecutes,
      hfirst instr hexecutes hhere'⟩
  · exact absurd hended (by decide +kernel)

end ByteMachine.Debugger
