import ByteMachine.Cpu.Step

/-!
# Runs

A run executes instructions until the machine halts, an instruction fails, or a given number of
them is done.  A failing run leaves the machine as it stood before the failing instruction.

## Main definitions

- `Cpu.finish` — as many instructions as there are until the end
- `Cpu.advance` — at most so many instructions
- `Cpu.run`, `Cpu.runFor` — run without and with a limit; both give the number of executed
  instructions
- `Cpu.trace` — a run that notes the trace line before every attempt

## Design notes

A run without a limit need not end.  So `finish` is a loop without a bound, and what is said about
it holds wherever there is an end.
-/

namespace ByteMachine

namespace Cpu

instance : Nonempty (EStateM.Result Fault Cpu Unit) :=
  ⟨.ok () powerOn⟩

/-- One turn of the loop of a run: the machine to go on with, or the end. -/
def turn (cpu : Cpu) : Id (Cpu ⊕ EStateM.Result Fault Cpu Unit) :=
  match cpu.state with
  | .halted => .inr (.ok () cpu)
  | .running =>
    match step cpu with
    | .ok _ cpu' => .inl cpu'
    | .error fault cpu' => .inr (.error fault cpu')

/-- Execute instructions until the machine halts or one fails. -/
def finish (cpu : Cpu) : EStateM.Result Fault Cpu Unit :=
  Id.run (repeatM turn cpu)

/-- Execute instructions until the machine halts, one fails, or `fuel` are done. -/
def advance : (fuel : Nat) → Exec Unit
  | 0, cpu => .ok () cpu
  | fuel + 1, cpu =>
    match cpu.state with
    | .halted => .ok () cpu
    | .running =>
      match step cpu with
      | .ok _ cpu' => advance fuel cpu'
      | .error fault cpu' => .error fault cpu'

/-- The instructions that an action executes, by the cycle counter. -/
def counted (action : Exec Unit) : Exec UInt64 := do
  let before := (← get).cycles
  action
  return (← get).cycles - before

/-- Run until the machine halts or an instruction fails. -/
def run : Exec UInt64 :=
  counted finish

/-- The number of instructions after which the cycle counter starts again from zero. -/
def cycleSpan : Nat := 0x10000000000000000

/-- Run for at most `max` instructions, and never past the last value of the cycle counter. -/
def runFor (max : UInt64) : Exec UInt64 := counted fun cpu =>
  advance (min max.toNat (cycleSpan - 1 - cpu.cycles.toNat)) cpu

/-- Run for at most `max` instructions.  Gives the trace lines from before each attempt and the
fault that ended the run, if any, with the machine at its end. -/
def trace : (max : Nat) → Cpu → (List String × Option Fault) × Cpu
  | 0, cpu => (([], none), cpu)
  | max + 1, cpu =>
    match cpu.state with
    | .halted => (([], none), cpu)
    | .running =>
      match step cpu with
      | .ok _ cpu' =>
        let ((lines, fault), cpu'') := trace max cpu'
        ((cpu.traceText :: lines, fault), cpu'')
      | .error fault cpu' => (([cpu.traceText], some fault), cpu')

end Cpu

end ByteMachine
