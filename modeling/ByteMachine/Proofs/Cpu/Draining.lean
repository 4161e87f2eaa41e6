import ByteMachine.Proofs.Cpu.Runs
import Mathlib.Data.List.Induction

/-!
# Output taken between steps

The output of a machine may be taken at any time: after every step, now and then, or never.  No step
looks at it, so whoever takes it changes neither what the steps answer nor what they do to the rest
of the machine, and gets the same values in the same order.

## Main definitions

- `Cpu.Action` — a step, or taking the output
- `Cpu.Log`, `Cpu.record` — what comes of a sequence of actions

## Main statements

- `Cpu.Log.undrained` — with its output put back, the machine is that of a run that keeps it
- `Cpu.drain_invisible` — any sequence of actions against such a run
-/

namespace ByteMachine.Cpu

inductive Action where
  | step
  /-- Take the output. -/
  | drain
deriving DecidableEq, Repr

/-- A machine after some actions. -/
structure Log where
  cpu : Cpu
  /-- What the steps have answered, the first one first. -/
  answers : List (Except Fault Instr)
  /-- The outputs that have been taken, the first one first. -/
  pieces : List (List Byte)

def Log.act (log : Log) : Action → Log
  | .step =>
    let result := step log.cpu
    { log with cpu := endState result, answers := log.answers ++ [answer result] }
  | .drain =>
    let (piece, cpu) := log.cpu.drain
    { log with cpu, pieces := log.pieces ++ [piece] }

/-- What comes of actions on a machine, one after the other.  A step that fails is followed by the
next action like any other. -/
def record (cpu : Cpu) (actions : List Action) : Log :=
  actions.foldl Log.act ⟨cpu, [], []⟩

/-- The machine of a log with all its output put back. -/
def Log.undrained (log : Log) : Cpu :=
  log.cpu.reframe (.behind log.pieces.flatten)

/-! ## One action -/

theorem undrained_step (log : Log) :
    (log.act .step).undrained = endState (step log.undrained) := by
  rw [Log.undrained, Log.undrained, step_reframe_behind, endState_mapState]
  rfl

theorem undrained_drain (log : Log) : (log.act .drain).undrained = log.undrained := by
  show log.cpu.drain.2.reframe (.behind (log.pieces ++ [log.cpu.output]).flatten) = log.undrained
  rw [List.flatten_append, List.flatten_singleton]
  show { log.cpu with output := (log.pieces.flatten ++ log.cpu.output) ++ [] } = log.undrained
  rw [List.append_nil]
  rfl

theorem answers_step (log : Log) :
    (log.act .step).answers = log.answers ++ [answer (step log.undrained)] := by
  rw [Log.undrained, step_reframe_behind, answer_mapState]
  rfl

/-! ## Any actions -/

theorem record_snoc (cpu : Cpu) (actions : List Action) (action : Action) :
    cpu.record (actions ++ [action]) = (cpu.record actions).act action := by
  rw [record, List.foldl_append]
  rfl

theorem undrained_record (cpu : Cpu) (actions : List Action) :
    (cpu.record actions).undrained = cpu.after (actions.count .step) := by
  induction actions using List.reverseRecOn with
  | nil => rfl
  | append_singleton actions action ih =>
    rw [record_snoc, List.count_append]
    cases action with
    | step => rw [undrained_step, ih, ← after_succ_eq_endState]; rfl
    | drain => rw [undrained_drain, ih]; rfl

theorem answers_record (cpu : Cpu) (actions : List Action) :
    (cpu.record actions).answers =
      (List.range (actions.count .step)).map fun k => answer (step (cpu.after k)) := by
  induction actions using List.reverseRecOn with
  | nil => rfl
  | append_singleton actions action ih =>
    rw [record_snoc, List.count_append]
    cases action with
    | step =>
      rw [answers_step, ih, undrained_record]
      show _ = (List.range (_ + 1)).map _
      rw [List.range_succ, List.map_append]
      rfl
    | drain => exact ih

/-- **Taking the output is invisible to execution and loses nothing.**  Take any machine and any
sequence of steps, which may fail, with the output taken any number of times in between.  The steps
answer what they answer in the run of as many steps in which nobody takes the output, the machine
is the one at the end of that run but for its output, and the pieces taken, in order, with what is
still pending behind them are the output at the end of that run. -/
theorem drain_invisible (cpu : Cpu) (actions : List Action) :
    let log := cpu.record actions
    let last := cpu.after (actions.count .step)
    log.answers =
        (List.range (actions.count .step)).map (fun k => answer (step (cpu.after k))) ∧
      log.cpu = { last with output := log.cpu.output } ∧
      log.pieces.flatten ++ log.cpu.output = last.output := by
  intro log last
  have hlast : log.undrained = last := undrained_record cpu actions
  refine ⟨answers_record cpu actions, ?_, ?_⟩
  · rw [← hlast]
    rfl
  · rw [← hlast]
    rfl

end ByteMachine.Cpu
