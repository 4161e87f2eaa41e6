import ByteMachine.Proofs.Debugger.Reset

/-!
# Reports of a failed load

A debugger loads its program when it is new and again at every reset.  A program that does not fit
is left out, and the load leaves a message about it.  A reset puts its own message before it loads,
so the message of the load stays.  A new debugger puts its message afterwards, and nothing tells
that its machine has no program.

## Main definitions

- `Debugger.Status.IsLoadError` — the report of a load that has failed

## Main statements

- `Debugger.restart_eq_ite` — a load that fails, and one that succeeds
- `Debugger.load_reported` — what the status says after a reset, and what it says at first
- `Debugger.oversized_presented_ready` — a new debugger is ready for a program that it has left out
-/

namespace ByteMachine.Debugger

variable {d : Debugger}

/-- The status says that the program has not been loaded. -/
def Status.IsLoadError (status : Status) : Prop :=
  ∃ e, status = .loadError e

/-! ### Loading -/

/-- What becomes of a debugger that loads its program. -/
theorem restart_eq_ite (d : Debugger) :
    d.restart =
      if addressCount < d.program.length then
        { d with
          cpu := .powerOn
          output := []
          status := .loadError (.tooLarge d.program.length addressCount) }
      else { d with cpu := .loaded d.program, output := [] } := by
  split
  next hlarge => simp only [restart, Cpu.boot_of_lt hlarge]
  next hfits => simp only [restart, Cpu.boot_of_le (Nat.le_of_not_lt hfits)]

/-- The message of a reset is there before that of the load. -/
theorem status_reset (d : Debugger) :
    d.reset.status =
      if addressCount < d.program.length then
        .loadError (.tooLarge d.program.length addressCount)
      else .reset := by
  rw [reset, restart_eq_ite]
  exact apply_ite status _ _ _

/-- The machine of a new debugger has the program only if that fits. -/
theorem cpu_new (program : List Byte) :
    (new program).cpu = if addressCount < program.length then .powerOn else .loaded program := by
  rw [new, restart_eq_ite]
  exact apply_ite cpu _ _ _

theorem isLoadError_reset_iff : d.reset.status.IsLoadError ↔ addressCount < d.program.length := by
  rw [status_reset]
  split
  next hlarge => exact ⟨fun _ => hlarge, fun _ => ⟨_, rfl⟩⟩
  next hfits => exact ⟨fun ⟨_, h⟩ => (nomatch h), fun h => absurd h hfits⟩

/-! ### Reports -/

/-- **Which failed loads are reported.**  Take any program and any operations on a debugger with it,
and then a reset.  The status is a load error exactly if the program has more than 256 bytes, and
its message tells this size; otherwise it is that of a reset.  A new debugger is always ready, also
for a program with more than 256 bytes, which is not in its machine. -/
theorem load_reported (program : List Byte) (ops : List Op) :
    let d := (ops.foldl perform (new program)).reset
    let refusal := MemoryError.tooLarge program.length 256
    (d.status.IsLoadError ↔ 256 < program.length) ∧
    (d.status.message =
      if 256 < program.length then "Load error: " ++ refusal.message else "Reset. Ready.") ∧
    (new program).status = .ready ∧
    (new program).cpu = if 256 < program.length then .powerOn else .loaded program := by
  intro d refusal
  have hprogram : (ops.foldl perform (new program)).program = program := by
    rw [program_foldl_perform, new_eq]
  refine ⟨?_, ?_, rfl, cpu_new program⟩
  · rw [isLoadError_reset_iff, hprogram]
    rfl
  · rw [status_reset, hprogram]
    exact apply_ite Status.message _ _ _

/-- A new debugger with 257 bytes says that it is ready, not that they could not be loaded. -/
theorem oversized_presented_ready :
    ∃ program : List Byte, 256 < program.length ∧ (new program).status = .ready ∧
      ¬(new program).status.IsLoadError := by
  refine ⟨List.replicate 257 0, ?_, rfl, fun ⟨_, h⟩ => nomatch h⟩
  rw [List.length_replicate]
  exact Nat.lt_succ_self 256

end ByteMachine.Debugger
