import ByteMachine.Proofs.Cpu.Snapshot

/-!
# Machines after a reset

A reset clears the cells that there are.  A machine that has been restored from a text has as many
cells as the text lists, so a reset makes it a new machine only if these are all 256.  A program
goes only into cells that exist, and the machine stops when a load comes to an address without one.

## Main statements

- `Memory.load_zeros` — a program in cleared cells is followed by zeros
- `Cpu.reset_eq_powerOn_iff` — when a reset gives a new machine
- `Cpu.restored_reset_load` — what becomes of restored machines in general
-/

namespace ByteMachine

namespace Memory

/-- The memory with this number of cells, all of them zero. -/
def zeros (count : Nat) : Memory :=
  ⟨List.replicate count 0⟩

theorem load_zeros {count : Nat} {program : List Byte} (hsize : program.length ≤ addressCount)
    (hcells : program.length ≤ count) :
    (zeros count).load 0 program =
      some (.ok () ⟨program ++ List.replicate (count - program.length) 0⟩) := by
  have hroom : 0 + program.length ≤ (zeros count).cells.length := by
    rw [zeros, List.length_replicate]
    omega
  have htake : program.take (count - 0) = program := List.take_of_length_le hcells
  rw [load_of_le (by omega) hroom]
  simp only [overlay, zeros, List.length_replicate, htake, List.take_zero, List.nil_append,
    List.drop_replicate, Nat.zero_add]

end Memory

namespace Cpu

/-- A new machine, but with this number of cells. -/
def powerOnWith (count : Nat) : Cpu :=
  { powerOn with mem := .zeros count }

theorem reset_eq (cpu : Cpu) : cpu.reset = powerOnWith cpu.mem.cells.length := rfl

theorem powerOnWith_eq_powerOn_iff {count : Nat} :
    powerOnWith count = powerOn ↔ count = addressCount := by
  constructor
  · intro h
    have hlength := congrArg (fun cpu => cpu.mem.cells.length) h
    simpa [powerOnWith, powerOn, Memory.zeros] using hlength
  · intro h
    rw [h]
    rfl

/-- A reset gives a new machine exactly if memory has all its cells. -/
theorem reset_eq_powerOn_iff {cpu : Cpu} :
    cpu.reset = powerOn ↔ cpu.mem.cells.length = addressCount := by
  rw [reset_eq, powerOnWith_eq_powerOn_iff]

theorem load_powerOnWith {count : Nat} {program : List Byte}
    (hsize : program.length ≤ addressCount) (hcells : program.length ≤ count) :
    (powerOnWith count).load program = some (.ok () { powerOn with
      mem := ⟨program ++ List.replicate (count - program.length) 0⟩ }) := by
  rw [load, powerOnWith, Memory.load_zeros hsize hcells]
  rfl

theorem load_of_missing {cpu : Cpu} {program : List Byte} (hsize : program.length ≤ addressCount)
    (hcells : cpu.mem.cells.length < program.length) :
    cpu.load program = none := by
  rw [load, Memory.load_of_missing (by omega) (by omega)]
  rfl

/-- **A restored machine after a reset.**  Every machine can be restored from a text, whatever the
number of its cells.  Its reset is a new machine with that number of cells, and so equal to a new
machine only if there are 256 of them.  Of the programs with at most 256 bytes, those that have a
cell for every byte are then loaded to address 0, with zeros behind them; on the others the machine
stops. -/
theorem restored_reset_load (cpu : Cpu) :
    let count := cpu.mem.cells.length
    (∃ text, restore? text = some cpu) ∧
    cpu.reset = { powerOn with mem := ⟨List.replicate count 0⟩ } ∧
    (cpu.reset = powerOn ↔ count = 256) ∧
    ∀ program : List Byte, program.length ≤ 256 →
      (program.length ≤ count → cpu.reset.load program = some (.ok ()
        { powerOn with mem := ⟨program ++ List.replicate (count - program.length) 0⟩ })) ∧
      (count < program.length → cpu.reset.load program = none) := by
  have htext := restore?_eq_some (Json.parse?_compact cpu.plain_toJson)
  refine ⟨⟨_, htext⟩, rfl, reset_eq_powerOn_iff, ?_⟩
  intro program hsize
  refine ⟨load_powerOnWith hsize, fun hmissing => ?_⟩
  have hcount : cpu.reset.mem.cells.length = cpu.mem.cells.length := Memory.length_cells_clear _
  exact load_of_missing hsize (hcount ▸ hmissing)

/-- A machine that has halted without a single cell. -/
def cellless : Cpu :=
  { powerOn with mem := ⟨[]⟩, state := .halted }

/-- There is a text whose machine no reset makes a new one, and it stops when a program of one byte
is to be loaded into it. -/
theorem exists_restored_reset_ne_powerOn :
    ∃ text cpu, restore? text = some cpu ∧ cpu.reset ≠ powerOn ∧
      cpu.reset.load [Opcode.hlt.byte] = none := by
  refine ⟨cellless.snapshot, cellless, restore?_eq_some (Json.parse?_compact cellless.plain_toJson),
    ?_, ?_⟩
  · rw [Ne, reset_eq_powerOn_iff]
    exact Nat.zero_ne_add_one 255
  · have hcount : cellless.reset.mem.cells.length = 0 := rfl
    have hmissing : cellless.reset.mem.cells.length < [Opcode.hlt.byte].length := by
      rw [hcount]
      exact Nat.zero_lt_one
    exact load_of_missing (by decide) hmissing

end Cpu

end ByteMachine
