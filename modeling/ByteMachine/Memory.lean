import ByteMachine.Action
import ByteMachine.Checked
import ByteMachine.Text.Numeral

/-!
# Memory

One array of byte cells holds code, data and stack.  A machine starts with 256 zero cells; a
machine restored from a snapshot may come with fewer or more, so the number of cells belongs to
the value and not to the type.  Every operation here keeps that number.

## Main definitions

- `Memory`, `Memory.blank` — the cells, and the memory of a new machine
- `Memory.read`, `Memory.write` — one cell, with an error outside the cells
- `Memory.load`, `Memory.overlay` — a block of bytes copied to an address, and what that makes of
  memory
- `Memory.dump` — the addresses of a range with their values

## Design notes

Writes and loads work in place, and a failing one leaves memory as far as it had come.  Loads and
dumps measure by the 256 addresses of a full machine.  Where a memory has not all of these cells,
they can come to an address without one.  No error is made for that: the machine stops there, and
the operation has no result at all.
-/

namespace ByteMachine

/-- An eight-bit value: a memory cell, a register or a byte of an encoded instruction. -/
abbrev Byte := UInt8

/-- The number of addresses, and so the first address behind memory. -/
def addressCount : Nat := 256

/-- Why a memory operation is refused. -/
inductive MemoryError where
  /-- There is no cell at the address, given as the signed value of its low 32 bits. -/
  | noCell (addr : Int)
  /-- A block of `size` bytes does not fit into the `available` addresses from its start. -/
  | tooLarge (size available : Nat)
deriving DecidableEq, Repr

namespace MemoryError

/-- The error for an address without a cell. -/
def ofAddress (addr : Nat) : MemoryError :=
  .noCell (Int.bmod addr 0x100000000)

def message : MemoryError → String
  | .noCell addr => s!"memory address {addr} out of range (0-255)"
  | .tooLarge size available =>
    s!"program size {size} exceeds available space {available}"

theorem ofAddress_eq {addr : Nat} (h : addr < 0x80000000) : ofAddress addr = .noCell addr := by
  rw [ofAddress, Int.bmod_eq_of_le_mul_two] <;> omega

end MemoryError

/-- The memory cells, address 0 first. -/
structure Memory where
  cells : List Byte
deriving DecidableEq, Repr

namespace Memory

/-- The memory of a new machine: every cell is zero. -/
def blank : Memory :=
  ⟨List.replicate addressCount 0⟩

def read (m : Memory) (addr : Nat) : Except MemoryError Byte :=
  match m.cells[addr]? with
  | some value => .ok value
  | none => .error (.ofAddress addr)

/-- An operation on memory in place. -/
abbrev Action := EStateM MemoryError Memory

/-- Store `value` in the cell at `addr`. -/
def write (addr : Nat) (value : Byte) : Action Unit := fun m =>
  if addr < m.cells.length then .ok () ⟨m.cells.set addr value⟩
  else .error (.ofAddress addr) m

/-- The value at `addr` for display, where an address without a cell shows zero. -/
def peek (m : Memory) (addr : Nat) : Byte :=
  m.cells[addr]?.getD 0

def clear (m : Memory) : Memory :=
  ⟨List.replicate m.cells.length 0⟩

/-- The memory with `bytes` in the cells from `start` on, as far as there are cells. -/
def overlay (m : Memory) (start : Nat) (bytes : List Byte) : Memory :=
  ⟨m.cells.take start ++ bytes.take (m.cells.length - start) ++
    m.cells.drop (start + bytes.length)⟩

/-- Copy `bytes` to the addresses from `start` on, all of which must be machine addresses.  They are
copied over a slice of the cells, and if that is not there the machine stops. -/
def load (m : Memory) (start : Nat) (bytes : List Byte) :
    Option (EStateM.Result MemoryError Memory Unit) := do
  let available := addressCount - start
  if addressCount < start ∨ available < bytes.length then
    return .error (.tooLarge bytes.length available) m
  let stop ← Checked.sum? start bytes.length
  let cells ← Checked.replace? m.cells start stop bytes
  return .ok () ⟨cells⟩

/-- The machine addresses among the `count` addresses from `start` on, with their values.  If one of
them has no cell, the machine stops. -/
def dump (m : Memory) (start count : Nat) : Option (List (Nat × Byte)) :=
  let stop := min (Checked.cappedSum start count) addressCount
  let first := min start stop
  (List.range' first (stop - first)).mapM fun addr => (m.cells[addr]?).map (addr, ·)

/-- A one-line account of the memory for diagnostics. -/
def describe (m : Memory) : String :=
  let nonZero := (m.cells.filter (· ≠ 0)).length
  s!"Memory \x7b non_zero_cells: {nonZero}, total_cells: {addressCount} \x7d"

theorem read_eq_ok_iff {m : Memory} {addr : Nat} {value : Byte} :
    m.read addr = .ok value ↔ m.cells[addr]? = some value := by
  unfold read
  split <;> simp_all

theorem read_eq_error_iff {m : Memory} {addr : Nat} {e : MemoryError} :
    m.read addr = .error e ↔ m.cells.length ≤ addr ∧ e = .ofAddress addr := by
  unfold read
  split
  · rename_i h
    have : addr < m.cells.length := (List.getElem?_eq_some_iff.1 h).1
    simp; omega
  · rename_i h
    have : m.cells.length ≤ addr := List.getElem?_eq_none_iff.1 h
    simp [this, eq_comm]

@[simp]
theorem length_cells_blank : blank.cells.length = addressCount := by
  simp [blank]

@[simp]
theorem length_cells_clear (m : Memory) : m.clear.cells.length = m.cells.length := by
  simp [clear]

@[simp]
theorem length_cells_overlay (m : Memory) (start : Nat) (bytes : List Byte) :
    (m.overlay start bytes).cells.length = m.cells.length := by
  simp [overlay]
  omega

theorem load_of_tooLarge {start : Nat} {bytes : List Byte} (m : Memory)
    (h : addressCount < start + bytes.length) :
    m.load start bytes = some (.error (.tooLarge bytes.length (addressCount - start)) m) := by
  have hlarge : addressCount < start ∨ addressCount - start < bytes.length := by omega
  rw [load, if_pos hlarge]
  rfl

/-- A block that is not too large is copied over its slice of the cells. -/
theorem load_eq_map {start : Nat} {bytes : List Byte} (m : Memory)
    (hsize : start + bytes.length ≤ addressCount) :
    m.load start bytes =
      (Checked.replace? m.cells start (start + bytes.length) bytes).map (.ok () ⟨·⟩) := by
  have hfits : ¬(addressCount < start ∨ addressCount - start < bytes.length) := by omega
  have hword : start + bytes.length < UInt64.size := Nat.lt_of_le_of_lt hsize (by decide)
  rw [load, if_neg hfits, Checked.sum?_of_lt hword, Option.bind_eq_bind, Option.bind_some]
  cases Checked.replace? m.cells start (start + bytes.length) bytes <;> rfl

/-- A block that ends within memory replaces the cells that it takes. -/
theorem load_of_le {m : Memory} {start : Nat} {bytes : List Byte}
    (hsize : start + bytes.length ≤ addressCount)
    (hcells : start + bytes.length ≤ m.cells.length) :
    m.load start bytes = some (.ok () (m.overlay start bytes)) := by
  have htake : bytes.take (m.cells.length - start) = bytes := List.take_of_length_le (by omega)
  rw [load_eq_map m hsize, Checked.replace?_of_le hcells, Option.map_some, overlay, htake]

/-- A load stops for want of cells alone. -/
theorem load_of_missing {m : Memory} {start : Nat} {bytes : List Byte}
    (hsize : start + bytes.length ≤ addressCount)
    (hcells : m.cells.length < start + bytes.length) : m.load start bytes = none := by
  rw [load_eq_map m hsize, Checked.replace?_of_lt hcells, Option.map_none]

/-- All that a load can come to. -/
theorem load_cases (m : Memory) (start : Nat) (bytes : List Byte) :
    (addressCount < start + bytes.length ∧
      m.load start bytes = some (.error (.tooLarge bytes.length (addressCount - start)) m)) ∨
    (m.cells.length < start + bytes.length ∧ m.load start bytes = none) ∨
    (start + bytes.length ≤ addressCount ∧ start + bytes.length ≤ m.cells.length ∧
      m.load start bytes = some (.ok () (m.overlay start bytes))) := by
  rcases Nat.lt_or_ge addressCount (start + bytes.length) with hlarge | hsize
  · exact .inl ⟨hlarge, load_of_tooLarge m hlarge⟩
  rcases Nat.lt_or_ge m.cells.length (start + bytes.length) with hmissing | hcells
  · exact .inr (.inl ⟨hmissing, load_of_missing hsize hmissing⟩)
  · exact .inr (.inr ⟨hsize, hcells, load_of_le hsize hcells⟩)

/-- In a memory with all its cells, a load has a result. -/
theorem isSome_load {m : Memory} (hcells : m.cells.length = addressCount) (start : Nat)
    (bytes : List Byte) : (m.load start bytes).isSome := by
  rcases m.load_cases start bytes with ⟨-, h⟩ | ⟨hmissing, -⟩ | ⟨-, -, h⟩
  · rw [h]
    rfl
  · rw [load_of_tooLarge m (hcells ▸ hmissing)]
    rfl
  · rw [h]
    rfl

/-- A write that fails changes nothing. -/
theorem write_error_state {m m' : Memory} {addr : Nat} {value : Byte} {e : MemoryError}
    (h : m.write addr value = .error e m') : m' = m := by
  unfold write at h
  split at h
  · exact nomatch h
  · exact (EStateM.Result.error.inj h).2.symm

/-- A load that fails changes nothing. -/
theorem load_error_state {m m' : Memory} {start : Nat} {bytes : List Byte} {e : MemoryError}
    (h : m.load start bytes = some (.error e m')) : m' = m := by
  rcases m.load_cases start bytes with ⟨-, hload⟩ | ⟨-, hload⟩ | ⟨-, -, hload⟩
  · rw [hload] at h
    exact (EStateM.Result.error.inj (Option.some.inj h)).2.symm
  · exact nomatch hload.symm.trans h
  · exact nomatch hload.symm.trans h

theorem length_cells_load {m : Memory} {start : Nat} {bytes : List Byte}
    {result : EStateM.Result MemoryError Memory Unit} (h : m.load start bytes = some result) :
    (endState result).cells.length = m.cells.length := by
  rcases m.load_cases start bytes with ⟨-, hload⟩ | ⟨-, hload⟩ | ⟨-, hcells, hload⟩
  · obtain rfl := Option.some.inj (hload.symm.trans h)
    rfl
  · exact nomatch hload.symm.trans h
  · obtain rfl := Option.some.inj (hload.symm.trans h)
    exact length_cells_overlay m start bytes

end Memory

end ByteMachine
