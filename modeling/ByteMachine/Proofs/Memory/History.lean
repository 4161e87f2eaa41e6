import ByteMachine.Memory
import Mathlib.Data.List.Induction
import Mathlib.Data.List.Sort

/-!
# Memory as an array

Whatever has been written, loaded and cleared, and whatever of it has failed, a cell of memory has
the byte that was stored there last.  A load takes the whole block or nothing, and a dump shows the
cells in their order.  Writes and loads work in place; that a failing one leaves no trace is read
off what they do.  None of the operations stops the machine: no sum leaves the words in which
addresses are computed, and no slice or index lies outside the cells.

## Main definitions

- `Memory.Op`, `Memory.attempt`, `Memory.perform?` — the operations on a memory
- `Memory.lastStored` — the byte that was stored last at an address
- `Memory.HoldsAfter` — a memory in which every cell has the byte that was stored there last

## Main statements

- `Memory.attempt_error_state` — a failing operation changes nothing
- `Memory.getElem?_attempt`, `Memory.exists_holdsAfter` — one operation, and a whole history
- `Memory.load_eq_ok_iff`, `Memory.HoldsAfter.dump_eq_some` — which blocks can be loaded, and what a
  dump shows
- `Memory.array_behaviour` — all of this together
-/

namespace ByteMachine.Memory

/-- The operations that store bytes. -/
inductive Op where
  | write (addr : Nat) (value : Byte)
  | load (start : Nat) (bytes : List Byte)
  | clear
deriving DecidableEq, Repr

/-- An operation in place.  If it stops the machine, it has no result. -/
def attempt (m : Memory) : Op → Option (EStateM.Result MemoryError Memory Unit)
  | .write addr value => some (m.write addr value)
  | .load start bytes => m.load start bytes
  | .clear => some (.ok () m.clear)

/-- The memory that an operation leaves, whether it has failed or not. -/
def perform? (m : Memory) (op : Op) : Option Memory :=
  (m.attempt op).map endState

/-- The byte that an operation stores at a machine address, if it stores one there.  A block that
does not fit is not stored at all. -/
def Op.stored? (addr : Nat) : Op → Option Byte
  | .write target value => if addr = target then some value else none
  | .load start bytes =>
    if start + bytes.length ≤ addressCount ∧ start ≤ addr then bytes[addr - start]? else none
  | .clear => some 0

/-- The byte that was stored last at a machine address, or zero. -/
def lastStored (ops : List Op) (addr : Nat) : Byte :=
  (ops.reverse.findSome? (·.stored? addr)).getD 0

/-- A memory with all its cells, each of which has the byte that was stored there last. -/
structure HoldsAfter (ops : List Op) (m : Memory) : Prop where
  length_cells : m.cells.length = addressCount
  cells : ∀ addr < addressCount, m.cells[addr]? = some (lastStored ops addr)

variable {m m' : Memory} {op : Op} {ops : List Op} {start count addr : Nat} {value : Byte}
  {bytes : List Byte} {result : EStateM.Result MemoryError Memory Unit}

/-! ### Single operations -/

theorem exists_attempt (hcells : m.cells.length = addressCount) (op : Op) :
    ∃ result, m.attempt op = some result := by
  cases op with
  | write addr value => exact ⟨_, rfl⟩
  | load start bytes => exact Option.isSome_iff_exists.1 (isSome_load hcells start bytes)
  | clear => exact ⟨_, rfl⟩

/-- Whatever has been done to memory when an operation fails, there is nothing to be seen of it. -/
theorem attempt_error_state {e : MemoryError} (h : m.attempt op = some (.error e m')) :
    m' = m := by
  cases op with
  | write addr value => exact write_error_state (Option.some.inj h)
  | load start bytes => exact load_error_state h
  | clear => exact nomatch h

theorem exists_write_iff : (∃ m', m.write addr value = .ok () m') ↔ addr < m.cells.length := by
  unfold write
  split <;> simp_all

/-- A block can be loaded exactly if it ends within memory. -/
theorem load_eq_ok_iff (hcells : m.cells.length = addressCount) :
    m.load start bytes = some (.ok () m') ↔
      start + bytes.length ≤ addressCount ∧ m.overlay start bytes = m' := by
  rcases m.load_cases start bytes with ⟨hlarge, hload⟩ | ⟨hmissing, hload⟩ | ⟨hsize, -, hload⟩
  · rw [hload]
    exact ⟨fun h => (nomatch h), fun h => absurd h.1 (Nat.not_le.2 hlarge)⟩
  · rw [hload]
    exact ⟨fun h => (nomatch h), fun h => absurd h.1 (Nat.not_le.2 (hcells ▸ hmissing))⟩
  · rw [hload, Option.some.injEq, EStateM.Result.ok.injEq, and_iff_right hsize]
    exact and_iff_right rfl

theorem getElem?_overlay (h : start + bytes.length ≤ m.cells.length) :
    (m.overlay start bytes).cells[addr]? =
      if start ≤ addr ∧ addr < start + bytes.length then bytes[addr - start]?
      else m.cells[addr]? := by
  have hbytes : bytes.take (m.cells.length - start) = bytes := List.take_of_length_le (by omega)
  have hfront : (m.cells.take start).length = start := List.length_take_of_le (by omega)
  rw [overlay, hbytes, List.append_assoc, List.getElem?_append, List.getElem?_append, hfront,
    List.getElem?_drop]
  by_cases hbefore : addr < start
  · rw [if_pos hbefore, if_neg (by omega), List.getElem?_take_of_lt hbefore]
  rw [if_neg hbefore]
  by_cases hinside : addr < start + bytes.length
  · rw [if_pos (by omega), if_pos (by omega)]
  · rw [if_neg (by omega), if_neg (by omega)]
    congr 1
    omega

/-- A write leaves the other cells alone, and behind the cells it leaves all of them alone. -/
theorem endState_write (m : Memory) (target : Nat) (value : Byte) :
    endState (m.write target value) = ⟨m.cells.set target value⟩ := by
  unfold write
  split
  next => rfl
  next hmissing => exact congrArg mk (List.set_eq_of_length_le (Nat.not_lt.1 hmissing)).symm

theorem endState_load (h : m.load start bytes = some result) :
    endState result =
      if start + bytes.length ≤ addressCount then m.overlay start bytes else m := by
  rcases m.load_cases start bytes with ⟨hlarge, hload⟩ | ⟨hmissing, hload⟩ | ⟨hsize, -, hload⟩
  · obtain rfl := Option.some.inj (hload.symm.trans h)
    rw [if_neg (Nat.not_le.2 hlarge)]
    rfl
  · exact nomatch hload.symm.trans h
  · obtain rfl := Option.some.inj (hload.symm.trans h)
    rw [if_pos hsize]
    rfl

theorem length_cells_attempt (h : m.attempt op = some result) :
    (endState result).cells.length = m.cells.length := by
  cases op with
  | write addr value =>
    obtain rfl := Option.some.inj h
    rw [endState_write, List.length_set]
  | load start bytes => exact length_cells_load h
  | clear =>
    obtain rfl := Option.some.inj h
    exact length_cells_clear m

/-- What a cell has after an operation: the byte that the operation stores there, or what it had
before. -/
theorem getElem?_attempt (hcells : m.cells.length = addressCount) (haddr : addr < addressCount)
    (h : m.attempt op = some result) :
    (endState result).cells[addr]? = (op.stored? addr).or m.cells[addr]? := by
  cases op with
  | write target value =>
    obtain rfl := Option.some.inj h
    rw [endState_write, Op.stored?]
    by_cases htarget : addr = target
    · rw [if_pos htarget, ← htarget, Option.some_or, List.getElem?_set_self (hcells ▸ haddr)]
    · rw [if_neg htarget, Option.none_or, List.getElem?_set_ne (Ne.symm htarget)]
  | load start bytes =>
    rw [endState_load h, Op.stored?]
    by_cases hsize : start + bytes.length ≤ addressCount
    · rw [if_pos hsize, getElem?_overlay (hcells ▸ hsize)]
      by_cases hinside : start ≤ addr ∧ addr < start + bytes.length
      · have hindex : addr - start < bytes.length := by omega
        rw [if_pos hinside, if_pos ⟨hsize, hinside.1⟩, List.getElem?_eq_getElem hindex,
          Option.some_or]
      · have hnone : start ≤ addr → bytes[addr - start]? = none := fun hle =>
          List.getElem?_eq_none (by omega)
        rw [if_neg hinside]
        split
        next hbehind => rw [hnone hbehind.2, Option.none_or]
        next => rw [Option.none_or]
    · rw [if_neg hsize, if_neg fun h => hsize h.1, Option.none_or]
  | clear =>
    obtain rfl := Option.some.inj h
    show m.clear.cells[addr]? = _
    rw [clear, List.getElem?_replicate, if_pos (hcells ▸ haddr), Op.stored?, Option.some_or]

/-! ### Histories -/

theorem lastStored_append (ops : List Op) (op : Op) (addr : Nat) :
    lastStored (ops ++ [op]) addr = (op.stored? addr).getD (lastStored ops addr) := by
  rw [lastStored, List.reverse_append, List.reverse_singleton, List.singleton_append,
    List.findSome?_cons]
  cases op.stored? addr <;> rfl

namespace HoldsAfter

theorem blank : blank.HoldsAfter [] := by
  refine ⟨length_cells_blank, fun addr haddr => ?_⟩
  show (List.replicate addressCount 0)[addr]? = some 0
  rw [List.getElem?_replicate, if_pos haddr]

theorem perform? (h : m.HoldsAfter ops) (op : Op) :
    ∃ m', m.perform? op = some m' ∧ m'.HoldsAfter (ops ++ [op]) := by
  obtain ⟨result, hresult⟩ := exists_attempt h.length_cells op
  refine ⟨endState result, congrArg (Option.map endState) hresult, ?_, fun addr haddr => ?_⟩
  · rw [length_cells_attempt hresult, h.length_cells]
  · rw [getElem?_attempt h.length_cells haddr hresult, h.cells addr haddr, lastStored_append]
    cases op.stored? addr <;> rfl

theorem read_eq (h : m.HoldsAfter ops) (addr : Nat) :
    m.read addr =
      if addr < addressCount then .ok (lastStored ops addr) else .error (.ofAddress addr) := by
  split
  next haddr => exact read_eq_ok_iff.2 (h.cells addr haddr)
  next haddr => exact read_eq_error_iff.2 ⟨h.length_cells ▸ Nat.le_of_not_lt haddr, rfl⟩

end HoldsAfter

/-- No history stops the machine. -/
theorem exists_holdsAfter (ops : List Op) :
    ∃ m, ops.foldlM perform? blank = some m ∧ m.HoldsAfter ops := by
  induction ops using List.reverseRecOn with
  | nil => exact ⟨blank, rfl, .blank⟩
  | append_singleton ops op ih =>
    obtain ⟨mid, hmid, hholds⟩ := ih
    obtain ⟨m, hm, hlast⟩ := hholds.perform? op
    refine ⟨m, ?_, hlast⟩
    rw [List.foldlM_append, hmid, Option.bind_eq_bind, Option.bind_some, List.foldlM_cons, hm]
    rfl

/-! ### Dumps -/

/-- The addresses of a dump are counted from its first one, or picked from all of memory. -/
theorem range'_eq_filter (start count : Nat) :
    List.range' start (min (start + count) addressCount - start) =
      (List.range addressCount).filter fun addr => start ≤ addr ∧ addr < start + count := by
  have hrange : (List.range addressCount).Pairwise (· < ·) := List.pairwise_lt_range
  have hfilter := hrange.filter fun addr => decide (start ≤ addr ∧ addr < start + count)
  refine List.Pairwise.eq_of_mem_iff (List.pairwise_lt_range' _ Nat.one_pos) hfilter fun addr => ?_
  rw [List.mem_range'_1, List.mem_filter, List.mem_range, decide_eq_true_eq]
  omega

/-- Every address that a dump comes to has a cell. -/
theorem HoldsAfter.dump_eq_some (h : m.HoldsAfter ops) (start count : Nat) :
    m.dump start count = some (((List.range addressCount).filter fun addr =>
      start ≤ addr ∧ addr < start + count).map fun addr => (addr, lastStored ops addr)) := by
  -- behind memory, both ranges are empty
  have hrange : ∀ stop, List.range' (min start stop) (stop - min start stop) =
      List.range' start (stop - start) := by
    intro stop
    rcases Nat.le_total start stop with hle | hle
    · rw [Nat.min_eq_left hle]
    · rw [Nat.min_eq_right hle, Nat.sub_self, Nat.sub_eq_zero_of_le hle]
      rfl
  have hbound : addressCount < UInt64.size := by decide
  rw [dump, Checked.min_cappedSum hbound, hrange, range'_eq_filter]
  refine Checked.mapM_eq_some fun addr hmem => ?_
  rw [h.cells addr (List.mem_range.1 (List.mem_of_mem_filter hmem)), Option.map_some]

/-- **Memory is an array of 256 cells.**  Take any sequence of writes, loads and clears of a new
memory, with any addresses and blocks.  None of them stops the machine: every sum fits a word of 64
bits, and every slice and index lies within the cells.  Afterwards, every address below 256 has the
byte that was stored there last.  A write succeeds exactly below 256, and a load exactly if the
block begins and ends within memory; then the block stands there, and every other cell is as before.
Every operation has a result, and one that fails leaves memory as it was.  A dump lists the
addresses of its range that memory has, ascending, each with its byte. -/
theorem array_behaviour (ops : List Op) :
    ∃ m, ops.foldlM perform? blank = some m ∧
    (∀ addr, m.read addr =
      if addr < 256 then .ok (lastStored ops addr) else .error (.ofAddress addr)) ∧
    (∀ addr value, (∃ m', m.write addr value = .ok () m') ↔ addr < 256) ∧
    (∀ start bytes,
      ((∃ m', m.load start bytes = some (.ok () m')) ↔
        start ≤ 256 ∧ start + bytes.length ≤ 256) ∧
      ∀ m', m.load start bytes = some (.ok () m') → ∀ addr, m'.cells[addr]? =
        if start ≤ addr ∧ addr < start + bytes.length then bytes[addr - start]?
        else m.cells[addr]?) ∧
    (∀ op, ∃ result, m.attempt op = some result ∧
      ∀ e m', result = .error e m' → m' = m) ∧
    ∀ start count, m.dump start count =
      some (((List.range 256).filter fun addr => start ≤ addr ∧ addr < start + count).map
        fun addr => (addr, lastStored ops addr)) := by
  obtain ⟨m, hm, h⟩ := exists_holdsAfter ops
  refine ⟨m, hm, h.read_eq, ?_, ?_, ?_, h.dump_eq_some⟩
  · intro addr value
    rw [exists_write_iff, h.length_cells]
    rfl
  · intro start bytes
    constructor
    · simp only [load_eq_ok_iff h.length_cells, exists_and_left, exists_eq', and_true]
      exact ⟨fun hsize => ⟨Nat.le_of_add_right_le hsize, hsize⟩, And.right⟩
    · intro m' hload addr
      obtain ⟨hsize, rfl⟩ := (load_eq_ok_iff h.length_cells).1 hload
      exact getElem?_overlay (h.length_cells ▸ hsize)
  · intro op
    obtain ⟨result, hresult⟩ := exists_attempt h.length_cells op
    exact ⟨result, hresult, fun e m' hfails => attempt_error_state (hfails ▸ hresult)⟩

/-- Blocks at the end of memory, of which the second does not fit, and writes at both sides of the
end. -/
def aroundTheEnd : List Op :=
  [.load 253 [1, 2, 3], .load 254 [4, 5, 6], .write 255 9, .write 256 7]

/-- The first block is there but for the byte that was written over it. -/
theorem array_behaviour_aroundTheEnd :
    ∃ m, aroundTheEnd.foldlM perform? blank = some m ∧ m.read 254 = .ok 2 ∧ m.read 255 = .ok 9 ∧
      m.dump 254 0xFFFFFFFFFFFFFFFF = some [(254, 2), (255, 9)] := by
  have hlast : lastStored aroundTheEnd 254 = 2 ∧ lastStored aroundTheEnd 255 = 9 := by decide
  obtain ⟨m, hm, hread, -, -, -, hdump⟩ := array_behaviour aroundTheEnd
  refine ⟨m, hm, (hread 254).trans (by rw [hlast.1]; rfl), (hread 255).trans (by rw [hlast.2]; rfl),
    ?_⟩
  rw [hdump]
  decide +kernel

end ByteMachine.Memory
