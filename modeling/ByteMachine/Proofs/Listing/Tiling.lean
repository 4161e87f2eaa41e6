import ByteMachine.Proofs.Listing.Sweep
import Mathlib.Data.List.Chain

/-!
# Rows side by side

The rows of a sweep stand side by side: each begins where the one before it ends, and the last ends
with the code.  So does every part of them that is cut out in one piece.

## Main definitions

- `Tiles` — rows that stand side by side between two addresses

## Main statements

- `tiles_sweep` — the rows of a sweep
- `tiles_append` — two groups of rows, one behind the other
- `Tiles.exists_mem`, `Tiles.eq_of_covers` — an address lies in one row, and in no other
- `slice_of_mem_listing`, `flatMap_slice_listing` — the slices of the code between the ends of rows
-/

namespace ByteMachine

/-- The first row begins at `start`, every other row where the one before it ends, and the last row
ends at `stop`. -/
def Tiles (start : Nat) : List Row → Nat → Prop
  | [], stop => start = stop
  | row :: rest, stop => row.addr = start ∧ Tiles row.stop rest stop

/-- The address is that of a byte of the row. -/
def Row.Covers (row : Row) (addr : Nat) : Prop :=
  row.addr ≤ addr ∧ addr < row.stop

theorem Row.addr_lt_stop (row : Row) : row.addr < row.stop :=
  Nat.lt_add_of_pos_right row.chunk.width_pos

variable {code : List Byte} {start stop addr : Nat} {row other : Row} {rows : List Row}

theorem tiles_append {xs ys : List Row} :
    Tiles start (xs ++ ys) stop ↔ ∃ mid, Tiles start xs mid ∧ Tiles mid ys stop := by
  induction xs generalizing start with
  | nil => simp [Tiles]
  | cons row rest ih => simp [Tiles, ih, and_assoc]

namespace Tiles

theorem addr_head (h : Tiles start (row :: rows) stop) : row.addr = start := h.1

/-- Every row takes at least one address. -/
theorem length_le (h : Tiles start rows stop) : start + rows.length ≤ stop := by
  induction rows generalizing start with
  | nil => exact Nat.le_of_eq h
  | cons row rest ih =>
    obtain ⟨rfl, hrest⟩ := h
    have := ih hrest
    have := row.addr_lt_stop
    rw [List.length_cons]
    omega

theorem le (h : Tiles start rows stop) : start ≤ stop :=
  Nat.le_trans (Nat.le_add_right _ _) h.length_le

theorem bounds_of_mem (h : Tiles start rows stop) (hrow : row ∈ rows) :
    start ≤ row.addr ∧ row.stop ≤ stop := by
  induction rows generalizing start with
  | nil => exact nomatch hrow
  | cons first rest ih =>
    obtain ⟨rfl, hrest⟩ := h
    rcases List.mem_cons.1 hrow with rfl | hrow
    · exact ⟨Nat.le_refl _, hrest.le⟩
    · have := ih hrest hrow
      have := first.addr_lt_stop
      omega

theorem isChain (h : Tiles start rows stop) : rows.IsChain fun row next => next.addr = row.stop := by
  induction rows generalizing start with
  | nil => exact .nil
  | cons row rest ih =>
    obtain ⟨-, hrest⟩ := h
    cases rest with
    | nil => exact .singleton row
    | cons next more => exact .cons_cons hrest.addr_head (ih hrest)

theorem pairwise (h : Tiles start rows stop) : rows.Pairwise (·.stop ≤ ·.addr) := by
  induction rows generalizing start with
  | nil => exact .nil
  | cons row rest ih =>
    obtain ⟨-, hrest⟩ := h
    exact .cons (fun _ hnext => (hrest.bounds_of_mem hnext).1) (ih hrest)

theorem stop_getLast (h : Tiles start rows stop) : ∀ last ∈ rows.getLast?, last.stop = stop := by
  intro last hlast
  obtain ⟨front, rfl⟩ := List.getLast?_eq_some_iff.1 hlast
  obtain ⟨mid, -, -, hstop⟩ := tiles_append.1 h
  exact hstop

/-- Every address between the two ends lies in a row. -/
theorem exists_mem (h : Tiles start rows stop) (hstart : start ≤ addr) (hstop : addr < stop) :
    ∃ row ∈ rows, row.Covers addr := by
  induction rows generalizing start with
  | nil =>
    obtain rfl : start = stop := h
    omega
  | cons row rest ih =>
    obtain ⟨rfl, hrest⟩ := h
    by_cases hlt : addr < row.stop
    · exact ⟨row, List.mem_cons_self, hstart, hlt⟩
    · obtain ⟨next, hnext, hcovers⟩ := ih hrest (Nat.le_of_not_lt hlt)
      exact ⟨next, List.mem_cons_of_mem _ hnext, hcovers⟩

/-- No address lies in two rows. -/
theorem eq_of_covers (h : Tiles start rows stop) (hrow : row ∈ rows) (hother : other ∈ rows)
    (hcovers : row.Covers addr) (hcovers' : other.Covers addr) : row = other := by
  have hapart : rows.Pairwise fun r s => ¬(r.Covers addr ∧ s.Covers addr) := by
    refine h.pairwise.imp ?_
    rintro r s hle ⟨⟨-, hr⟩, hs, -⟩
    omega
  by_contra hne
  have : Std.Symm fun r s : Row => ¬(r.Covers addr ∧ s.Covers addr) :=
    ⟨fun _ _ hnot hboth => hnot hboth.symm⟩
  exact hapart.forall hrow hother hne ⟨hcovers, hcovers'⟩

end Tiles

/-! ### Sweeps -/

/-- A row ends within the code. -/
theorem Chunk.add_width_read_le (h : addr < code.length) :
    addr + (Chunk.read code addr).width ≤ code.length := by
  have hlength := (Chunk.bytes_read h).length_le
  rw [Chunk.length_bytes, List.length_drop] at hlength
  omega

/-- A sweep from an address within the code covers the rest of it. -/
theorem tiles_sweep (h : addr ≤ code.length) : Tiles addr (sweep code addr) code.length := by
  fun_induction sweep code addr with
  | case1 addr hlt chunk ih => exact ⟨rfl, ih (Chunk.add_width_read_le hlt)⟩
  | case2 addr hge => exact Nat.le_antisymm h (Nat.le_of_not_lt hge)

theorem tiles_listing (code : List Byte) : Tiles 0 (listing code) code.length :=
  tiles_sweep (Nat.zero_le _)

/-- What a row shows is what can be read at its address. -/
theorem chunk_of_mem_sweep (h : row ∈ sweep code addr) : row.chunk = Chunk.read code row.addr := by
  fun_induction sweep code addr with
  | case1 addr hlt chunk ih =>
    rcases List.mem_cons.1 h with rfl | h
    · rfl
    · exact ih h
  | case2 addr hge => exact absurd h List.not_mem_nil

/-! ### Slices -/

/-- The bytes of a row are those of its slice. -/
theorem slice_of_mem_listing (h : row ∈ listing code) : row.slice code = row.chunk.bytes := by
  have hstop := ((tiles_listing code).bounds_of_mem h).2
  have haddr : row.addr < code.length := Nat.lt_of_lt_of_le row.addr_lt_stop hstop
  have hbytes : row.chunk.bytes <+: code.drop row.addr := by
    rw [chunk_of_mem_sweep h]
    exact Chunk.bytes_read haddr
  have hlength : row.stop - row.addr = row.chunk.bytes.length := by
    rw [Chunk.length_bytes, Row.stop, Nat.add_sub_cancel_left]
  rw [Row.slice, List.extract_eq_take_drop, hlength]
  exact (List.prefix_iff_eq_take.1 hbytes).symm

/-- The slices make up the code. -/
theorem flatMap_slice_listing (code : List Byte) :
    (listing code).flatMap (Row.slice code) = code := by
  conv_rhs => rw [← flatMap_bytes_listing code]
  rw [List.flatMap_def, List.flatMap_def,
    List.map_congr_left fun _ hrow => slice_of_mem_listing hrow]

end ByteMachine
