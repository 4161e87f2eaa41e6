import ByteMachine.Proofs.Listing.Tiling

/-!
# Sweeping code that is cut off

Code that is cut off at an address shows the same rows as the whole code, as long as they end at or
before the cut.  An instruction that lies across the cut has lost its last operands.  It cannot be
read any more, and every byte that is left of it becomes a row of its own: the opcode is shown as
data, and so is an operand, unless it is the opcode of an instruction without operands.

## Main definitions

- `Row.LiesAcross` — a row that begins before an address and ends behind it
- `Stump` — a row for one byte of a row that lies across the cut

## Main statements

- `Chunk.read_take_of_le`, `Chunk.read_take_of_lt` — what can be read of cut code
- `sweep_take` — the rows of cut code
- `mem_listing_take` — each of them is a row of the whole code or a stump
- `exists_stump` — wherever a row lies across the cut there is a stump
-/

namespace ByteMachine

/-- The row begins before the address and ends behind it. -/
def Row.LiesAcross (row : Row) (cut : Nat) : Prop :=
  row.addr < cut ∧ cut < row.stop

/-- The row shows one byte of the row `across` of the whole code, which lies across the cut.  If
this is the opcode, it is shown as data. -/
structure Stump (code : List Byte) (cut : Nat) (across row : Row) : Prop where
  across_mem : across ∈ listing code
  liesAcross : across.LiesAcross cut
  le_addr : across.addr ≤ row.addr
  stop_le : row.stop ≤ cut
  byte : ∃ b, code[row.addr]? = some b ∧ row.chunk.bytes = [b] ∧
    (row.addr = across.addr → row.chunk = .data b)

variable {code : List Byte} {cut addr : Nat} {row across : Row}

/-! ### Reading at an address -/

theorem decode_take_eq_ok_iff {instr : Instr} (haddr : addr ≤ cut) :
    decode (code.take cut) addr = .ok instr ↔
      decode code addr = .ok instr ∧ addr + instr.width.toNat ≤ cut := by
  have hroom : instr.encode.length ≤ cut - addr ↔ addr + instr.width.toNat ≤ cut := by
    rw [instr.length_encode]
    omega
  rw [decode_eq_ok_iff, decode_eq_ok_iff, List.drop_take, List.prefix_take_iff, hroom]

/-- Whatever ends at or before the cut is read as in the whole code. -/
theorem Chunk.read_take_of_le (h : addr + (Chunk.read code addr).width ≤ cut) :
    Chunk.read (code.take cut) addr = Chunk.read code addr := by
  have hlt : addr < cut := Nat.lt_of_lt_of_le (Nat.lt_add_of_pos_right (width_pos _)) h
  unfold Chunk.read at h ⊢
  cases hdecode : decode code addr with
  | ok instr =>
    rw [hdecode] at h
    rw [(decode_take_eq_ok_iff hlt.le).2 ⟨hdecode, h⟩]
  | error e =>
    cases hcut : decode (code.take cut) addr with
    | ok instr =>
      have hwhole := ((decode_take_eq_ok_iff hlt.le).1 hcut).1
      rw [hdecode] at hwhole
      exact nomatch hwhole
    | error e' =>
      show Chunk.data _ = Chunk.data _
      rw [List.getElem?_take_of_lt hlt]

/-- Of an instruction that lies across the cut, the opcode is read, and as data. -/
theorem Chunk.read_take_of_lt (haddr : addr < cut)
    (h : cut < addr + (Chunk.read code addr).width) :
    Chunk.read (code.take cut) addr = .data (code[addr]?.getD 0) := by
  unfold Chunk.read at h ⊢
  cases hcut : decode (code.take cut) addr with
  | ok instr =>
    obtain ⟨hwhole, hle⟩ := (decode_take_eq_ok_iff haddr.le).1 hcut
    rw [hwhole] at h
    exact absurd hle (Nat.not_le.2 h)
  | error e =>
    show Chunk.data _ = Chunk.data _
    rw [List.getElem?_take_of_lt haddr]

/-! ### Sweeping -/

/-- If the first row of a sweep ends behind the cut, so do all the others. -/
theorem filter_sweep_eq_nil (h : cut < addr + (Chunk.read code addr).width) :
    (sweep code addr).filter (·.stop ≤ cut) = [] := by
  rw [List.filter_eq_nil_iff]
  intro row hrow
  rw [decide_eq_true_eq, Nat.not_le]
  have hlt := row.addr_lt_stop
  rw [sweep] at hrow
  split at hrow
  · rcases List.mem_cons.1 hrow with rfl | hrow
    · exact h
    · have := le_addr_of_mem_sweep hrow
      omega
  · exact absurd hrow List.not_mem_nil

/-- The rows of cut code are those of the whole code that end at or before the cut, and behind them
what is left of the row that lies across it, if there is one. -/
theorem sweep_take (haddr : addr ≤ cut) (hcut : cut ≤ code.length) :
    ∃ rest, sweep (code.take cut) addr = (sweep code addr).filter (·.stop ≤ cut) ++ rest ∧
      ((rest = [] ∧ ∀ row ∈ sweep code addr, ¬row.LiesAcross cut) ∨
        ∃ across ∈ sweep code addr, across.LiesAcross cut ∧
          rest = sweep (code.take cut) across.addr) := by
  have hlength : (code.take cut).length = cut := List.length_take_of_le hcut
  fun_induction sweep code addr with
  | case1 addr hlt chunk ih =>
    obtain rfl | hbefore := Nat.eq_or_lt_of_le haddr
    · -- the sweep begins at the cut
      refine ⟨[], ?_, .inl ⟨rfl, ?_⟩⟩
      · rw [sweep_of_le hlength.le, ← sweep_of_lt hlt,
          filter_sweep_eq_nil (Nat.lt_add_of_pos_right (Chunk.width_pos _))]
        rfl
      · rintro row hrow ⟨hlow, -⟩
        rw [← sweep_of_lt hlt] at hrow
        exact absurd (le_addr_of_mem_sweep hrow) (Nat.not_le.2 hlow)
    by_cases hend : addr + chunk.width ≤ cut
    · -- the first row is the same in both
      have hread : Chunk.read (code.take cut) addr = chunk := Chunk.read_take_of_le hend
      obtain ⟨rest, hrest, hcases⟩ := ih hend
      refine ⟨rest, ?_, ?_⟩
      · have hkeep : decide ((⟨addr, chunk⟩ : Row).stop ≤ cut) = true := decide_eq_true hend
        rw [sweep_of_lt (hlength.symm ▸ hbefore), hread, hrest, List.filter_cons, if_pos hkeep]
        rfl
      · rcases hcases with ⟨hnil, hnone⟩ | ⟨across, hmem, hacross⟩
        · refine .inl ⟨hnil, List.forall_mem_cons.2 ⟨?_, hnone⟩⟩
          exact fun hlies => absurd hend (Nat.not_le.2 hlies.2)
        · exact .inr ⟨across, List.mem_cons_of_mem _ hmem, hacross⟩
    · -- the first row lies across the cut
      have hlies : (⟨addr, chunk⟩ : Row).LiesAcross cut := ⟨hbefore, Nat.lt_of_not_le hend⟩
      refine ⟨sweep (code.take cut) addr, ?_, .inr ⟨_, List.mem_cons_self, hlies, rfl⟩⟩
      rw [← sweep_of_lt hlt, filter_sweep_eq_nil hlies.2]
      rfl
  | case2 addr hge =>
    have hend : (code.take cut).length ≤ addr := by omega
    exact ⟨[], by rw [sweep_of_le hend]; rfl, .inl ⟨rfl, List.forall_mem_nil _⟩⟩

/-! ### Rows across an address -/

/-- A row of the listing lies across an address unless one begins there. -/
theorem exists_liesAcross (haddr : addr < code.length)
    (hnone : ¬∃ row ∈ listing code, row.addr = addr) :
    ∃ across ∈ listing code, across.LiesAcross addr := by
  obtain ⟨across, hmem, hle, hlt⟩ := (tiles_listing code).exists_mem (Nat.zero_le addr) haddr
  refine ⟨across, hmem, Nat.lt_of_le_of_ne hle fun heq => hnone ⟨across, hmem, heq⟩, hlt⟩

/-- No row of a listing lies across the address of another. -/
theorem not_liesAcross_of_mem (hrow : row ∈ listing code)
    (hacross : across ∈ listing code) : ¬across.LiesAcross row.addr := by
  rintro ⟨hlt, hstop⟩
  obtain rfl := (tiles_listing code).eq_of_covers hacross hrow ⟨hlt.le, hstop⟩
    ⟨Nat.le_refl _, row.addr_lt_stop⟩
  exact Nat.lt_irrefl _ hlt

/-! ### Stumps -/

/-- Every row for what is left of a row across the cut shows one byte. -/
theorem stump_of_mem_sweep (hcut : cut ≤ code.length) (hacross : across ∈ listing code)
    (hlies : across.LiesAcross cut) (hrow : row ∈ sweep (code.take cut) across.addr) :
    Stump code cut across row := by
  have hlength : (code.take cut).length = cut := List.length_take_of_le hcut
  obtain ⟨hbefore, hbehind⟩ := hlies
  obtain ⟨hle, hstop⟩ := (tiles_sweep (by omega)).bounds_of_mem hrow
  rw [hlength] at hstop
  have hlt := row.addr_lt_stop
  have hchunk := chunk_of_mem_sweep hrow
  obtain ⟨b, hb⟩ : ∃ b, code[row.addr]? = some b := ⟨_, List.getElem?_eq_getElem (by omega)⟩
  refine ⟨hacross, ⟨hbefore, hbehind⟩, hle, hstop, b, hb, ?_⟩
  rcases Nat.eq_or_lt_of_le hle with heq | hlater
  · -- the opcode
    have hdata : row.chunk = .data b := by
      rw [Row.stop, chunk_of_mem_sweep hacross] at hbehind
      rw [hchunk, ← heq, Chunk.read_take_of_lt hbefore hbehind, heq, hb]
      rfl
    exact ⟨by rw [hdata]; rfl, fun _ => hdata⟩
  · -- an instruction has three bytes at most, so there is room for one
    have hone : row.chunk.bytes.length = 1 := by
      have hwidth := across.chunk.width_le
      have hpos := row.chunk.width_pos
      rw [Row.stop] at hbehind hstop
      rw [Chunk.length_bytes]
      omega
    obtain ⟨b', hb'⟩ := List.length_eq_one_iff.1 hone
    have hbytes : row.chunk.bytes <+: (code.take cut).drop row.addr := by
      rw [hchunk]
      exact Chunk.bytes_read (by omega)
    rw [hb', cons_isPrefix_drop_iff, List.getElem?_take_of_lt (by omega), hb] at hbytes
    obtain rfl := Option.some.inj hbytes.1
    exact ⟨hb', fun heq => absurd heq (Nat.ne_of_gt hlater)⟩

/-- A row of cut code is a row of the whole code or a stump. -/
theorem mem_listing_take (hcut : cut ≤ code.length) (h : row ∈ listing (code.take cut)) :
    (row ∈ listing code ∧ row.stop ≤ cut) ∨ ∃ across, Stump code cut across row := by
  obtain ⟨rest, hsweep, hrest⟩ := sweep_take (Nat.zero_le cut) hcut
  rw [listing, hsweep, List.mem_append, List.mem_filter, decide_eq_true_eq] at h
  rcases h with h | h
  · exact .inl h
  · rcases hrest with ⟨rfl, -⟩ | ⟨across, hmem, hlies, rfl⟩
    · exact nomatch h
    · exact .inr ⟨across, stump_of_mem_sweep hcut hmem hlies h⟩

/-- If a row lies across the cut, the last row of the cut code is a stump of it. -/
theorem exists_stump (hcut : cut ≤ code.length) (hacross : across ∈ listing code)
    (hlies : across.LiesAcross cut) :
    ∃ row, (listing (code.take cut)).getLast? = some row ∧ Stump code cut across row := by
  obtain ⟨rest, hsweep, hrest⟩ := sweep_take (Nat.zero_le cut) hcut
  rcases hrest with ⟨-, hnone⟩ | ⟨across', hmem, hlies', rfl⟩
  · exact absurd hlies (hnone across hacross)
  obtain rfl : across' = across :=
    (tiles_listing code).eq_of_covers hmem hacross ⟨hlies'.1.le, hlies'.2⟩ ⟨hlies.1.le, hlies.2⟩
  have hne : sweep (code.take cut) across'.addr ≠ [] := by
    have hlt : across'.addr < (code.take cut).length :=
      Nat.lt_of_lt_of_eq hlies.1 (List.length_take_of_le hcut).symm
    rw [sweep_of_lt hlt]
    exact List.cons_ne_nil _ _
  refine ⟨_, ?_, stump_of_mem_sweep hcut hmem hlies (List.getLast_mem hne)⟩
  rw [listing, hsweep, List.getLast?_append, List.getLast?_eq_some_getLast hne, Option.some_or]

/-- The whole code has no row at the address of a stump that would end before the cut. -/
theorem Stump.not_stop_le {other : Row} (h : Stump code cut across row)
    (hother : other ∈ listing code) (haddr : other.addr = row.addr) : ¬other.stop ≤ cut := by
  have hlt : row.addr < across.stop :=
    Nat.lt_trans (Nat.lt_of_lt_of_le row.addr_lt_stop h.stop_le) h.liesAcross.2
  have hcovers : other.Covers row.addr := haddr ▸ ⟨Nat.le_refl _, other.addr_lt_stop⟩
  obtain rfl := (tiles_listing code).eq_of_covers h.across_mem hother ⟨h.le_addr, hlt⟩ hcovers
  exact Nat.not_le.2 h.liesAcross.2

end ByteMachine
