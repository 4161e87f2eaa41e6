import ByteMachine.Proofs.Listing.Tiling

/-!
# Listings cover the code and find its instructions

A row of a listing stands for the bytes of the code between its two ends.  These slices lie within
the code and make it up, so whatever is printed row by row is printed once.  Where the code is the
encoding of instructions, the sweep is at the beginning of an instruction after every row, whatever
the operand bytes look like, and the rows are the instructions.

## Main statements

- `Row.slice_eq_cons` — a slice begins with the byte at the address of its row
- `map_chunk_sweep` — a sweep over encoded instructions, whatever stands behind them
- `listing_exact` — both for a whole listing
-/

namespace ByteMachine

variable {code rest : List Byte} {addr : Nat} {row : Row} {instrs : List Instr}

/-- The slice of a row begins with the byte at its address. -/
theorem Row.slice_eq_cons (h : row.stop ≤ code.length) :
    ∃ b, code[row.addr]? = some b ∧ row.slice code = b :: code.extract (row.addr + 1) row.stop := by
  have hlt := row.addr_lt_stop
  have haddr : row.addr < code.length := Nat.lt_of_lt_of_le hlt h
  refine ⟨code[row.addr], List.getElem?_eq_getElem haddr, ?_⟩
  have hcount : row.stop - row.addr = row.stop - (row.addr + 1) + 1 := by omega
  rw [slice, List.extract_eq_take_drop, List.drop_eq_getElem_cons haddr, hcount, List.take_succ_cons]

/-! ### Encoded instructions -/

theorem Chunk.read_of_encode_isPrefix {i : Instr} (h : i.encode <+: code.drop addr) :
    Chunk.read code addr = .instr i := by
  rw [Chunk.read, decode_eq_ok_iff.2 h]

/-- The rows of encoded instructions are these instructions, and the sweep goes on behind the last
of them. -/
theorem map_chunk_sweep (h : code.drop addr = Instr.encodeList instrs ++ rest) :
    (sweep code addr).map Row.chunk =
      instrs.map Chunk.instr ++
        (sweep code (addr + (Instr.encodeList instrs).length)).map Row.chunk := by
  induction instrs generalizing addr with
  | nil => rfl
  | cons i more ih =>
    rw [Instr.encodeList_cons, List.append_assoc] at h
    have hread : Chunk.read code addr = .instr i :=
      Chunk.read_of_encode_isPrefix (h ▸ List.prefix_append _ _)
    have haddr : addr < code.length := by
      have hne : code.drop addr ≠ [] := by
        rw [h]
        exact List.append_ne_nil_of_left_ne_nil (List.cons_ne_nil _ _) _
      exact Nat.lt_of_not_le fun hle => hne (List.drop_eq_nil_of_le hle)
    -- behind the row of `i` stands the encoding of the others
    have hmore : code.drop (addr + i.encode.length) = Instr.encodeList more ++ rest := by
      rw [← List.drop_drop, h, List.drop_left]
    have hwidth : (Chunk.instr i).width = i.encode.length := (Chunk.length_bytes _).symm
    rw [sweep_of_lt haddr, hread, hwidth, List.map_cons, ih hmore, Instr.encodeList_cons,
      List.length_append, Nat.add_assoc]
    rfl

theorem map_chunk_listing_encodeList (instrs : List Instr) :
    (listing (Instr.encodeList instrs)).map Row.chunk = instrs.map Chunk.instr := by
  have h : (Instr.encodeList instrs).drop 0 = Instr.encodeList instrs ++ [] :=
    (List.append_nil _).symm
  rw [listing, map_chunk_sweep h, sweep_of_le (Nat.le_add_left _ _), List.map_nil, List.append_nil]

/-- **The rows of a listing tile the code.**  The sweep ends after at most one row for each byte.
The first row begins at address 0, every other row where the one before it ends, and the last one
ends with the code.  A row has one to three bytes; they are the slice of the code between its two
ends, which consists of the byte at its address and the slice behind this byte, and all slices
together are the code.  The listing of encoded instructions has one row for each instruction in
their order, with its text, and as wide as its encoding. -/
theorem listing_exact (code : List Byte) (instrs : List Instr) :
    (listing code).length ≤ code.length ∧
    Tiles 0 (listing code) code.length ∧
    (∀ row ∈ listing code,
      1 ≤ row.chunk.width ∧ row.chunk.width ≤ 3 ∧ row.stop ≤ code.length ∧
      row.slice code = row.chunk.bytes ∧
      ∃ b, code[row.addr]? = some b ∧
        row.slice code = b :: code.extract (row.addr + 1) row.stop) ∧
    (listing code).flatMap (Row.slice code) = code ∧
    (listing (Instr.encodeList instrs)).map
        (fun row => (row.chunk, row.chunk.text, row.chunk.width)) =
      instrs.map fun i => (Chunk.instr i, i.text, i.encode.length) := by
  have htiles := tiles_listing code
  refine ⟨?_, htiles, fun row hrow => ?_, flatMap_slice_listing code, ?_⟩
  · have := htiles.length_le
    omega
  · have hstop := (htiles.bounds_of_mem hrow).2
    exact ⟨row.chunk.width_pos, row.chunk.width_le, hstop, slice_of_mem_listing hrow,
      Row.slice_eq_cons hstop⟩
  · have hchunks := congrArg (List.map fun chunk : Chunk => (chunk, chunk.text, chunk.width))
      (map_chunk_listing_encodeList instrs)
    rw [List.map_map, List.map_map] at hchunks
    refine hchunks.trans (List.map_congr_left fun i _ => ?_)
    exact congrArg (fun width => (Chunk.instr i, i.text, width)) (Chunk.length_bytes (.instr i)).symm

/-- The last row is an opcode whose operand is missing, and the operands of the instructions look
like opcodes. -/
theorem listing_exact_cutCall :
    ⟨3, .data 80⟩ ∈ listing [130, 1, 71, 80] ∧
      Row.slice [130, 1, 71, 80] ⟨3, .data 80⟩ = [80] ∧
      (listing (Instr.encodeList [.ldi 1 71, .call 80])).map
          (fun row => (row.chunk, row.chunk.text, row.chunk.width)) =
        [(.instr (.ldi 1 71), "LDI R1,71", 3), (.instr (.call 80), "CALL R80", 2)] := by
  have hmem : ⟨3, .data 80⟩ ∈ listing [130, 1, 71, 80] := by decide +kernel
  obtain ⟨-, -, hrows, -, hlisting⟩ := listing_exact [130, 1, 71, 80] [.ldi 1 71, .call 80]
  exact ⟨hmem, (hrows _ hmem).2.2.2.1, hlisting⟩

end ByteMachine
