import ByteMachine.Proofs.Asm.Patches
import ByteMachine.Proofs.Listing.Row
import ByteMachine.Proofs.Listing.Sweep

/-!
# Assembling a disassembly

The text of a disassembly is a source text.  Its heading consists of comments, no label is used, and
no two rows have the same address, so the assembler gives back the bytes of the rows.  The one thing
that it refuses is the name of a register that does not exist.

## Main definitions

- `strayRegister?` — the first register operand of a listing that names no register

## Main statements

- `lines_disassemble` — the lines of a disassembly
- `readLines_rows` — rows are read back
- `assemble_disassemble` — the bytes of a disassembly, or the register that it cannot name
-/

namespace ByteMachine

/-- The first register operand that names no register, with the number of its row, when the rows are
numbered from `number` on. -/
def strayRegister? (number : Nat) (rows : List Row) : Option (Nat × Byte) :=
  (rows.zipIdx number).findSome? fun (row, k) => row.chunk.stray?.map fun reg => (k, reg)

/-- What the assembler reads on the lines of rows that are numbered from `number` on. -/
def entries (number : Nat) (rows : List Row) : List Asm.Entry :=
  (rows.zipIdx number).map fun (row, k) => row.entry k

theorem strayRegister?_cons (number : Nat) (row : Row) (rest : List Row) :
    strayRegister? number (row :: rest) =
      match row.chunk.stray? with
      | some reg => some (number, reg)
      | none => strayRegister? (number + 1) rest := by
  cases h : row.chunk.stray? <;> simp [strayRegister?, h]

/-- A listing has no such operand if and only if all its registers exist. -/
theorem strayRegister?_eq_none_iff {number : Nat} {rows : List Row} :
    strayRegister? number rows = none ↔
      ∀ row ∈ rows, ∀ reg ∈ row.chunk.registers, reg ≤ 7 := by
  induction rows generalizing number with
  | nil => simp [strayRegister?]
  | cons row rest ih =>
    have hrow : row.chunk.stray? = none ↔ ∀ reg ∈ row.chunk.registers, reg ≤ 7 := by
      simp [Chunk.stray?]
    rw [strayRegister?_cons, List.forall_mem_cons, ← hrow, ← ih]
    cases row.chunk.stray? with
    | none => exact ⟨fun h => ⟨rfl, h⟩, fun h => h.2⟩
    | some reg => exact ⟨fun h => (nomatch h), fun h => (nomatch h.1)⟩

/-! ### The lines of a disassembly -/

/-- The lines above a disassembly. -/
def headingLines : List (List Char) :=
  ["; LS-8 Disassembly".toList, "; ----------------".toList, []]

theorem isAlphanum_of_mem_hex {b : Byte} {c : Char} (h : c ∈ Text.hex 2 b.toNat) :
    c.isAlphanum = true := by
  have hall : ∀ n < 256, (Text.hex 2 n).all Char.isAlphanum = true := by decide +kernel
  exact List.all_eq_true.1 (hall b.toNat b.toNat_lt) c h

theorem mem_hexDump {bytes : List Byte} {c : Char} (h : c ∈ hexDump bytes) :
    c.isAlphanum = true ∨ c = ' ' := by
  obtain hsep | ⟨piece, hpiece, hc⟩ := Text.mem_intercalate h
  · exact .inr hsep
  · obtain ⟨b, -, rfl⟩ := List.mem_map.1 hpiece
    exact .inl (isAlphanum_of_mem_hex hc)

/-- The line of a row consists of letters, digits, and a few marks that end no line. -/
theorem Row.mem_body {code : List Byte} {row : Row} {c : Char} (h : c ∈ row.body code) :
    c.isAlphanum = true ∨ c ∈ [' ', ',', ':', ';'] := by
  simp only [body, List.rightpad, List.mem_append, List.mem_replicate, List.mem_cons,
    List.not_mem_nil, or_false] at h ⊢
  rcases h with (((h | h) | h | ⟨-, h⟩) | h) | h
  · exact .inl ((isWord_addressText row.addr).2 c h)
  · grind
  · have := Chunk.mem_chars h
    grind
  · grind
  · grind
  · have := mem_hexDump h
    grind

theorem Row.not_mem_body {c : Char} (hc : c.isAlphanum = false) (hmark : c ∉ [' ', ',', ':', ';'])
    (code : List Byte) (row : Row) : c ∉ row.body code := by
  intro h
  rcases Row.mem_body h with h | h
  · exact Text.ne_of_isAlphanum h hc rfl
  · exact hmark h

/-- The lines of a disassembly are its heading and one line for each row. -/
theorem lines_disassemble (code : List Byte) :
    Text.lines (disassemble code).toList = headingLines ++ (listing code).map (Row.body code) := by
  have htext : (disassemble code).toList =
      (headingLines ++ (listing code).map (Row.body code)).flatMap (· ++ ['\n']) := by
    rw [disassemble, String.toList_ofList, List.flatMap_append, List.flatMap_map]
    rfl
  have hheading : ∀ line ∈ headingLines, '\n' ∉ line ∧ '\r' ∉ line := by decide
  rw [htext]
  apply Text.lines_flatMap
  intro line hline
  rcases List.mem_append.1 hline with hline | hline
  · exact hheading line hline
  · obtain ⟨row, -, rfl⟩ := List.mem_map.1 hline
    exact ⟨Row.not_mem_body rfl (by decide) code row, Row.not_mem_body rfl (by decide) code row⟩

/-! ### Reading the rows -/

/-- Rows with ascending addresses are read back, up to the first register that does not exist. -/
theorem readLines_rows (code : List Byte) {seen : List Asm.Label} {rows : List Row}
    (hrows : rows.Pairwise (·.addr < ·.addr)) (hseen : ∀ row ∈ rows, addressText row.addr ∉ seen)
    (number : Nat) :
    Asm.readLines seen ((rows.map (Row.body code)).zipIdx number) =
      match strayRegister? number rows with
      | none => .ok (entries number rows)
      | some (line, reg) => .error ⟨line, .noRegister (Instr.registerName reg)⟩ := by
  induction rows generalizing seen number with
  | nil => rfl
  | cons row rest ih =>
    obtain ⟨hlt, hrest⟩ := List.pairwise_cons.1 hrows
    have hnew : addressText row.addr ∉ seen := hseen row List.mem_cons_self
    -- a later row has neither the label of this row nor one of those before it
    have hlater : ∀ next ∈ rest, addressText next.addr ∉ addressText row.addr :: seen := by
      intro next hnext hmem
      rcases List.mem_cons.1 hmem with heq | hmem
      · exact absurd (addressText_inj heq) (Nat.ne_of_gt (hlt next hnext))
      · exact hseen next (List.mem_cons_of_mem _ hnext) hmem
    have hline := Row.readLine_body hnew code number
    have hmore := ih hrest hlater (number + 1)
    rw [List.map_cons, List.zipIdx_cons, Asm.readLines, hline]
    rw [strayRegister?_cons]
    cases row.chunk.stray? with
    | some reg => rfl
    | none =>
      show (Asm.readLines (addressText row.addr :: seen) _ >>= fun es =>
        pure (row.entry number :: es)) = _
      rw [hmore]
      cases strayRegister? (number + 1) rest <;> rfl

theorem encodeEntries_entries (address? : Asm.Label → Option Nat) (number : Nat)
    (rows : List Row) :
    Asm.encodeEntries address? (entries number rows) = .ok (rows.flatMap (·.chunk.bytes)) := by
  induction rows generalizing number with
  | nil => rfl
  | cons row rest ih =>
    have hrow : (row.entry number).encode address? = .ok row.chunk.bytes := by
      rw [Asm.Entry.encode, Row.entry]
      show Asm.onLine number (row.chunk.item.encode address?) = _
      rw [Chunk.encode_item]
      rfl
    show (do
      let bytes ← (row.entry number).encode address?
      let more ← Asm.encodeEntries address? (entries (number + 1) rest)
      return bytes ++ more) = _
    rw [hrow, ih]
    rfl

/-- A line with neither label nor item is read without a trace. -/
theorem readLines_blank {seen : List Asm.Label} {line : List Char} {number : Nat}
    (h : Asm.readLine seen line number = .ok ⟨number, none, none⟩)
    (rest : List (List Char × Nat)) :
    Asm.readLines seen ((line, number) :: rest) =
      (Asm.readLines seen rest).map fun es => ⟨number, none, none⟩ :: es := by
  rw [Asm.readLines, h]
  show (Asm.readLines seen rest >>= fun es => pure (⟨number, none, none⟩ :: es)) = _
  cases Asm.readLines seen rest <;> rfl

theorem encodeEntries_blank (address? : Asm.Label → Option Nat) (number : Nat)
    (es : List Asm.Entry) :
    Asm.encodeEntries address? (⟨number, none, none⟩ :: es) = Asm.encodeEntries address? es := by
  show (Asm.encodeEntries address? es >>= fun more => pure ([] ++ more)) = _
  cases Asm.encodeEntries address? es <;> rfl

/-- The heading is read without a trace. -/
theorem readLines_heading (rest : List (List Char × Nat)) :
    Asm.readLines [] (headingLines.zipIdx 1 ++ rest) =
      (Asm.readLines [] rest).map fun es =>
        ⟨1, none, none⟩ :: ⟨2, none, none⟩ :: ⟨3, none, none⟩ :: es := by
  show Asm.readLines [] ((_, 1) :: (_, 2) :: (_, 3) :: rest) = _
  rw [readLines_blank rfl, readLines_blank rfl, readLines_blank rfl]
  cases Asm.readLines [] rest <;> rfl

/-- Assembling the text of a disassembly gives back the code, whatever it is: instructions, bytes
that are none, and an instruction that is cut off at the end.  If an instruction names a register
that does not exist, the first such operand is reported on the line of its row. -/
theorem assemble_disassemble (code : List Byte) :
    assemble (disassemble code) =
      match strayRegister? 4 (listing code) with
      | none => .ok code
      | some (line, reg) => .error ⟨line, .noRegister (Instr.registerName reg)⟩ := by
  have hrows := readLines_rows code (pairwise_addr_sweep code 0)
    (fun row _ => (List.not_mem_nil : addressText row.addr ∉ [])) 4
  rw [assemble_eq_twoPass, Asm.twoPass, lines_disassemble, List.zipIdx_append, readLines_heading]
  show (Except.map _ (Asm.readLines [] (((sweep code 0).map (Row.body code)).zipIdx 4)) >>= _) = _
  rw [hrows, ← listing]
  cases strayRegister? 4 (listing code) with
  | some stray => rfl
  | none =>
    -- the three lines of the heading have no bytes
    show Asm.encodeEntries _ (⟨1, none, none⟩ :: ⟨2, none, none⟩ :: ⟨3, none, none⟩ :: _) = _
    rw [encodeEntries_blank, encodeEntries_blank, encodeEntries_blank, encodeEntries_entries,
      flatMap_bytes_listing]

end ByteMachine
