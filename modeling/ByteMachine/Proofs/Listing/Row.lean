import ByteMachine.Listing
import ByteMachine.Proofs.Asm.TwoPass
import ByteMachine.Proofs.Asm.Written

/-!
# The line of a row

A row of a disassembly is a line of a source text: the address in front of it is a label, the text
of its chunk is an item, and the bytes behind it are a comment.

## Main definitions

- `Instr.registers`, `Chunk.registers` — the register operands
- `Chunk.stray?` — the first of them that names no register
- `Row.entry` — what the line of a row says

## Main statements

- `Instr.instruction_args`, `Chunk.item_chars` — the text of a chunk is read back
- `addressText_inj` — no two addresses have the same label
- `Row.readLine_body` — the line of a row is read back
-/

namespace ByteMachine

/-! ### Chunks as items -/

namespace Instr

/-- The register operands of an instruction, in the order of its text. -/
def registers : Instr → List Byte
  | .hlt => []
  | .ldi reg _ => [reg]
  | .prn reg => [reg]
  | .arith _ dest src => [dest, src]
  | .push reg => [reg]
  | .pop reg => [reg]
  | .call reg => [reg]
  | .ret => []

/-- The operands of an instruction, as they are written. -/
def args : Instr → List (List Char)
  | .hlt => []
  | .ldi reg value => [registerName reg, Text.decimal value.toNat]
  | .prn reg => [registerName reg]
  | .arith _ dest src => [registerName dest, registerName src]
  | .push reg => [registerName reg]
  | .pop reg => [registerName reg]
  | .call reg => [registerName reg]
  | .ret => []

/-- The item that stands for an instruction in a source. -/
def item : Instr → Asm.Item
  | .hlt => .instr .hlt
  | .ldi reg value => .load reg (.value value)
  | .prn reg => .instr (.prn reg)
  | .arith op dest src => .instr (.arith op dest src)
  | .push reg => .instr (.push reg)
  | .pop reg => .instr (.pop reg)
  | .call reg => .instr (.call reg)
  | .ret => .instr .ret

theorem chars_eq (i : Instr) : i.chars = Asm.written i.mnemonic i.args := by
  cases i <;> simp [chars, Asm.written, args]

theorem isWord_registerName (reg : Byte) : Text.IsWord (registerName reg) := by
  refine ⟨List.cons_ne_nil _ _, fun c hc => ?_⟩
  rcases List.mem_cons.1 hc with rfl | hc
  · rfl
  · exact Text.isAlphanum_of_isDigit (Text.isDigit_of_mem_decimal hc)

theorem isWord_decimal (n : Nat) : Text.IsWord (Text.decimal n) :=
  Text.isWord_of_isDigit Nat.toDigits_ne_nil fun _ hc => Text.isDigit_of_mem_decimal hc

theorem isWord_of_mem_args {i : Instr} {arg : List Char} (h : arg ∈ i.args) : Text.IsWord arg := by
  revert arg
  cases i <;> simp [args, isWord_registerName, isWord_decimal]

/-- A computation behind a register operand takes place if the register exists. -/
theorem register_bind {α : Type} (reg : Byte) (f : Byte → Except Asm.Cause α) :
    (Asm.register (registerName reg) >>= f) =
      if 7 < reg then .error (.noRegister (registerName reg)) else f reg := by
  rw [Asm.register_registerName]
  split <;> rfl

/-- An instruction is read back from its operands, up to the first one that names no register. -/
theorem instruction_args (i : Instr) :
    Asm.instruction i.opcode i.args =
      match i.registers.find? (7 < ·) with
      | none => .ok i.item
      | some reg => .error (.noRegister (registerName reg)) := by
  cases i with
  | hlt | ret => rfl
  | prn reg | push reg | pop reg | call reg =>
    refine (register_bind reg _).trans ?_
    by_cases h : 7 < reg
    · simp [registers, h]
    · simp only [registers, h, if_false, List.find?_singleton, decide_false]
      rfl
  | ldi reg value =>
    refine (register_bind reg _).trans ?_
    by_cases h : 7 < reg
    · simp [registers, h]
    · simp only [registers, h, if_false, List.find?_singleton, decide_false,
        Asm.immediate_decimal]
      rfl
  | arith op dest src =>
    cases op <;> refine (register_bind dest _).trans ?_
    all_goals
      rw [register_bind]
      by_cases hdest : 7 < dest
      · simp [registers, hdest]
      · by_cases hsrc : 7 < src
        · simp [registers, hdest, hsrc]
        · simp [registers, hdest, hsrc]
          rfl

end Instr

namespace Chunk

/-- The register operands of a chunk. -/
def registers : Chunk → List Byte
  | .instr i => i.registers
  | .data _ => []

/-- The first register operand that names no register. -/
def stray? (chunk : Chunk) : Option Byte :=
  chunk.registers.find? (7 < ·)

/-- The item that stands for a chunk in a source. -/
def item : Chunk → Asm.Item
  | .instr i => i.item
  | .data b => .data (.value b)

theorem encode_item (address? : Asm.Label → Option Nat) (chunk : Chunk) :
    chunk.item.encode address? = .ok chunk.bytes := by
  rcases chunk with (_ | _ | _ | _ | _ | _ | _ | _) | b <;> rfl

theorem chars_data (b : Byte) :
    (data b).chars = Asm.written Asm.dataMnemonic [Byte.binary b] := by
  simp [chars, Asm.written, Asm.dataMnemonic]

theorem isWord_binary (b : Byte) : Text.IsWord (Byte.binary b) := by
  refine ⟨List.cons_ne_nil _ _, fun c hc => ?_⟩
  obtain rfl | rfl | hc : c = '0' ∨ c = 'b' ∨ c ∈ Text.binary 8 b.toNat := by
    simpa [Byte.binary] using hc
  · rfl
  · rfl
  · exact Text.isAlphanum_of_isDigit (Text.isDigit_of_mem_binary hc)

/-- The text of a chunk is a mnemonic with its operands. -/
theorem exists_written (chunk : Chunk) :
    ∃ word args, chunk.chars = Asm.written word args ∧ Text.IsWord word ∧
      ∀ arg ∈ args, Text.IsWord arg := by
  cases chunk with
  | instr i =>
    exact ⟨i.mnemonic, i.args, i.chars_eq, Asm.isWord_mnemonic i.opcode,
      fun _ harg => Instr.isWord_of_mem_args harg⟩
  | data b =>
    exact ⟨Asm.dataMnemonic, [Byte.binary b], chars_data b, Asm.isWord_dataMnemonic,
      List.forall_mem_singleton.2 (isWord_binary b)⟩

theorem chars_ne_nil (chunk : Chunk) : chunk.chars ≠ [] := by
  obtain ⟨word, args, hchars, hword, -⟩ := chunk.exists_written
  rw [hchars]
  exact Asm.written_ne_nil hword args

theorem mem_chars {chunk : Chunk} {c : Char} (h : c ∈ chunk.chars) :
    c.isAlphanum = true ∨ c = ' ' ∨ c = ',' := by
  obtain ⟨word, args, hchars, hword, hargs⟩ := chunk.exists_written
  rw [hchars] at h
  exact Asm.mem_written hword hargs h

theorem isBlank_of_head?_chars {chunk : Chunk} {c : Char} (h : chunk.chars.head? = some c) :
    Text.isBlank c = false := by
  obtain ⟨word, args, hchars, hword, -⟩ := chunk.exists_written
  rw [hchars] at h
  exact Asm.isBlank_of_head?_written hword h

theorem isBlank_of_getLast?_chars {chunk : Chunk} {c : Char} (h : chunk.chars.getLast? = some c) :
    Text.isBlank c = false := by
  obtain ⟨word, args, hchars, hword, hargs⟩ := chunk.exists_written
  rw [hchars] at h
  exact Asm.isBlank_of_getLast?_written hword hargs h

/-- The text of a chunk is read back as its item. -/
theorem item_chars (chunk : Chunk) :
    Asm.item chunk.chars =
      match chunk.stray? with
      | none => .ok chunk.item
      | some reg => .error (.noRegister (Instr.registerName reg)) := by
  cases chunk with
  | instr i =>
    rw [chars, Instr.chars_eq, Instr.mnemonic,
      Asm.item_written i.opcode fun _ harg => Instr.isWord_of_mem_args harg]
    exact i.instruction_args
  | data b =>
    rw [chars_data, Asm.item_written_data (isWord_binary b), Asm.immediate_binary]
    rfl

end Chunk

/-! ### Rows as lines -/

theorem isDigit_of_mem_addressText {addr : Nat} {c : Char} (h : c ∈ addressText addr) :
    c.isDigit = true :=
  Text.isDigit_of_mem_leftpad (by decide) (by decide) h

theorem isWord_addressText (addr : Nat) : Text.IsWord (addressText addr) :=
  Text.isWord_of_isDigit (by simp [addressText, List.leftpad, Text.decimal])
    fun _ hc => isDigit_of_mem_addressText hc

/-- Different addresses have different labels. -/
theorem addressText_inj {addr addr' : Nat} (h : addressText addr = addressText addr') :
    addr = addr' := by
  have hread : ∀ n, Text.natural? 10 (addressText n) = some n :=
    Text.natural?_leftpad (by decide) (by decide) 3
  exact Option.some.inj (by rw [← hread addr, h, hread addr'])

theorem labelName_addressText (addr : Nat) :
    Asm.labelName (addressText addr) = .ok (addressText addr) := by
  have hdigits : ∀ c ∈ addressText addr, c.isDigit = true :=
    fun _ hc => isDigit_of_mem_addressText hc
  have hblank := (isWord_addressText addr).no_blank
  have hempty : (addressText addr).isEmpty = false := by simp [(isWord_addressText addr).1]
  simp only [Asm.labelName, Text.trim_word hblank, Text.upper_digits hdigits, hempty,
    Text.hasBlank_word hblank]
  rfl

namespace Row

/-- The line of a row without the line feed behind it. -/
def body (code : List Byte) (row : Row) : List Char :=
  addressText row.addr ++ [':', ' '] ++ row.chunk.chars.rightpad 12 ' ' ++ [';', ' '] ++
    hexDump (row.slice code)

/-- What the assembler reads on the line of a row. -/
def entry (row : Row) (number : Nat) : Asm.Entry :=
  ⟨number, some (addressText row.addr), some row.chunk.item⟩

/-- No character in front of the bytes of a row begins a comment. -/
theorem isComment_of_mem_front {row : Row} {n : Nat} {c : Char}
    (h : c ∈ addressText row.addr ++ ':' :: ' ' :: row.chunk.chars ++ List.replicate n ' ') :
    Asm.isComment c = false := by
  simp only [List.mem_append, List.mem_cons, List.mem_replicate] at h
  rcases h with (h | rfl | rfl | h) | ⟨-, rfl⟩
  · exact Asm.isComment_of_isAlphanum ((isWord_addressText row.addr).2 c h)
  · rfl
  · rfl
  · rcases Chunk.mem_chars h with h | rfl | rfl
    · exact Asm.isComment_of_isAlphanum h
    · rfl
    · rfl
  · rfl

/-- The bytes behind a row are a comment. -/
theorem statement_body (code : List Byte) (row : Row) :
    Asm.statement (row.body code) = addressText row.addr ++ ':' :: ' ' :: row.chunk.chars := by
  -- everything up to the semicolon, with the padding at its end
  have hbody : row.body code =
      (addressText row.addr ++ ':' :: ' ' :: row.chunk.chars ++
          List.replicate (12 - row.chunk.chars.length) ' ') ++
        ';' :: ' ' :: hexDump (row.slice code) := by
    simp [body, List.rightpad]
  rw [Asm.statement, hbody, Text.before_append_cons (fun c hc => isComment_of_mem_front hc) rfl]
  apply Text.trim_append
  · intro c hc
    exact (isWord_addressText row.addr).isBlank_of_head?_append hc
  · intro c hc
    rw [List.append_cons, List.append_cons] at hc
    exact Text.isBlank_of_getLast?_append row.chunk.chars_ne_nil
      (fun _ => Chunk.isBlank_of_getLast?_chars) hc
  · intro c hc
    rw [(List.mem_replicate.1 hc).2]
    rfl

/-- The address in front of a row is its label. -/
theorem splitLabel_body (code : List Byte) (row : Row) :
    Asm.splitLabel (Asm.statement (row.body code)) =
      (some (addressText row.addr), row.chunk.chars) := by
  have hcolon : ∀ c ∈ addressText row.addr, decide (c = ':') = false := by
    intro c hc
    exact decide_eq_false (Text.ne_of_isAlphanum ((isWord_addressText row.addr).2 c hc) rfl)
  have htrim : Text.trim (' ' :: row.chunk.chars) = row.chunk.chars := by
    rw [Text.trim_cons_of_isBlank rfl]
    exact Text.trim_eq (fun _ => Chunk.isBlank_of_head?_chars)
      fun _ => Chunk.isBlank_of_getLast?_chars
  rw [statement_body, Asm.splitLabel, Text.after?_append_cons hcolon rfl,
    Text.before_append_cons hcolon rfl]
  exact congrArg (Prod.mk _) htrim

theorem readLine_body {seen : List Asm.Label} {row : Row} (h : addressText row.addr ∉ seen)
    (code : List Byte) (number : Nat) :
    Asm.readLine seen (row.body code) number =
      match row.chunk.stray? with
      | none => .ok (row.entry number)
      | some reg => .error ⟨number, .noRegister (Instr.registerName reg)⟩ := by
  have hlabel : Asm.readLabel seen (some (addressText row.addr)) =
      .ok (some (addressText row.addr)) := by
    rw [Asm.readLabel, labelName_addressText]
    exact if_neg h
  have hempty : row.chunk.chars.isEmpty = false := by simp [row.chunk.chars_ne_nil]
  rw [Asm.readLine, splitLabel_body]
  simp only [hlabel, Asm.readItem, hempty, Chunk.item_chars]
  cases row.chunk.stray? <;> rfl

end Row
end ByteMachine
