import ByteMachine.Asm.Line
import ByteMachine.Instr.Decode
import ByteMachine.Proofs.Text.Lines
import ByteMachine.Proofs.Text.Numeral
import ByteMachine.Proofs.Text.Word

/-!
# Reading an item as it is written

An item is written as a mnemonic, a blank, and its operands with commas between them; the operands
are registers by their numbers, and numbers.  All of them are words of letters and digits, and the
assembler reads each of them back.

## Main statements

- `Asm.register_registerName` — a register is read back, if there is one of that number
- `Asm.immediate_decimal`, `Asm.immediate_binary` — the two forms of a byte
- `Asm.item_written`, `Asm.item_written_data` — an operation with its operands
-/

namespace ByteMachine.Asm

/-! ### Operands -/

theorem upper_registerName (reg : Byte) :
    Text.upper (Instr.registerName reg) = Instr.registerName reg := by
  have hdigits : Text.upper (Text.decimal reg.toNat) = Text.decimal reg.toNat :=
    Text.upper_digits fun c hc => Text.isDigit_of_mem_decimal hc
  exact congrArg ('R' :: ·) hdigits

/-- A register is read back if its number is at most 7. -/
theorem register_registerName (reg : Byte) :
    register (Instr.registerName reg) =
      if 7 < reg then .error (.noRegister (Instr.registerName reg)) else .ok reg := by
  have hindex : registerIndex? (Instr.registerName reg) = some reg.toNat := by
    show Text.unsigned? 10 (Text.decimal reg.toNat) = _
    rw [Text.unsigned?_eq fun c hc => Text.isDigit_of_mem_decimal hc, Text.natural?_decimal]
  have hlt : 7 < reg ↔ ¬reg.toNat < 8 := by
    rw [UInt8.lt_iff_toNat_lt]
    exact Nat.not_lt.symm
  rw [register, upper_registerName, hindex]
  by_cases h : reg.toNat < 8 <;> simp [hlt, h]

theorem byteValue_toNat (b : Byte) : byteValue (b.toNat : Int) = .ok b := by
  have hb : b.toNat < 256 := b.toNat_lt
  rw [byteValue, if_pos (by omega)]
  simp

theorem fitsWord_toNat (b : Byte) : fitsWord (b.toNat : Int) = true := by
  have hb : b.toNat < 256 := b.toNat_lt
  simp only [fitsWord, Bool.and_eq_true, decide_eq_true_eq]
  omega

theorem immediate_eq {operand : List Char} {n? : Option Int} (h : number? operand = some n?) :
    immediate operand =
      match n?.filter fitsWord with
      | some n => (byteValue n).map .value
      | none => .error (.malformed (.number operand)) := by
  unfold immediate
  split
  · rename_i n hn
    obtain rfl : n? = n := Option.some.inj (h.symm.trans hn)
    rfl
  · rename_i hn
    rw [hn] at h
    exact nomatch h

/-- An operand that is read as the number of a byte stands for this byte. -/
theorem immediate_of_number? {operand : List Char} {b : Byte}
    (h : number? operand = some (some (b.toNat : Int))) : immediate operand = .ok (.value b) := by
  have hfilter : (some (b.toNat : Int)).filter fitsWord = some (b.toNat : Int) :=
    Option.filter_eq_some_iff.2 ⟨rfl, fitsWord_toNat b⟩
  rw [immediate_eq h, hfilter]
  exact congrArg (Except.map Immediate.value) (byteValue_toNat b)

/-- Digits alone are a decimal number, and never have the mark of another base. -/
theorem number?_digits {text : List Char} (hne : text ≠ []) (h : ∀ c ∈ text, c.isDigit = true) :
    number? text = some (Text.signed? 10 text) := by
  -- the mark of a base has a letter in the second place
  have hmark : ∀ c d rest, text = c :: d :: rest → d.isDigit = true :=
    fun c d rest htext => h d (by simp [htext])
  unfold number?
  split
  · exact absurd (hmark _ _ _ rfl) (by decide)
  · exact absurd (hmark _ _ _ rfl) (by decide)
  · exact absurd (hmark _ _ _ rfl) (by decide)
  · exact absurd (hmark _ _ _ rfl) (by decide)
  · rename_i c rest _ _ _ _
    rw [h c List.mem_cons_self, Bool.true_or, if_pos rfl]
  · exact absurd rfl hne

theorem immediate_decimal (b : Byte) : immediate (Text.decimal b.toNat) = .ok (.value b) := by
  have hdigits : ∀ c ∈ Text.decimal b.toNat, c.isDigit = true :=
    fun c hc => Text.isDigit_of_mem_decimal hc
  have hne : Text.decimal b.toNat ≠ [] := Nat.toDigits_ne_nil
  apply immediate_of_number?
  rw [number?_digits hne hdigits, Text.signed?_eq hdigits, Text.natural?_decimal]
  rfl

theorem immediate_binary (b : Byte) : immediate (Byte.binary b) = .ok (.value b) := by
  have hdigits : ∀ c ∈ Text.binary 8 b.toNat, c.isDigit = true :=
    fun c hc => Text.isDigit_of_mem_binary hc
  apply immediate_of_number?
  show some (Text.signed? 2 (Text.binary 8 b.toNat)) = _
  rw [Text.signed?_eq hdigits, Text.natural?_binary]
  rfl

/-! ### Items -/

theorem isComment_of_isAlphanum {c : Char} (h : c.isAlphanum = true) : isComment c = false := by
  have hsemicolon : c ≠ ';' := Text.ne_of_isAlphanum h rfl
  have hnumberSign : c ≠ '#' := Text.ne_of_isAlphanum h rfl
  simp [isComment, hsemicolon, hnumberSign]

/-- A mnemonic and its operands, as they are written. -/
def written (word : List Char) : List (List Char) → List Char
  | [] => word
  | arg :: args => word ++ ' ' :: [','].intercalate (arg :: args)

theorem isBlank_of_mem_intercalate {args : List (List Char)} {c : Char}
    (h : ∀ arg ∈ args, Text.IsWord arg) (hc : c ∈ [','].intercalate args) :
    Text.isBlank c = false := by
  obtain rfl | ⟨arg, harg, hc⟩ := Text.mem_intercalate hc
  · rfl
  · exact (h arg harg).no_blank c hc

theorem intercalate_ne_nil {args : List (List Char)} (hne : args ≠ [])
    (h : ∀ arg ∈ args, Text.IsWord arg) : [','].intercalate args ≠ [] := by
  match args with
  | [arg] => simpa using (h arg List.mem_cons_self).1
  | arg :: next :: more => simp

/-- Operands joined by commas are found again. -/
theorem operands_intercalate {args : List (List Char)} (h : ∀ arg ∈ args, Text.IsWord arg) :
    operands ([','].intercalate args) = args := by
  cases args with
  | nil => rfl
  | cons arg rest =>
    have hne := intercalate_ne_nil (List.cons_ne_nil arg rest) h
    have hsplit := Text.splitOn_intercalate (List.cons_ne_nil arg rest)
      fun a ha => (h a ha).not_mem (c := ',') rfl
    have htrim : (arg :: rest).map Text.trim = (arg :: rest).map id :=
      List.map_congr_left fun a ha => Text.trim_word (h a ha).no_blank
    rw [operands, if_neg (by simpa using hne), hsplit, htrim, List.map_id]

theorem written_ne_nil {word : List Char} (hword : Text.IsWord word) (args : List (List Char)) :
    written word args ≠ [] := by
  cases args <;> simp [written, hword.1]

/-- A written item begins with a letter of its mnemonic. -/
theorem isBlank_of_head?_written {word : List Char} {args : List (List Char)} {c : Char}
    (hword : Text.IsWord word) (h : (written word args).head? = some c) :
    Text.isBlank c = false := by
  cases args with
  | nil => exact hword.no_blank c (List.mem_of_head? h)
  | cons arg rest => exact hword.isBlank_of_head?_append h

/-- A written item ends with a letter or a digit. -/
theorem isBlank_of_getLast?_written {word : List Char} {args : List (List Char)} {c : Char}
    (hword : Text.IsWord word) (hargs : ∀ arg ∈ args, Text.IsWord arg)
    (h : (written word args).getLast? = some c) : Text.isBlank c = false := by
  cases args with
  | nil => exact hword.no_blank c (List.mem_of_getLast? h)
  | cons arg rest =>
    rw [written, List.append_cons] at h
    refine Text.isBlank_of_getLast?_append (intercalate_ne_nil (List.cons_ne_nil arg rest) hargs)
      ?_ h
    intro d hd
    exact isBlank_of_mem_intercalate hargs (List.mem_of_getLast? hd)

/-- A written item has no other blank than the one behind its mnemonic. -/
theorem mem_written {word : List Char} {args : List (List Char)} {c : Char}
    (hword : Text.IsWord word) (hargs : ∀ arg ∈ args, Text.IsWord arg)
    (h : c ∈ written word args) : c.isAlphanum = true ∨ c = ' ' ∨ c = ',' := by
  cases args with
  | nil => exact .inl (hword.2 c h)
  | cons arg rest =>
    rw [written, List.mem_append, List.mem_cons] at h
    rcases h with h | h | h
    · exact .inl (hword.2 c h)
    · exact .inr (.inl h)
    · obtain hsep | ⟨a, ha, hc⟩ := Text.mem_intercalate h
      · exact .inr (.inr hsep)
      · exact .inl ((hargs a ha).2 c hc)

/-- A written item falls into its mnemonic and its operands. -/
theorem operands_written {word : List Char} {args : List (List Char)}
    (hword : Text.IsWord word) (hargs : ∀ arg ∈ args, Text.IsWord arg) :
    (Text.splitAtBlank (written word args)).1 = word ∧
      operands (Text.trim (Text.splitAtBlank (written word args)).2) = args := by
  have hblank := hword.no_blank
  cases args with
  | nil =>
    rw [written, Text.splitAtBlank_word hblank]
    exact ⟨rfl, rfl⟩
  | cons arg rest =>
    rw [written, Text.splitAtBlank_append_cons hblank (by decide)]
    have htrim : Text.trim ([','].intercalate (arg :: rest)) = [','].intercalate (arg :: rest) :=
      Text.trim_word fun c hc => isBlank_of_mem_intercalate hargs hc
    exact ⟨rfl, by rw [htrim, operands_intercalate hargs]⟩

theorem isWord_mnemonic (op : Opcode) : Text.IsWord op.mnemonic := by
  have hall : op.mnemonic.all Char.isAlphanum = true := by cases op <;> rfl
  refine ⟨?_, List.all_eq_true.1 hall⟩
  cases op <;> exact List.cons_ne_nil _ _

theorem isWord_dataMnemonic : Text.IsWord dataMnemonic :=
  ⟨List.cons_ne_nil _ _,
    List.all_eq_true.1 (show dataMnemonic.all Char.isAlphanum = true from rfl)⟩

theorem upper_mnemonic (op : Opcode) : Text.upper op.mnemonic = op.mnemonic := by
  cases op <;> rfl

theorem mnemonic_ne_dataMnemonic (op : Opcode) : op.mnemonic ≠ dataMnemonic := by
  cases op <;> decide

theorem item_written (op : Opcode) {args : List (List Char)} (h : ∀ arg ∈ args, Text.IsWord arg) :
    item (written op.mnemonic args) = instruction op args := by
  obtain ⟨hword, hargs⟩ := operands_written (isWord_mnemonic op) h
  simp only [item, hword, hargs, upper_mnemonic, mnemonic_ne_dataMnemonic, if_false,
    Opcode.ofMnemonic?_mnemonic]

theorem item_written_data {arg : List Char} (h : Text.IsWord arg) :
    item (written dataMnemonic [arg]) = (immediate arg).map .data := by
  have hupper : Text.upper dataMnemonic = dataMnemonic := rfl
  obtain ⟨hword, hargs⟩ := operands_written isWord_dataMnemonic (List.forall_mem_singleton.2 h)
  simp only [item, hword, hargs, hupper, if_true]

end ByteMachine.Asm
