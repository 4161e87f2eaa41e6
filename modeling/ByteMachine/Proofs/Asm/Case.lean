import ByteMachine.Proofs.Asm.Operand
import ByteMachine.Proofs.Asm.Patches
import ByteMachine.Proofs.Text.Case

/-!
# Case, blanks and comments in a source

The assembler sees a line without its comment, its outer blanks and the case of its letters.  The
case of a letter is dropped in several places: mnemonics, registers and labels are compared in
capitals, the marks of the bases are known in both cases, and so are the digits of a number.  Here
every reader is shown to do the same with a text as with its capitals, up to the text that it
quotes in an error.

## Main definitions

- `Asm.Error.capitals` — an error that quotes the source in capitals
- `Asm.Unmarked` — an operand without the mark of a base
- `Asm.bare` — a line without its comment, its outer blanks and its case

## Main statements

- `Asm.immediate_capitals`, `Asm.register_capitals`, `Asm.item_capitals` — the readers
- `Asm.readLines_congr` — the lines of two sources
- `assemble_caseless` — the programs of two sources
-/

namespace ByteMachine

namespace Asm

/-! ### Errors -/

/-- The same complaint, with the text that it quotes in capitals. -/
def Malformed.capitals : Malformed → Malformed
  | .label written => .label (Text.capitals written)
  | .operandNumber mnemonic expected found => .operandNumber mnemonic expected found
  | .operand written => .operand (Text.capitals written)
  | .number written => .number (Text.capitals written)

/-- The same cause, with the text that it quotes in capitals.  Mnemonics and labels are named in
their upper case anyway. -/
def Cause.capitals : Cause → Cause
  | .malformed what => .malformed what.capitals
  | .unknownMnemonic mnemonic => .unknownMnemonic mnemonic
  | .undefinedLabel label => .undefinedLabel label
  | .repeatedLabel label => .repeatedLabel label
  | .notByte value => .notByte value
  | .noRegister written => .noRegister (Text.capitals written)

/-- The same error on the same line, with the text that it quotes in capitals. -/
def Error.capitals (e : Error) : Error :=
  ⟨e.line, e.cause.capitals⟩

variable {α : Type} {mark : Char} {base : Nat}

theorem mapError_onLine (line : Nat) (x : Except Cause α) :
    (onLine line x).mapError Error.capitals = onLine line (x.mapError Cause.capitals) := by
  cases x <;> rfl

/-! ### Operands -/

theorem register_capitals (operand : List Char) :
    (register (Text.capitals operand)).mapError Cause.capitals =
      (register operand).mapError Cause.capitals := by
  have herror : Cause.capitals (.noRegister (Text.capitals operand)) =
      Cause.capitals (.noRegister operand) :=
    congrArg Cause.noRegister (Text.capitals_capitals operand)
  rw [register, Text.upper_capitals, register]
  cases registerIndex? (Text.upper operand) with
  | none => exact congrArg Except.error herror
  | some index =>
    by_cases hindex : index < 8
    · simp only [if_pos hindex, mapError_ok]
    · simp only [if_neg hindex, mapError_error, herror]

theorem BaseMark.mem_iff :
    BaseMark mark base ↔ mark ∈ ['x', 'X'] ∧ base = 16 ∨ mark ∈ ['b', 'B'] ∧ base = 2 := by
  constructor
  · rintro (_ | _ | _ | _) <;> decide
  · simp only [List.mem_cons, List.not_mem_nil, or_false]
    rintro (⟨rfl | rfl, rfl⟩ | ⟨rfl | rfl, rfl⟩) <;> constructor

/-- The mark of a base has no case. -/
theorem BaseMark.toUpper_iff : BaseMark mark.toUpper base ↔ BaseMark mark base := by
  rw [BaseMark.mem_iff, BaseMark.mem_iff]
  by_cases hmark : mark.toNat < 0x80
  · have hletters : (mark.toUpper ∈ ['x', 'X'] ↔ mark ∈ ['x', 'X']) ∧
        (mark.toUpper ∈ ['b', 'B'] ↔ mark ∈ ['b', 'B']) :=
      Text.forall_ascii (P := fun c => (c.toUpper ∈ ['x', 'X'] ↔ c ∈ ['x', 'X']) ∧
        (c.toUpper ∈ ['b', 'B'] ↔ c ∈ ['b', 'B'])) (by decide) mark hmark
    rw [hletters.1, hletters.2]
  · rw [Text.toUpper_of_le (Nat.le_of_not_lt hmark)]

/-- The operand has no mark of a base. -/
def Unmarked (operand : List Char) : Prop :=
  ∀ mark base ds, BaseMark mark base → operand ≠ '0' :: mark :: ds

theorem Unmarked.capitals {operand : List Char} (h : Unmarked operand) :
    Unmarked (Text.capitals operand) := by
  intro mark base ds hmark hoperand
  obtain ⟨c, rest, rfl, hc, hrest⟩ := List.map_eq_cons_iff.1 hoperand
  obtain ⟨d, tail, rfl, hd, -⟩ := List.map_eq_cons_iff.1 hrest
  have hzero : c = '0' := (Text.toUpper_eq_iff rfl).1 hc
  exact h d base tail (BaseMark.toUpper_iff.1 (hd ▸ hmark)) (hzero ▸ rfl)

theorem number?_marked {ds : List Char} (hmark : BaseMark mark base) :
    number? ('0' :: mark :: ds) = some (Text.signed? base ds) := by
  cases hmark <;> rfl

/-- Without the mark of a base the first character decides. -/
theorem number?_unmarked {c : Char} {rest : List Char} (h : Unmarked (c :: rest)) :
    number? (c :: rest) =
      if c.isDigit || c = '-' then some (Text.signed? 10 (c :: rest)) else none := by
  cases numberRead (c :: rest) with
  | marked hmark hoperand => exact absurd hoperand (h _ _ _ hmark)
  | decimal hoperand hfirst _ hread =>
    obtain ⟨rfl, rfl⟩ := List.cons.inj hoperand
    rw [hread, if_pos (by simpa using hfirst)]
  | label hfirst hread =>
    have hc := hfirst c rest rfl
    rw [hread, if_neg (by simpa using hc)]

theorem number?_capitals (operand : List Char) :
    number? (Text.capitals operand) = number? operand := by
  by_cases hmarked : ∃ mark base ds, BaseMark mark base ∧ operand = '0' :: mark :: ds
  · obtain ⟨mark, base, ds, hmark, rfl⟩ := hmarked
    show number? ('0' :: mark.toUpper :: Text.capitals ds) = _
    rw [number?_marked (BaseMark.toUpper_iff.2 hmark), number?_marked hmark,
      Text.signed?_capitals hmark.le]
  · have hunmarked : Unmarked operand :=
      fun mark base ds hmark h => hmarked ⟨mark, base, ds, hmark, h⟩
    have hcapitals := hunmarked.capitals
    cases operand with
    | nil => rfl
    | cons c rest =>
      rw [Text.capitals_cons] at hcapitals
      have hminus : decide (c.toUpper = '-') = decide (c = '-') :=
        Text.ignoresCase_eq rfl c
      rw [Text.capitals_cons, number?_unmarked hcapitals, number?_unmarked hunmarked,
        Text.ignoresCase_isDigit c, hminus, ← Text.capitals_cons, Text.signed?_capitals (by decide)]

theorem immediate_capitals (operand : List Char) :
    (immediate (Text.capitals operand)).mapError Cause.capitals =
      (immediate operand).mapError Cause.capitals := by
  have hquoted := Text.capitals_capitals operand
  rw [immediate, number?_capitals, Text.isEmpty_capitals, Text.hasBlank_capitals,
    Text.upper_capitals, immediate]
  cases number? operand with
  | none =>
    by_cases hname : operand.isEmpty || Text.hasBlank operand
    · simp only [if_pos hname, mapError_error, Cause.capitals, Malformed.capitals, hquoted]
    · simp only [if_neg hname, mapError_ok]
  | some n? =>
    cases hfits : n?.filter fitsWord with
    | none => simp only [hfits, mapError_error, Cause.capitals, Malformed.capitals, hquoted]
    | some n => simp only [hfits]

theorem operands_capitals (text : List Char) :
    operands (Text.capitals text) = (operands text).map Text.capitals := by
  have htrim : Text.trim ∘ Text.capitals = Text.capitals ∘ Text.trim :=
    funext Text.trim_capitals
  rw [operands, Text.isEmpty_capitals, operands]
  by_cases htext : text.isEmpty = true
  · rw [if_pos htext, if_pos htext, List.map_nil]
  · rw [if_neg htext, if_neg htext, Text.splitOn_capitals rfl, List.map_map, htrim, List.map_map]

/-! ### Items -/

theorem instruction_capitals (op : Opcode) (xs : List (List Char)) :
    (instruction op (xs.map Text.capitals)).mapError Cause.capitals =
      (instruction op xs).mapError Cause.capitals := by
  match xs with
  | [] => rfl
  | [x] =>
    have hx := register_capitals x
    cases op with
    | prn | push | pop | call => exact mapError_bind_congr hx fun _ => rfl
    | _ => rfl
  | [x, y] =>
    have hx := register_capitals x
    have hy := register_capitals y
    cases op with
    | ldi =>
      exact mapError_bind_congr hx fun _ => mapError_bind_congr (immediate_capitals y) fun _ => rfl
    | add | mul => exact mapError_bind_congr hx fun _ => mapError_bind_congr hy fun _ => rfl
    | _ => rfl
  | x :: y :: z :: rest => simp only [List.map_cons, instruction, List.length_cons, List.length_map]

theorem item_capitals (text : List Char) :
    (item (Text.capitals text)).mapError Cause.capitals = (item text).mapError Cause.capitals := by
  rw [item, item, Text.splitAtBlank_capitals]
  simp only [Text.upper_capitals, Text.trim_capitals, operands_capitals]
  generalize operands (Text.trim (Text.splitAtBlank text).2) = xs
  by_cases hdata : Text.upper (Text.splitAtBlank text).1 = dataMnemonic
  · rw [if_pos hdata, if_pos hdata]
    rcases xs with _ | ⟨x, _ | ⟨y, rest⟩⟩
    · rfl
    · show ((immediate (Text.capitals x)).map _).mapError _ = ((immediate x).map _).mapError _
      rw [mapError_map, immediate_capitals, mapError_map]
    · simp only [List.map_cons, List.length_cons, List.length_map]
  · rw [if_neg hdata, if_neg hdata]
    cases Opcode.ofMnemonic? (Text.upper (Text.splitAtBlank text).1) with
    | none => rfl
    | some op => exact instruction_capitals op xs

theorem readItem_capitals (text : List Char) :
    (readItem (Text.capitals text)).mapError Cause.capitals =
      (readItem text).mapError Cause.capitals := by
  rw [readItem, Text.isEmpty_capitals, readItem]
  by_cases htext : text.isEmpty = true
  · rw [if_pos htext, if_pos htext]
  · rw [if_neg htext, if_neg htext, mapError_map, item_capitals, mapError_map]

/-! ### Lines -/

theorem labelName_capitals (written : List Char) :
    (labelName (Text.capitals written)).mapError Cause.capitals =
      (labelName written).mapError Cause.capitals := by
  simp only [labelName, Text.trim_capitals, Text.upper_capitals]
  split
  · simp only [mapError_error, Cause.capitals, Malformed.capitals, Text.capitals_capitals]
  · rfl

theorem readLabel_capitals (seen : List Label) (written? : Option (List Char)) :
    (readLabel seen (written?.map Text.capitals)).mapError Cause.capitals =
      (readLabel seen written?).mapError Cause.capitals := by
  cases written? with
  | none => rfl
  | some written => exact mapError_bind_congr (labelName_capitals written) fun _ => rfl

theorem splitLabel_capitals (stmt : List Char) :
    splitLabel (Text.capitals stmt) =
      ((splitLabel stmt).1.map Text.capitals, Text.capitals (splitLabel stmt).2) := by
  have hcolon : Text.IgnoresCase (· = ':') := Text.ignoresCase_eq rfl
  rw [splitLabel, Text.after?_capitals hcolon, Text.before_capitals hcolon, splitLabel]
  cases Text.after? (· = ':') stmt with
  | none => rfl
  | some rest =>
    show (some _, Text.trim (Text.capitals rest)) = _
    rw [Text.trim_capitals]
    rfl

/-- A line without its comment, its outer blanks and the case of its letters. -/
def bare (line : List Char) : List Char :=
  Text.capitals (statement line)

/-- Lines that are the same when bare say the same. -/
theorem readLine_congr {line line' : List Char} (h : bare line = bare line') (seen : List Label)
    (number : Nat) :
    (readLine seen line number).mapError Error.capitals =
      (readLine seen line' number).mapError Error.capitals := by
  have hparts := congrArg splitLabel h
  rw [bare, bare, splitLabel_capitals, splitLabel_capitals] at hparts
  obtain ⟨hlabel, htext⟩ := Prod.mk.inj hparts
  have hreadLabel := congrArg (fun l => (readLabel seen l).mapError Cause.capitals) hlabel
  have hreadItem := congrArg (fun t => (readItem t).mapError Cause.capitals) htext
  simp only [readLabel_capitals] at hreadLabel
  simp only [readItem_capitals] at hreadItem
  rw [readLine, mapError_onLine, readLine, mapError_onLine]
  refine congrArg (onLine number) ?_
  exact mapError_bind_congr hreadLabel fun _ => mapError_bind_congr hreadItem fun _ => rfl

/-- So do sources whose lines are the same, one by one. -/
theorem readLines_congr {lines lines' : List (List Char)} (h : lines.map bare = lines'.map bare)
    (seen : List Label) (first : Nat) :
    (readLines seen (lines.zipIdx first)).mapError Error.capitals =
      (readLines seen (lines'.zipIdx first)).mapError Error.capitals := by
  induction lines generalizing lines' seen first with
  | nil =>
    obtain rfl : lines' = [] := List.map_eq_nil_iff.1 h.symm
    rfl
  | cons line rest ih =>
    obtain ⟨line', rest', rfl, hline, hrest⟩ := List.map_eq_cons_iff.1 h.symm
    rw [List.zipIdx_cons, List.zipIdx_cons, readLines, readLines]
    refine mapError_bind_congr (readLine_congr hline.symm seen first) fun e => ?_
    exact mapError_bind_congr (ih hrest.symm _ _) fun _ => rfl

end Asm

/-- **Case, blanks and comments mean nothing.**  If the lines of two sources are the same without
their comments, their outer blanks and the case of their letters, both sources are assembled to the
same program, or both fail with the same error on the same line; the error may quote the source in
another case. -/
theorem assemble_caseless (source source' : String)
    (h : (Text.lines source.toList).map Asm.bare = (Text.lines source'.toList).map Asm.bare) :
    (assemble source).mapError Asm.Error.capitals =
      (assemble source').mapError Asm.Error.capitals := by
  rw [assemble_eq_twoPass, assemble_eq_twoPass, Asm.twoPass, Asm.twoPass]
  exact mapError_bind_congr (Asm.readLines_congr h [] 1) fun _ => rfl

/-- A program in small letters and in capitals, and the refusal of an operand in both. -/
theorem assemble_caseless_mixed :
    (assemble " start: ldi r0,end ; x\nEnd:db 0xfF" = .ok [130, 0, 3, 255] ∧
      assemble "START: LDI R0,END\n\tEND:DB 0XFF#" = .ok [130, 0, 3, 255]) ∧
    (Text.lines "\nprn r9 # x".toList).map Asm.bare =
      (Text.lines "; y\n\tPRN R9".toList).map Asm.bare ∧
    (assemble "\nprn r9 # x").mapError Asm.Error.capitals =
      (assemble "; y\n\tPRN R9").mapError Asm.Error.capitals := by
  have hsmall : assemble " start: ldi r0,end ; x\nEnd:db 0xfF" = .ok [130, 0, 3, 255] := rfl
  have hmixed := assemble_caseless " start: ldi r0,end ; x\nEnd:db 0xfF"
    "START: LDI R0,END\n\tEND:DB 0XFF#" (by decide)
  rw [hsmall, mapError_ok, eq_comm, mapError_eq_ok_iff] at hmixed
  have hrefused : (Text.lines "\nprn r9 # x".toList).map Asm.bare =
      (Text.lines "; y\n\tPRN R9".toList).map Asm.bare := by
    decide
  exact ⟨⟨hsmall, hmixed⟩, hrefused, assemble_caseless _ _ hrefused⟩

end ByteMachine
