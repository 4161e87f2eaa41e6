import ByteMachine.Proofs.Asm.Operand
import ByteMachine.Proofs.Asm.Patches

/-!
# Labels and their uses

A label is defined by the text before a colon, and used where an immediate value is expected.  The
two texts are judged differently: nearly everything can be defined, but what begins like a number
is never read as a label.  So the name of a label stands for its address unless it begins like a
number; then it stands for this number.

## Main definitions

- `Asm.immediateText?` — the immediate value of a line as it is written
- `Asm.Defines`, `Asm.Uses` — where a source defines a label, and where it has an immediate value
- `Asm.BeginsNumber` — a text that is read as a number or not at all

## Main statements

- `Asm.Defines.address?_eq` — a label has the address of the line that defines it
- `Asm.Uses.exists_byte` — the byte of an immediate value stands in its place
- `assemble_references` — what a use of a label becomes
- `assemble_reference_misread` — a label that is not found by its name
-/

namespace ByteMachine

namespace Asm

/-- The immediate value in the text of an item, and its place among the bytes of the item. -/
def immediateText? (text : List Char) : Option (Nat × List Char) :=
  let (word, rest) := Text.splitAtBlank text
  match operands (Text.trim rest) with
  | [x] => if Text.upper word = dataMnemonic then some (0, x) else none
  | [_, x] => if Text.upper word = Opcode.ldi.mnemonic then some (2, x) else none
  | _ => none

/-- A line of the source defines the label, and the lines before it have `addr` bytes. -/
def Defines (source : List Char) (es : List Entry) (name : Label) (addr : Nat) : Prop :=
  ∃ k line written, (Text.lines source)[k]? = some line ∧
    (splitLabel (statement line)).1 = some written ∧ labelName written = .ok name ∧
    addr = extent (es.take k)

/-- A line of the source has the immediate value, whose byte belongs to the given place in the
program. -/
def Uses (source : List Char) (es : List Entry) (x : List Char) (place : Nat) : Prop :=
  ∃ k line offset, (Text.lines source)[k]? = some line ∧
    immediateText? (splitLabel (statement line)).2 = some (offset, x) ∧
    place = extent (es.take k) + offset

/-- A text that begins with a digit or a minus sign. -/
def BeginsNumber (text : List Char) : Prop :=
  ∃ c rest, text = c :: rest ∧ (c.isDigit = true ∨ c = '-')

variable {source text x : List Char} {lines : List (List Char × Nat)} {es : List Entry} {e : Entry}
  {seen : List Label} {name : Label} {addr place offset k : Nat} {code bytes : List Byte}
  {address : Label → Option Nat} {value : Immediate} {b : Byte}

/-! ### Immediate values -/

theorem not_isAlpha_of_beginsNumber {c : Char} (hc : c.isDigit = true ∨ c = '-') :
    c.toNat < 0x80 ∧ c.isAlpha = false := by
  rcases hc with hdigit | rfl
  · simp only [Char.isDigit, Bool.and_eq_true, decide_eq_true_eq] at hdigit
    have hlt : c.toNat < 0x80 := Nat.lt_of_le_of_lt hdigit.2 (by decide)
    refine ⟨hlt, Text.forall_ascii (P := fun c => c.isDigit = true → c.isAlpha = false) (by decide)
      c hlt ?_⟩
    simpa [Char.isDigit] using hdigit
  · decide

/-- The case of a text does not decide whether it begins like a number. -/
theorem beginsNumber_upper_iff : BeginsNumber (Text.upper text) ↔ BeginsNumber text := by
  constructor
  · rintro ⟨c, rest, hupper, hc⟩
    obtain ⟨hascii, halpha⟩ := not_isAlpha_of_beginsNumber hc
    obtain ⟨text', rfl, -⟩ := (Text.upper_eq_cons_iff_of_not_isAlpha hascii halpha).1 hupper
    exact ⟨c, text', rfl, hc⟩
  · rintro ⟨c, rest, rfl, hc⟩
    obtain ⟨hascii, halpha⟩ := not_isAlpha_of_beginsNumber hc
    have hupper := (Text.upper_eq_cons_iff_of_not_isAlpha hascii halpha).2 ⟨rest, rfl, rfl⟩
    exact ⟨c, Text.upper rest, hupper, hc⟩

theorem number?_eq_none_iff : number? x = none ↔ ¬BeginsNumber x := by
  cases numberRead x with
  | marked _ hx hread =>
    rw [hread]
    exact iff_of_false (fun h => nomatch h) (not_not_intro ⟨_, _, hx, .inl rfl⟩)
  | decimal hx hfirst _ hread =>
    rw [hread]
    exact iff_of_false (fun h => nomatch h) (not_not_intro ⟨_, _, hx, hfirst⟩)
  | label hfirst hread =>
    refine iff_of_true hread ?_
    rintro ⟨c, rest, hx, hc⟩
    obtain ⟨hdigit, hminus⟩ := hfirst c rest hx
    exact hc.elim (Bool.eq_false_iff.1 hdigit) hminus

/-- What does not begin like a number is read as a label. -/
theorem eq_label_of_immediate (hx : ¬BeginsNumber x) (h : immediate x = .ok value) :
    value = .label (Text.upper x) := by
  rw [immediate, number?_eq_none_iff.2 hx] at h
  obtain ⟨-, h⟩ := guard_eq_ok_iff.1 h
  exact (Except.ok.inj h).symm

/-- What begins like a number is never read as a label. -/
theorem eq_value_of_immediate (hx : BeginsNumber x) (h : immediate x = .ok value) :
    ∃ b, value = .value b := by
  cases hread : number? x with
  | none => exact absurd hx (number?_eq_none_iff.1 hread)
  | some n? =>
    rw [immediate_eq hread] at h
    cases hfits : n?.filter fitsWord with
    | none => simp [hfits] at h
    | some n =>
      rw [hfits] at h
      obtain ⟨b, -, hb⟩ := map_eq_ok_iff.1 h
      exact ⟨b, hb.symm⟩

theorem immediateText?_eq_some_iff :
    immediateText? text = some (offset, x) ↔
      (Text.upper (Text.splitAtBlank text).1 = dataMnemonic ∧
        operands (Text.trim (Text.splitAtBlank text).2) = [x] ∧ offset = 0) ∨
      ∃ reg, Text.upper (Text.splitAtBlank text).1 = Opcode.ldi.mnemonic ∧
        operands (Text.trim (Text.splitAtBlank text).2) = [reg, x] ∧ offset = 2 := by
  unfold immediateText?
  dsimp only
  split
  · rename_i y hxs
    by_cases hword : Text.upper (Text.splitAtBlank text).1 = dataMnemonic <;>
      simp [hxs, hword, eq_comm, and_comm]
  · rename_i reg y hxs
    by_cases hword : Text.upper (Text.splitAtBlank text).1 = Opcode.ldi.mnemonic <;>
      simp [hxs, hword, eq_comm, and_comm]
  · rename_i hone htwo
    refine iff_of_false (fun h => nomatch h) ?_
    rintro (⟨-, hxs, -⟩ | ⟨reg, -, hxs, -⟩)
    · exact hone x hxs
    · exact htwo reg x hxs

/-- The immediate value of an item is what its text says. -/
theorem immediate_of_item {item' : Item} (h : item text = .ok item')
    (hx : immediateText? text = some (offset, x)) :
    ∃ value, immediate x = .ok value ∧ item'.immediate? = some (offset, value) := by
  rcases immediateText?_eq_some_iff.1 hx with ⟨hword, hxs, rfl⟩ | ⟨reg, hword, hxs, rfl⟩
  · simp only [item, hword, hxs, if_true] at h
    obtain ⟨value, hvalue, rfl⟩ := map_eq_ok_iff.1 h
    exact ⟨value, hvalue, rfl⟩
  · simp only [item, hword, hxs, mnemonic_ne_dataMnemonic, if_false,
      Opcode.ofMnemonic?_mnemonic, instruction, bind_eq_ok_iff, pure_eq_ok_iff] at h
    obtain ⟨r, -, value, hvalue, rfl⟩ := h
    exact ⟨value, hvalue, rfl⟩

/-- The byte of an immediate value is among the bytes of its item. -/
theorem Item.exists_byte {item : Item} (hvalue : item.immediate? = some (offset, value))
    (h : item.encode address = .ok bytes) :
    offset < item.width ∧ ∃ b, value.byte address = .ok b ∧ bytes[offset]? = some b := by
  cases item with
  | data v =>
    obtain ⟨rfl, rfl⟩ : 0 = offset ∧ v = value := by simpa [immediate?] using hvalue
    obtain ⟨b, hb, rfl⟩ := map_eq_ok_iff.1 h
    exact ⟨Nat.zero_lt_one, b, hb, rfl⟩
  | load reg v =>
    obtain ⟨rfl, rfl⟩ : 2 = offset ∧ v = value := by simpa [immediate?] using hvalue
    obtain ⟨b, hb, rfl⟩ := map_eq_ok_iff.1 h
    exact ⟨Nat.lt_succ_self 2, b, hb, rfl⟩
  | instr i => simp [immediate?] at hvalue

/-! ### The entries of a source -/

/-- Every line of a source that is read has its entry. -/
theorem exists_of_readLines {ls : List (List Char)} {line : List Char} {first : Nat}
    (h : readLines seen (ls.zipIdx first) = .ok es) (hline : ls[k]? = some line) :
    ∃ seen' e, es[k]? = some e ∧ readLine seen' line (first + k) = .ok e := by
  induction ls generalizing seen first es k with
  | nil => exact nomatch hline
  | cons l rest ih =>
    simp only [List.zipIdx_cons, readLines, bind_eq_ok_iff, pure_eq_ok_iff] at h
    obtain ⟨e, he, es, hes, rfl⟩ := h
    cases k with
    | zero =>
      obtain rfl : l = line := Option.some.inj hline
      exact ⟨seen, e, rfl, he⟩
    | succ k =>
      obtain ⟨seen', e', he', hread⟩ := ih hes hline
      exact ⟨seen', e', he', by rwa [Nat.add_right_comm] at hread⟩

/-- No line defines a label again. -/
theorem not_mem_of_readLines (h : readLines seen lines = .ok es) (he : e ∈ es)
    (hname : e.label = some name) : name ∉ seen := by
  induction lines generalizing seen es with
  | nil =>
    obtain rfl : [] = es := by simpa [readLines] using h
    simp at he
  | cons first rest ih =>
    simp only [readLines, bind_eq_ok_iff, pure_eq_ok_iff] at h
    obtain ⟨e', he', es, hes, rfl⟩ := h
    rcases List.mem_cons.1 he with rfl | hmem
    · exact not_mem_of_readLine he' hname
    · exact fun hseen => ih hes hmem (List.mem_append_right _ hseen)

/-- The address of a label is the number of bytes before its line. -/
theorem address?_of_getElem? (h : readLines seen lines = .ok es) (he : es[k]? = some e)
    (hname : e.label = some name) : address? es name = some (extent (es.take k)) := by
  induction lines generalizing seen es k with
  | nil =>
    obtain rfl : [] = es := by simpa [readLines] using h
    simp at he
  | cons first rest ih =>
    simp only [readLines, bind_eq_ok_iff, pure_eq_ok_iff] at h
    obtain ⟨e', -, es, hes, rfl⟩ := h
    rw [address?_cons]
    cases k with
    | zero =>
      obtain rfl : e' = e := Option.some.inj he
      exact if_pos hname
    | succ k =>
      have hother : e'.label ≠ some name := by
        intro hlabel
        refine not_mem_of_readLines hes (List.mem_of_getElem? he) hname ?_
        simp [hlabel]
      rw [if_neg hother, ih hes he]
      rfl

/-- The bytes of a line stand behind those of the lines before it. -/
theorem getElem?_encodeEntries (h : encodeEntries address es = .ok code) (he : es[k]? = some e) :
    ∃ bytes, e.encode address = .ok bytes ∧
      ∀ i < e.width, code[extent (es.take k) + i]? = bytes[i]? := by
  induction es generalizing k code with
  | nil => exact nomatch he
  | cons e' rest ih =>
    simp only [encodeEntries, bind_eq_ok_iff, pure_eq_ok_iff] at h
    obtain ⟨bytes, hbytes, more, hmore, rfl⟩ := h
    have hwidth := Entry.length_encode hbytes
    cases k with
    | zero =>
      obtain rfl : e' = e := Option.some.inj he
      refine ⟨bytes, hbytes, fun i hi => ?_⟩
      rw [List.take_zero, extent_nil, Nat.zero_add, List.getElem?_append_left (hwidth ▸ hi)]
    | succ k =>
      obtain ⟨bytes', hbytes', hget⟩ := ih hmore he
      refine ⟨bytes', hbytes', fun i hi => ?_⟩
      rw [List.take_succ_cons, extent_cons, Nat.add_assoc, ← hwidth,
        List.getElem?_append_right (Nat.le_add_right _ _), Nat.add_sub_cancel_left, hget i hi]

/-! ### Definitions and uses -/

theorem Defines.address?_eq (hes : readLines [] ((Text.lines source).zipIdx 1) = .ok es)
    (h : Defines source es name addr) : address? es name = some addr := by
  obtain ⟨k, line, written, hline, hwritten, hname, rfl⟩ := h
  obtain ⟨seen, e, he, hread⟩ := exists_of_readLines hes hline
  obtain ⟨-, hlabel, -⟩ := readLine_eq_ok_iff.1 hread
  simp only [hwritten, readLabel, hname, bind_eq_ok_iff, guard_eq_ok_iff] at hlabel
  obtain ⟨_, hsame, -, hlabel⟩ := hlabel
  obtain rfl := Except.ok.inj hsame
  exact address?_of_getElem? hes he (Except.ok.inj hlabel).symm

theorem Uses.exists_byte (hes : readLines [] ((Text.lines source).zipIdx 1) = .ok es)
    (hcode : encodeEntries address es = .ok code) (h : Uses source es x place) :
    ∃ value b, immediate x = .ok value ∧ value.byte address = .ok b ∧ code[place]? = some b := by
  obtain ⟨k, line, offset, hline, hx, rfl⟩ := h
  obtain ⟨seen, e, he, hread⟩ := exists_of_readLines hes hline
  obtain ⟨-, -, hitem⟩ := readLine_eq_ok_iff.1 hread
  obtain ⟨bytes, hbytes, hget⟩ := getElem?_encodeEntries hcode he
  have htext : ¬(splitLabel (statement line)).2.isEmpty = true := by
    intro hempty
    rw [List.isEmpty_iff.1 hempty] at hx
    exact nomatch hx
  rw [readItem, if_neg htext] at hitem
  obtain ⟨item', hitem, hsome⟩ := map_eq_ok_iff.1 hitem
  obtain ⟨value, hvalue, hplace⟩ := immediate_of_item hitem hx
  rw [Entry.encode, ← hsome] at hbytes
  obtain ⟨hlt, b, hb, hbyte⟩ := Item.exists_byte hplace (onLine_eq_ok_iff.1 hbytes)
  have hwidth : e.width = item'.width := by rw [Entry.width, ← hsome]
  exact ⟨value, b, hvalue, hb, (hget offset (hwidth ▸ hlt)).trans hbyte⟩

theorem labelByte_eq_ok_iff :
    labelByte address name = .ok b ↔
      ∃ addr, address name = some addr ∧ addr ≤ 255 ∧ UInt8.ofNat addr = b := by
  unfold labelByte
  cases address name with
  | none => simp
  | some addr => by_cases haddr : addr ≤ 255 <;> simp [haddr]

end Asm

/-- **What a use of a label becomes.**  In every source that is assembled, wherever the immediate
value of a line has the name of a label: if the name does not begin like a number, the byte there
is the address of the label, which is the number of bytes before the line that defines it.  If it
does, the byte is the number that the text spells, and the label plays no part. -/
theorem assemble_references {source : String} {code : List Byte} (h : assemble source = .ok code) :
    ∃ es, Asm.readLines [] ((Text.lines source.toList).zipIdx 1) = .ok es ∧
      ∀ name addr x place, Asm.Defines source.toList es name addr →
        Asm.Uses source.toList es x place → Text.upper x = name →
        (¬Asm.BeginsNumber name → addr ≤ 255 ∧ code[place]? = some (UInt8.ofNat addr)) ∧
        (Asm.BeginsNumber name → ∃ b, code[place]? = some b ∧
          (Asm.IsNumber x b.toNat ∨ Asm.IsStrayNumber x b.toNat)) := by
  rw [assemble_eq_twoPass, Asm.twoPass, bind_eq_ok_iff] at h
  obtain ⟨es, hes, hcode⟩ := h
  refine ⟨es, hes, ?_⟩
  rintro name addr x place hdef huse rfl
  obtain ⟨value, b, hvalue, hb, hplace⟩ := huse.exists_byte hes hcode
  rw [Asm.beginsNumber_upper_iff]
  constructor
  · intro hx
    obtain rfl := Asm.eq_label_of_immediate hx hvalue
    obtain ⟨addr', haddr, hle, rfl⟩ := Asm.labelByte_eq_ok_iff.1 hb
    obtain rfl : addr = addr' := Option.some.inj ((hdef.address?_eq hes).symm.trans haddr)
    exact ⟨hle, hplace⟩
  · intro hx
    obtain ⟨b', rfl⟩ := Asm.eq_value_of_immediate hx hvalue
    obtain rfl : b' = b := Except.ok.inj hb
    exact ⟨b', hplace, Asm.immediate_eq_value_iff.1 hvalue⟩

/-- One label is used before its definition, and another one begins like a number. -/
theorem assemble_references_forward :
    assemble "LDI R1,Done\n5: DB 5\nDONE: HLT" = .ok [130, 1, 4, 5, 1] ∧
      ∃ es, Asm.readLines [] ((Text.lines "LDI R1,Done\n5: DB 5\nDONE: HLT".toList).zipIdx 1) =
          .ok es ∧
        (Asm.Defines "LDI R1,Done\n5: DB 5\nDONE: HLT".toList es "DONE".toList 4 ∧
          Asm.Uses "LDI R1,Done\n5: DB 5\nDONE: HLT".toList es "Done".toList 2 ∧
          ¬Asm.BeginsNumber "DONE".toList ∧
          4 ≤ 255 ∧ ([130, 1, 4, 5, 1] : List Byte)[2]? = some (UInt8.ofNat 4)) ∧
        Asm.Defines "LDI R1,Done\n5: DB 5\nDONE: HLT".toList es ['5'] 3 ∧
          Asm.Uses "LDI R1,Done\n5: DB 5\nDONE: HLT".toList es ['5'] 3 ∧
          Asm.BeginsNumber ['5'] ∧
          ∃ b : Byte, ([130, 1, 4, 5, 1] : List Byte)[3]? = some b ∧
            (Asm.IsNumber ['5'] b.toNat ∨ Asm.IsStrayNumber ['5'] b.toNat) := by
  have hcode : assemble "LDI R1,Done\n5: DB 5\nDONE: HLT" = .ok [130, 1, 4, 5, 1] := rfl
  have hread : Asm.readLines [] ((Text.lines "LDI R1,Done\n5: DB 5\nDONE: HLT".toList).zipIdx 1) =
      .ok [⟨1, none, some (.load 1 (.label "DONE".toList))⟩,
        ⟨2, some ['5'], some (.data (.value 5))⟩, ⟨3, some "DONE".toList, some (.instr .hlt)⟩] := rfl
  obtain ⟨es, hes, hreferences⟩ := assemble_references hcode
  obtain rfl := Except.ok.inj (hread.symm.trans hes)
  have hdone : ¬Asm.BeginsNumber "DONE".toList := by
    rintro ⟨c, rest, ⟨⟩, hc⟩
    exact absurd hc (by decide)
  have hfive : Asm.BeginsNumber ['5'] := ⟨'5', [], rfl, .inl rfl⟩
  refine ⟨hcode, _, hread,
    ⟨⟨2, _, "DONE".toList, rfl, rfl, rfl, rfl⟩, ⟨0, _, 2, rfl, rfl, rfl⟩, hdone, ?_⟩,
    ⟨1, _, ['5'], rfl, rfl, rfl, rfl⟩, ⟨1, _, 0, rfl, rfl, rfl⟩, hfive, ?_⟩
  · exact (hreferences _ 4 "Done".toList 2 ⟨2, _, "DONE".toList, rfl, rfl, rfl, rfl⟩
      ⟨0, _, 2, rfl, rfl, rfl⟩ rfl).1 hdone
  · exact (hreferences _ 3 ['5'] 3 ⟨1, _, ['5'], rfl, rfl, rfl, rfl⟩
      ⟨1, _, 0, rfl, rfl, rfl⟩ rfl).2 hfive

/-- The label has the address 0, and where its name is used stands a 5. -/
theorem assemble_reference_misread :
    assemble "5: DB 5" = .ok [5] ∧
      ∃ es, Asm.readLines [] ((Text.lines "5: DB 5".toList).zipIdx 1) = .ok es ∧
        Asm.Defines "5: DB 5".toList es ['5'] 0 ∧ Asm.Uses "5: DB 5".toList es ['5'] 0 ∧
        Text.upper ['5'] = ['5'] ∧ ([5] : List Byte)[0]? ≠ some (UInt8.ofNat 0) :=
  ⟨rfl, [⟨1, some ['5'], some (.data (.value 5))⟩], rfl, ⟨0, _, ['5'], rfl, rfl, rfl, rfl⟩,
    ⟨0, _, 0, rfl, rfl, rfl⟩, rfl, by decide⟩

end ByteMachine
