import ByteMachine.Image
import ByteMachine.Proofs.Listing.Row
import ByteMachine.Proofs.Listing.Tiling
import ByteMachine.Proofs.Text.Lines

/-!
# Reading a written image

An image is written with the instructions as comments, so that only binary digits and comments stand
in it.  The parser reads the bytes of one row after the other, and these make up the code.

## Main definitions

- `Image.Holds` — the bytes that lines have for the parser, whatever lines stand above them

## Main statements

- `Image.parseLine_binary` — a line of binary digits, with or without a comment
- `Image.holds_rowLines` — the lines of a row
- `Image.holds_write` — the lines of a whole image
- `Image.parse_write` — the image is found again
-/

namespace ByteMachine.Image

open Text (binary)

/-! ### Lines of binary digits -/

theorem isBinaryDigit_digitChar {d : Nat} (h : d < 2) : isBinaryDigit d.digitChar = true := by
  obtain rfl | rfl : d = 0 ∨ d = 1 := by omega
  all_goals rfl

theorem isBinaryDigit_of_mem_toDigits {n : Nat} {c : Char} (h : c ∈ Nat.toDigits 2 n) :
    isBinaryDigit c = true := by
  induction n using Nat.base_induction 2 (by decide) with
  | single d hd =>
    rw [Nat.toDigits_of_lt_base hd, List.mem_singleton] at h
    exact h ▸ isBinaryDigit_digitChar hd
  | digit n d hd hn ih =>
    rw [← Nat.toDigits_append_toDigits (by decide) hn hd, List.mem_append,
      Nat.toDigits_of_lt_base hd, List.mem_singleton] at h
    rcases h with h | rfl
    · exact ih h
    · exact isBinaryDigit_digitChar hd

theorem isBinaryDigit_of_mem_binary {width n : Nat} {c : Char} (h : c ∈ binary width n) :
    isBinaryDigit c = true := by
  rcases List.mem_append.1 h with h | h
  · obtain rfl : c = '0' := (List.mem_replicate.1 h).2
    rfl
  · exact isBinaryDigit_of_mem_toDigits h

theorem isComment_of_isBinaryDigit {c : Char} (h : isBinaryDigit c = true) :
    isComment c = false := by
  rw [isBinaryDigit, Bool.or_eq_true, decide_eq_true_eq, decide_eq_true_eq] at h
  rcases h with rfl | rfl <;> rfl

/-- The digits of a byte are a word. -/
theorem isWord_binary (b : Byte) : Text.IsWord (binary 8 b.toNat) :=
  Text.isWord_of_isDigit (by simp [binary, List.leftpad]) fun _ hc => Text.isDigit_of_mem_binary hc

/-- What stands behind the digits of a byte does not matter, if nothing but blanks is in front of
the comment. -/
theorem parseLine_binary (b : Byte) {rest : List Char}
    (h : ∀ c ∈ Text.before isComment rest, Text.isBlank c = true) :
    parseLine (binary 8 b.toNat ++ rest) = .ok (some b) := by
  have hword := isWord_binary b
  have hbefore : Text.before isComment (binary 8 b.toNat ++ rest) =
      binary 8 b.toNat ++ Text.before isComment rest := by
    apply List.takeWhile_append_of_pos
    intro c hc
    rw [isComment_of_isBinaryDigit (isBinaryDigit_of_mem_binary hc)]
    rfl
  have hcode : Text.trim (binary 8 b.toNat ++ Text.before isComment rest) = binary 8 b.toNat := by
    apply Text.trim_append
    · exact fun c hc => hword.no_blank c (List.mem_of_head? hc)
    · exact fun c hc => hword.no_blank c (List.mem_of_getLast? hc)
    · exact h
  have hempty : (binary 8 b.toNat).isEmpty = false := by simp [hword.1]
  have hall : (binary 8 b.toNat).all isBinaryDigit = true :=
    List.all_eq_true.2 fun c hc => isBinaryDigit_of_mem_binary hc
  simp only [parseLine, hbefore, hcode, hempty, hall, Text.ofDigitChars_binary, b.toNat_lt, if_true,
    UInt8.ofNat_toNat]
  rfl

/-! ### Bytes of lines -/

/-- The parser puts these bytes behind its image when it reads these lines, and goes on behind
them. -/
def Holds (ls : List (List Char)) (bytes : List Byte) : Prop :=
  ∀ image number rest, ∃ next : Image, next.bytes = image.bytes ++ bytes ∧
    parseFrom image number (ls ++ rest) = parseFrom next (number + ls.length) rest

theorem holds_nil : Holds [] [] := fun image _ _ => ⟨image, (List.append_nil _).symm, rfl⟩

/-- A line with a byte. -/
theorem holds_byte {line : List Char} {b : Byte} (h : parseLine line = .ok (some b)) :
    Holds [line] [b] := by
  intro image number rest
  refine ⟨image.push b (Text.trim line), rfl, ?_⟩
  rw [List.singleton_append, parseFrom, h]
  rfl

/-- A line without a byte. -/
theorem holds_blank {line : List Char} (h : parseLine line = .ok none) : Holds [line] [] := by
  intro image number rest
  refine ⟨image, (List.append_nil _).symm, ?_⟩
  rw [List.singleton_append, parseFrom, h]
  rfl

namespace Holds

variable {ls more : List (List Char)} {bytes others : List Byte}

theorem append (h : Holds ls bytes) (hmore : Holds more others) :
    Holds (ls ++ more) (bytes ++ others) := by
  intro image number rest
  obtain ⟨mid, hbytes, hparse⟩ := h image number (more ++ rest)
  obtain ⟨last, hbytes', hparse'⟩ := hmore mid (number + ls.length) rest
  refine ⟨last, by rw [hbytes', hbytes, List.append_assoc], ?_⟩
  rw [List.append_assoc, hparse, hparse', List.length_append, Nat.add_assoc]

theorem flatMap {α : Type} {lines : α → List (List Char)} {bytes : α → List Byte} {xs : List α}
    (h : ∀ x ∈ xs, Holds (lines x) (bytes x)) : Holds (xs.flatMap lines) (xs.flatMap bytes) := by
  induction xs with
  | nil => exact holds_nil
  | cons x xs ih =>
    have hrest := ih fun y hy => h y (List.mem_cons_of_mem _ hy)
    exact (h x List.mem_cons_self).append hrest

/-- A text whose lines hold bytes is an image of these. -/
theorem parse {text : String} (h : Holds (Text.lines text.toList) bytes) :
    ∃ image, Image.parse text = .ok image ∧ image.bytes = bytes := by
  obtain ⟨image, hbytes, hparse⟩ := h empty 1 []
  rw [List.append_nil] at hparse
  exact ⟨image, hparse, hbytes⟩

end Holds

/-! ### The lines of an image -/

theorem holds_binary (b : Byte) : Holds [binary 8 b.toNat] [b] := by
  have hnone : ∀ c ∈ Text.before isComment [], Text.isBlank c = true := fun c hc => nomatch hc
  have hline := parseLine_binary b hnone
  rw [List.append_nil] at hline
  exact holds_byte hline

/-- The first line of a row has the first byte of its chunk, and its comment has nothing. -/
theorem holds_commented (b : Byte) (comment : List Char) :
    Holds [binary 8 b.toNat ++ ' ' :: '#' :: comment] [b] := by
  refine holds_byte (parseLine_binary b fun c hc => ?_)
  obtain rfl : c = ' ' := List.mem_singleton.1 hc
  rfl

theorem holds_rowLines (code : List Byte) (row : Row) :
    Holds (rowLines code row) (row.slice code) := by
  unfold rowLines
  cases row.slice code with
  | nil => exact holds_nil
  | cons first rest =>
    have hrest : Holds (rest.map fun b => binary 8 b.toNat) rest := by
      have := Holds.flatMap fun b (_ : b ∈ rest) => holds_binary b
      rwa [List.flatMap_singleton', ← List.map_eq_flatMap] at this
    have hfirst := holds_commented first
      (' ' :: addressText row.addr ++ [':', ' '] ++ row.chunk.chars)
    simpa using hfirst.append hrest

theorem holds_comment (line : List Char) (h : Text.before isComment line = []) :
    Holds [line] [] := by
  have hline : parseLine line = .ok none := by
    rw [parseLine, h]
    rfl
  exact holds_blank hline

theorem holds_heading (size : Nat) : Holds (heading size) [] := by
  have htitle := holds_comment "# LS-8 program image".toList rfl
  have hsize := holds_comment ("# ".toList ++ Text.decimal size ++ " bytes".toList) rfl
  exact (htitle.append hsize).append (holds_comment [] rfl)

/-! ### The text of an image -/

/-- The characters that are neither letters nor digits, but stand in an image. -/
def marks : List Char := [' ', '#', '-', ':', ',']

theorem isAlphanum_of_mem_binary {b : Byte} {c : Char} (h : c ∈ binary 8 b.toNat) :
    c.isAlphanum = true :=
  Text.isAlphanum_of_isDigit (Text.isDigit_of_mem_binary h)

theorem mem_heading {size : Nat} {line : List Char} {c : Char} (hline : line ∈ heading size)
    (hc : c ∈ line) : c.isAlphanum = true ∨ c ∈ marks := by
  have hfixed : ∀ text : List Char, (text.all fun c => c.isAlphanum || marks.contains c) = true →
      ∀ c ∈ text, c.isAlphanum = true ∨ c ∈ marks := by
    intro text h c hc
    simpa using List.all_eq_true.1 h c hc
  simp only [heading, List.mem_cons, List.not_mem_nil, or_false] at hline
  rcases hline with rfl | rfl | rfl
  · exact hfixed _ (by decide) c hc
  · rcases List.mem_append.1 hc with hc | hc
    · rcases List.mem_append.1 hc with hc | hc
      · exact hfixed _ (by decide) c hc
      · exact .inl (Text.isAlphanum_of_isDigit (Text.isDigit_of_mem_decimal hc))
    · exact hfixed _ (by decide) c hc
  · exact nomatch hc

theorem mem_rowLines {code : List Byte} {row : Row} {line : List Char} {c : Char}
    (hline : line ∈ rowLines code row) (hc : c ∈ line) : c.isAlphanum = true ∨ c ∈ marks := by
  unfold rowLines at hline
  cases hslice : row.slice code with
  | nil =>
    rw [hslice] at hline
    exact nomatch hline
  | cons first rest =>
    rw [hslice, List.map_cons] at hline
    rcases List.mem_cons.1 hline with rfl | hline
    · simp only [List.mem_append, List.mem_cons, List.not_mem_nil, or_false] at hc
      rcases hc with (((hc | hc) | hc) | hc) | hc
      · exact .inl (isAlphanum_of_mem_binary hc)
      · rcases hc with rfl | rfl | rfl <;> exact .inr (by decide)
      · exact .inl ((isWord_addressText row.addr).2 c hc)
      · rcases hc with rfl | rfl <;> exact .inr (by decide)
      · rcases Chunk.mem_chars hc with hc | rfl | rfl
        · exact .inl hc
        · exact .inr (by decide)
        · exact .inr (by decide)
    · obtain ⟨b, -, rfl⟩ := List.mem_map.1 hline
      exact .inl (isAlphanum_of_mem_binary hc)

/-- The lines of an image text are found again. -/
theorem lines_write (bytes : List Byte) :
    Text.lines (write bytes).toList =
      heading bytes.length ++ (listing bytes).flatMap (rowLines bytes) := by
  have hmarks : ∀ line ∈ heading bytes.length ++ (listing bytes).flatMap (rowLines bytes),
      ∀ c ∈ line, c.isAlphanum = true ∨ c ∈ marks := by
    intro line hline c hc
    rcases List.mem_append.1 hline with hline | hline
    · exact mem_heading hline hc
    · obtain ⟨row, -, hline⟩ := List.mem_flatMap.1 hline
      exact mem_rowLines hline hc
  have hending : ∀ c, c.isAlphanum = false → c ∉ marks →
      ∀ line ∈ heading bytes.length ++ (listing bytes).flatMap (rowLines bytes), c ∉ line := by
    intro c halnum hmark line hline hc
    rcases hmarks line hline c hc with h | h
    · exact Text.ne_of_isAlphanum h halnum rfl
    · exact hmark h
  rw [write, String.toList_ofList]
  apply Text.lines_flatMap
  intro line hline
  exact ⟨hending '\n' rfl (by decide) line hline, hending '\r' rfl (by decide) line hline⟩

theorem holds_write (bytes : List Byte) : Holds (Text.lines (write bytes).toList) bytes := by
  have hrows : Holds ((listing bytes).flatMap (rowLines bytes)) bytes := by
    have h := Holds.flatMap fun row (_ : row ∈ listing bytes) => holds_rowLines bytes row
    rwa [flatMap_slice_listing] at h
  rw [lines_write]
  exact (holds_heading bytes.length).append hrows

/-- **Writing an image and parsing it back loses nothing.**  The parser accepts the text written for
any bytes, be they instructions, data or an instruction that is cut off at the end, and finds these
bytes in it. -/
theorem parse_write (bytes : List Byte) :
    ∃ image, parse (write bytes) = .ok image ∧ image.bytes = bytes :=
  (holds_write bytes).parse

end ByteMachine.Image
