import ByteMachine.Image
import ByteMachine.Proofs.Except
import ByteMachine.Proofs.Text.Digits
import Mathlib.Data.List.Forall2

/-!
# The format of program images

On a line of an image, nothing stands in front of the comment, or one to eight binary digits.  The
parser reads the digits first and looks at their value afterwards, so it accepts further zeros in
front of eight digits as well.  It reports the first line that is neither.

## Main definitions

- `Image.code` — what a line says
- `Image.InFormat` — the lines of the format
- `Image.IsLong` — the lines that are accepted beyond it
- `Image.fault` — what is wrong with any other line
- `Image.Denotes` — the byte that binary digits stand for

## Main statements

- `Image.lineRead` — what becomes of a line
- `Image.parseFrom_of_ok`, `Image.parseFrom_of_error` — what becomes of numbered lines
- `Image.parse_exact` — the texts that are images, their bytes, and the error of any other text
-/

namespace ByteMachine.Image

open Text (Numeral)

/-- What a line says: its text before the comment, without the blanks around it. -/
def code (line : List Char) : List Char :=
  Text.trim (Text.before isComment line)

def AllBinary (text : List Char) : Prop :=
  ∀ c ∈ text, c = '0' ∨ c = '1'

instance (text : List Char) : Decidable (AllBinary text) :=
  inferInstanceAs (Decidable (∀ c ∈ text, c = '0' ∨ c = '1'))

/-- The line says nothing, or one to eight binary digits. -/
def InFormat (line : List Char) : Prop :=
  code line = [] ∨ 1 ≤ (code line).length ∧ (code line).length ≤ 8 ∧ AllBinary (code line)

/-- The line says more than eight binary digits, and all but the last eight of them are zeros. -/
def IsLong (line : List Char) : Prop :=
  ∃ zeros digits, code line = zeros ++ digits ∧ zeros ≠ [] ∧ (∀ c ∈ zeros, c = '0') ∧
    digits.length = 8 ∧ AllBinary digits

/-- What is wrong with a line that is not accepted. -/
def fault (line : List Char) : ImageCause :=
  if AllBinary (code line) then .tooLarge (code line) else .notBinary (code line)

/-- The binary digits stand for the byte. -/
def Denotes (digits : List Char) (b : Byte) : Prop :=
  Numeral 2 digits b.toNat

/-- What the lines say that say anything. -/
def codes (ls : List (List Char)) : List (List Char) :=
  (ls.map code).filter (!·.isEmpty)

variable {text line : List Char} {ls : List (List Char)} {n number : Nat}

/-! ### Binary numerals -/

theorem all_isBinaryDigit : text.all isBinaryDigit = true ↔ AllBinary text := by
  simp [AllBinary, isBinaryDigit]

theorem isDigitOf_two_iff {c : Char} {d : Nat} :
    Text.IsDigitOf 2 c d ↔ (c = '0' ∨ c = '1') ∧ d = c.toNat - '0'.toNat := by
  rw [Text.isDigitOf_iff_of_le (by decide)]
  constructor
  · rintro ⟨hd, rfl⟩
    obtain rfl | rfl : d = 0 ∨ d = 1 := by omega
    · decide
    · decide
  · rintro ⟨rfl | rfl, rfl⟩
    · decide
    · decide

/-- The binary numerals are the words of binary digits, with the value that the parser computes. -/
theorem numeral_two_iff :
    Numeral 2 text n ↔ text ≠ [] ∧ AllBinary text ∧ n = Nat.ofDigitChars 2 text 0 := by
  constructor
  · intro h
    induction h with
    | digit hd =>
      obtain ⟨hc, rfl⟩ := isDigitOf_two_iff.1 hd
      refine ⟨List.cons_ne_nil _ _, List.forall_mem_singleton.2 hc, ?_⟩
      rw [Nat.ofDigitChars_cons, Nat.ofDigitChars_nil, Nat.mul_zero, Nat.zero_add]
    | @snoc ds m c d h hd ih =>
      obtain ⟨hc, rfl⟩ := isDigitOf_two_iff.1 hd
      obtain ⟨-, hall, rfl⟩ := ih
      refine ⟨List.concat_ne_nil _ _, List.forall_mem_append.2 ⟨hall, ?_⟩, ?_⟩
      · exact List.forall_mem_singleton.2 hc
      · rw [Nat.ofDigitChars_append, Nat.ofDigitChars_cons, Nat.ofDigitChars_nil, Nat.mul_comm]
  · rintro ⟨hne, hall, rfl⟩
    induction text using List.reverseRecOn with
    | nil => exact absurd rfl hne
    | append_singleton ds c ih =>
      obtain ⟨hds, hc⟩ := List.forall_mem_append.1 hall
      have hd := isDigitOf_two_iff.2 ⟨hc c List.mem_cons_self, rfl⟩
      rw [Nat.ofDigitChars_append, Nat.ofDigitChars_cons, Nat.ofDigitChars_nil, Nat.mul_comm]
      cases ds with
      | nil =>
        rw [Nat.ofDigitChars_nil, Nat.zero_mul, Nat.zero_add]
        exact .digit hd
      | cons first more => exact .snoc (ih (List.cons_ne_nil _ _) hds) hd

theorem AllBinary.zeros {zeros : List Char} (h : ∀ c ∈ zeros, c = '0') : AllBinary zeros :=
  fun c hc => .inl (h c hc)

/-- A word of binary digits stands for a byte if it has at most eight of them, not counting zeros in
front of eight. -/
theorem lt_256_iff (h : Numeral 2 text n) :
    n < 256 ↔ text.length ≤ 8 ∨ ∃ zeros digits, text = zeros ++ digits ∧ zeros ≠ [] ∧
      (∀ c ∈ zeros, c = '0') ∧ digits.length = 8 ∧ AllBinary digits := by
  constructor
  · intro hn
    by_cases hlength : text.length ≤ 8
    · exact .inl hlength
    right
    -- what stands in front of the last eight digits counts 256 times
    have hsplit : text = text.take (text.length - 8) ++ text.drop (text.length - 8) :=
      (List.take_append_drop _ _).symm
    have hfront : text.take (text.length - 8) ≠ [] :=
      List.ne_nil_of_length_pos (by rw [List.length_take]; omega)
    have hlast : (text.drop (text.length - 8)).length = 8 := by
      rw [List.length_drop]
      omega
    have hdigits : text.drop (text.length - 8) ≠ [] := List.ne_nil_of_length_pos (by omega)
    rw [hsplit] at h
    obtain ⟨m, k, hm, hk, rfl⟩ := Numeral.exists_of_append hfront hdigits h
    rw [hlast] at hn
    have hzero : m = 0 := by omega
    exact ⟨_, _, hsplit, hfront, (hm.eq_zero_iff (by decide)).1 hzero, hlast,
      (numeral_two_iff.1 hk).2.1⟩
  · rintro (hlength | ⟨zeros, digits, rfl, hzeros, hall, hlength, -⟩)
    · calc n < 2 ^ text.length := h.lt_pow
        _ ≤ 2 ^ 8 := Nat.pow_le_pow_right (by decide) hlength
    · have hdigits : digits ≠ [] := List.ne_nil_of_length_pos (by omega)
      obtain ⟨m, k, hm, hk, rfl⟩ := Numeral.exists_of_append hzeros hdigits h
      have hk := hk.lt_pow
      rw [hlength] at hk
      rw [(hm.eq_zero_iff (by decide)).2 hall, Nat.zero_mul, Nat.zero_add]
      exact hk

/-! ### Lines -/

/-- What becomes of a line: it has no byte, or the byte that its digits denote, or it is wrong. -/
inductive LineRead (line : List Char) : Prop where
  | blank (hcode : code line = []) (hread : parseLine line = .ok none)
  | byte {b : Byte} (hnumeral : Denotes (code line) b)
    (hread : parseLine line = .ok (some b))
  | notBinary (hne : code line ≠ []) (hcode : ¬AllBinary (code line))
    (hread : parseLine line = .error (.notBinary (code line)))
  | tooLarge {n : Nat} (hnumeral : Numeral 2 (code line) n) (hlarge : 256 ≤ n)
    (hread : parseLine line = .error (.tooLarge (code line)))

theorem lineRead (line : List Char) : LineRead line := by
  have hread : parseLine line =
      if (code line).isEmpty then .ok none
      else if !(code line).all isBinaryDigit then .error (.notBinary (code line))
      else if Nat.ofDigitChars 2 (code line) 0 < 256 then
        .ok (some (UInt8.ofNat (Nat.ofDigitChars 2 (code line) 0)))
      else .error (.tooLarge (code line)) := rfl
  by_cases hempty : code line = []
  · exact .blank hempty (by rw [hread, hempty]; rfl)
  rw [if_neg (by simpa using hempty)] at hread
  by_cases hall : AllBinary (code line)
  · rw [if_neg (by simpa using all_isBinaryDigit.2 hall)] at hread
    have hnumeral := numeral_two_iff.2 ⟨hempty, hall, rfl⟩
    by_cases hbyte : Nat.ofDigitChars 2 (code line) 0 < 256
    · rw [if_pos hbyte] at hread
      refine .byte ?_ hread
      rwa [Denotes, UInt8.toNat_ofNat_of_lt' hbyte]
    · rw [if_neg hbyte] at hread
      exact .tooLarge hnumeral (Nat.le_of_not_lt hbyte) hread
  · rw [if_pos (by simpa using mt all_isBinaryDigit.1 hall)] at hread
    exact .notBinary hempty hall hread

/-- The binary numerals below 256 are the codes that are accepted. -/
theorem inFormat_or_isLong_iff (h : Numeral 2 (code line) n) :
    InFormat line ∨ IsLong line ↔ n < 256 := by
  obtain ⟨hne, hall, -⟩ := numeral_two_iff.1 h
  have hpos : 1 ≤ (code line).length := List.length_pos_iff.2 hne
  rw [lt_256_iff h, InFormat, IsLong]
  simp only [hne, hpos, hall, true_and, and_true, false_or]

/-- A line that says anything is accepted only if it says binary digits. -/
theorem allBinary_of_accepted (h : InFormat line ∨ IsLong line) : AllBinary (code line) := by
  rcases h with (hnil | ⟨-, -, hall⟩) | ⟨zeros, digits, hcode, -, hzeros, -, hdigits⟩
  · rw [hnil]
    exact List.forall_mem_nil _
  · exact hall
  · rw [hcode]
    exact List.forall_mem_append.2 ⟨AllBinary.zeros hzeros, hdigits⟩

/-- No line of the format is too long. -/
theorem InFormat.not_isLong (h : InFormat line) : ¬IsLong line := by
  rintro ⟨zeros, digits, hcode, hzeros, -, hdigits, -⟩
  have hlength := congrArg List.length hcode
  have hpos := List.length_pos_iff.2 hzeros
  rw [List.length_append] at hlength
  rcases h with hnil | ⟨-, hle, -⟩
  · rw [hnil, List.length_nil] at hlength
    omega
  · omega

theorem accepted_of_ok {found : Option Byte} (h : parseLine line = .ok found) :
    (InFormat line ∨ IsLong line) ∧ List.Forall₂ Denotes (codes [line]) found.toList := by
  cases lineRead line with
  | blank hcode hread =>
    obtain rfl := Except.ok.inj (hread.symm.trans h)
    rw [codes, List.map_singleton, hcode]
    exact ⟨.inl (.inl hcode), .nil⟩
  | @byte b hnumeral hread =>
    obtain rfl := Except.ok.inj (hread.symm.trans h)
    have hcodes : codes [line] = [code line] := by simp [codes, hnumeral.ne_nil]
    rw [hcodes]
    exact ⟨(inFormat_or_isLong_iff hnumeral).2 b.toNat_lt, .cons hnumeral .nil⟩
  | notBinary _ _ hread | tooLarge _ _ hread => exact nomatch hread.symm.trans h

theorem fault_of_error {cause : ImageCause} (h : parseLine line = .error cause) :
    ¬(InFormat line ∨ IsLong line) ∧ fault line = cause := by
  cases lineRead line with
  | blank _ hread | byte _ hread => exact nomatch hread.symm.trans h
  | notBinary hne hcode hread =>
    obtain rfl := Except.error.inj (hread.symm.trans h)
    exact ⟨fun haccepted => hcode (allBinary_of_accepted haccepted), if_neg hcode⟩
  | tooLarge hnumeral hlarge hread =>
    obtain rfl := Except.error.inj (hread.symm.trans h)
    refine ⟨fun haccepted => ?_, if_pos (numeral_two_iff.1 hnumeral).2.1⟩
    exact Nat.not_le.2 ((inFormat_or_isLong_iff hnumeral).1 haccepted) hlarge

/-! ### Numbered lines -/

theorem codes_cons (line : List Char) (rest : List (List Char)) :
    codes (line :: rest) = codes [line] ++ codes rest := by
  rw [codes, ← List.singleton_append, List.map_append, List.filter_append]
  rfl

/-- A line that is read leaves the image with its byte, if it has one, for the rest. -/
theorem exists_parseFrom_cons {found : Option Byte} (h : parseLine line = .ok found)
    (image : Image) (number : Nat) (rest : List (List Char)) :
    ∃ next : Image, next.bytes = image.bytes ++ found.toList ∧
      parseFrom image number (line :: rest) = parseFrom next (number + 1) rest := by
  rw [parseFrom, h]
  cases found with
  | none => exact ⟨image, (List.append_nil _).symm, rfl⟩
  | some b => exact ⟨image.push b (Text.trim line), rfl, rfl⟩

theorem parseFrom_of_ok {image image' : Image} (h : parseFrom image number ls = .ok image') :
    (∀ line ∈ ls, InFormat line ∨ IsLong line) ∧
      ∃ more, image'.bytes = image.bytes ++ more ∧ List.Forall₂ Denotes (codes ls) more := by
  induction ls generalizing image number with
  | nil =>
    obtain rfl := Except.ok.inj h
    exact ⟨List.forall_mem_nil _, [], (List.append_nil _).symm, .nil⟩
  | cons line rest ih =>
    cases hline : parseLine line with
    | error cause =>
      rw [parseFrom, hline] at h
      exact nomatch h
    | ok found =>
      obtain ⟨next, hbytes, hnext⟩ := exists_parseFrom_cons hline image number rest
      obtain ⟨hfirst, hbyte⟩ := accepted_of_ok hline
      obtain ⟨hrest, more, hmore, hdenoted⟩ := ih (hnext ▸ h)
      refine ⟨List.forall_mem_cons.2 ⟨hfirst, hrest⟩, found.toList ++ more, ?_, ?_⟩
      · rw [hmore, hbytes, List.append_assoc]
      · rw [codes_cons]
        exact List.rel_append hbyte hdenoted

theorem parseFrom_of_error {image : Image} {e : ImageError}
    (h : parseFrom image number ls = .error e) :
    ∃ before line after, ls = before ++ line :: after ∧
      (∀ line ∈ before, InFormat line ∨ IsLong line) ∧ ¬(InFormat line ∨ IsLong line) ∧
      e = .parse (before.length + number) (fault line) := by
  induction ls generalizing image number with
  | nil => exact nomatch h
  | cons line rest ih =>
    cases hline : parseLine line with
    | error cause =>
      rw [parseFrom, hline] at h
      obtain rfl := Except.error.inj h
      obtain ⟨hwrong, rfl⟩ := fault_of_error hline
      refine ⟨[], line, rest, rfl, List.forall_mem_nil _, hwrong, ?_⟩
      rw [List.length_nil, Nat.zero_add]
    | ok found =>
      obtain ⟨next, -, hnext⟩ := exists_parseFrom_cons hline image number rest
      obtain ⟨before, wrong, after, rfl, hbefore, hwrong, rfl⟩ := ih (hnext ▸ h)
      refine ⟨line :: before, wrong, after, rfl, ?_, hwrong, ?_⟩
      · exact List.forall_mem_cons.2 ⟨(accepted_of_ok hline).1, hbefore⟩
      · rw [List.length_cons, Nat.add_assoc, Nat.add_comm 1]

/-! ### Texts -/

theorem parse_of_ok {text : String} {image : Image} (h : parse text = .ok image) :
    (∀ line ∈ Text.lines text.toList, InFormat line ∨ IsLong line) ∧
      List.Forall₂ Denotes (codes (Text.lines text.toList)) image.bytes := by
  obtain ⟨haccepted, more, hmore, hdenoted⟩ := parseFrom_of_ok h
  rw [hmore]
  exact ⟨haccepted, hdenoted⟩

theorem parse_of_error {text : String} {e : ImageError} (h : parse text = .error e) :
    ∃ before line after, Text.lines text.toList = before ++ line :: after ∧
      (∀ line ∈ before, InFormat line ∨ IsLong line) ∧ ¬(InFormat line ∨ IsLong line) ∧
      e = .parse (before.length + 1) (fault line) :=
  parseFrom_of_error h

theorem exists_parse_iff {text : String} :
    (∃ image, parse text = .ok image) ↔
      ∀ line ∈ Text.lines text.toList, InFormat line ∨ IsLong line := by
  refine ⟨fun ⟨image, himage⟩ => (parse_of_ok himage).1, fun hall => ?_⟩
  cases hparse : parse text with
  | ok image => exact ⟨image, rfl⟩
  | error e =>
    obtain ⟨before, line, after, hsplit, -, hwrong, -⟩ := parse_of_error hparse
    have hmem : line ∈ Text.lines text.toList := by
      rw [hsplit]
      exact List.mem_append_right _ List.mem_cons_self
    exact absurd (hall line hmem) hwrong

/-- **Which texts are images.**  A text is accepted exactly if every line says nothing, or one to
eight binary digits, or more than eight of which all but the last eight are zeros, and this last
form is not in the format.  The bytes are the values of what the lines say, in their order and
without gaps.  Otherwise the error names the first line that is not accepted, counted from 1. -/
theorem parse_exact (text : String) :
    ((∃ image, parse text = .ok image) ↔
      ∀ line ∈ Text.lines text.toList, InFormat line ∨ IsLong line) ∧
    (∀ image, parse text = .ok image →
      List.Forall₂ Denotes (codes (Text.lines text.toList)) image.bytes) ∧
    (∀ e, parse text = .error e →
      ∃ before line after, Text.lines text.toList = before ++ line :: after ∧
        (∀ line ∈ before, InFormat line ∨ IsLong line) ∧ ¬(InFormat line ∨ IsLong line) ∧
        e = .parse (before.length + 1) (fault line)) ∧
    ∀ line, ¬(InFormat line ∧ IsLong line) :=
  ⟨exists_parse_iff, fun _ h => (parse_of_ok h).2, fun _ h => parse_of_error h,
    fun _ h => h.1.not_isLong h.2⟩

/-- The third line is too long and accepted, the fourth one is wrong. -/
theorem parse_exact_wrongFourth :
    parse " 1 # one\n\n0000000010\n102" = .error (.parse 4 (.notBinary ['1', '0', '2'])) ∧
      ∃ before line after,
        Text.lines " 1 # one\n\n0000000010\n102".toList = before ++ line :: after ∧
          before.length + 1 = 4 ∧ fault line = .notBinary ['1', '0', '2'] ∧ ¬InFormat line := by
  have herror : parse " 1 # one\n\n0000000010\n102" =
      .error (.parse 4 (.notBinary ['1', '0', '2'])) := by decide +kernel
  obtain ⟨before, line, after, hsplit, -, hwrong, heq⟩ := (parse_exact _).2.2.1 _ herror
  obtain ⟨hnumber, hcause⟩ := ImageError.parse.inj heq
  exact ⟨herror, before, line, after, hsplit, hnumber.symm, hcause.symm,
    fun h => hwrong (.inl h)⟩

/-- Nine digits on a line are not in the format, and are accepted. -/
theorem nine_digits_accepted :
    ∃ image, parse "000000001" = .ok image ∧ image.bytes = [1] ∧
      ∃ line ∈ Text.lines "000000001".toList, ¬InFormat line := by
  refine ⟨⟨[1], ["000000001".toList]⟩, by decide +kernel, rfl, "000000001".toList, ?_, ?_⟩
  · decide +kernel
  · rintro (hnil | ⟨-, hlength, -⟩)
    · exact absurd hnil (by decide +kernel)
    · exact absurd hlength (by decide +kernel)

end ByteMachine.Image
