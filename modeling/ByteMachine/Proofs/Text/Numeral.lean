import ByteMachine.Text.Numeral

/-!
# Reading numerals back

A numeral with a base of at most ten is a word of decimal digits, and reading it gives the number it
was written for, however many zeros stand in front of it.

## Main statements

- `Text.natural?_leftpad` — a padded numeral is read back
- `Text.natural?_decimal`, `Text.natural?_binary` — the numerals of the machine's texts
- `Text.ofDigitChars_binary` — so is a binary numeral by the library
- `Text.head?_decimal` — only zero begins with a zero
- `Text.unsigned?_eq`, `Text.signed?_eq` — a numeral needs no sign
-/

namespace ByteMachine.Text

/-! ### Digits -/

theorem digit?_digitChar {base d : Nat} (hbase : base ≤ 10) (h : d < base) :
    digit? base d.digitChar = some d := by
  have htoNat : d.digitChar.toNat = 48 + d := Nat.toNat_digitChar_of_lt_ten (by omega)
  have hlow : '0' ≤ d.digitChar := by
    show 48 ≤ d.digitChar.toNat
    omega
  have hhigh : d.digitChar ≤ '9' := by
    show d.digitChar.toNat ≤ 57
    omega
  have hvalue : d.digitChar.toNat - '0'.toNat = d := by
    show d.digitChar.toNat - 48 = d
    omega
  simp only [digit?, hlow, hhigh, and_self, if_true, hvalue]
  simp [h]

theorem digitsFrom?_append (base acc : Nat) (xs ys : List Char) :
    digitsFrom? base acc (xs ++ ys) =
      (digitsFrom? base acc xs).bind fun value => digitsFrom? base value ys := by
  induction xs generalizing acc with
  | nil => rfl
  | cons c rest ih =>
    cases hc : digit? base c with
    | none => simp [digitsFrom?, hc]
    | some d => simpa [digitsFrom?, hc] using ih (acc * base + d)

theorem digitsFrom?_toDigits {base : Nat} (h1 : 1 < base) (h10 : base ≤ 10) (n : Nat) :
    digitsFrom? base 0 (Nat.toDigits base n) = some n := by
  -- the last digit is the one that is read last
  induction n using Nat.base_induction base h1 with
  | single m hm => simp [Nat.toDigits_of_lt_base hm, digitsFrom?, digit?_digitChar h10 hm]
  | digit m d hd hm ih =>
    rw [← Nat.toDigits_append_toDigits h1 hm hd, digitsFrom?_append, ih,
      Nat.toDigits_of_lt_base hd]
    simp [digitsFrom?, digit?_digitChar h10 hd, Nat.mul_comm]

theorem digitsFrom?_replicate_zero {base : Nat} (h : 0 < base) (n : Nat) :
    digitsFrom? base 0 (List.replicate n '0') = some 0 := by
  induction n with
  | zero => rfl
  | succ n ih =>
    have h0 : digit? base '0' = some 0 := by simp [digit?, h]
    rw [List.replicate_succ, digitsFrom?, h0]
    simpa using ih

/-! ### Numerals -/

/-- A numeral is read back, and zeros in front of it do not count. -/
theorem natural?_leftpad {base : Nat} (h1 : 1 < base) (h10 : base ≤ 10) (width n : Nat) :
    natural? base ((Nat.toDigits base n).leftpad width '0') = some n := by
  rw [natural?, if_neg (by simp), List.leftpad, digitsFrom?_append,
    digitsFrom?_replicate_zero (by omega)]
  exact digitsFrom?_toDigits h1 h10 n

theorem natural?_decimal (n : Nat) : natural? 10 (decimal n) = some n := by
  simpa [List.leftpad, decimal] using natural?_leftpad (by decide : 1 < 10) (by decide) 0 n

theorem natural?_binary (width n : Nat) : natural? 2 (binary width n) = some n :=
  natural?_leftpad (by decide) (by decide) width n

theorem ofDigitChars_binary (width n : Nat) : Nat.ofDigitChars 2 (binary width n) 0 = n := by
  rw [binary, List.leftpad, Nat.ofDigitChars_append, Nat.ofDigitChars_replicate_zero, Nat.mul_zero,
    Nat.ofDigitChars_toDigits (by decide) (by decide)]

theorem isDigit_of_mem_leftpad {base width n : Nat} {c : Char} (h0 : 0 < base) (h10 : base ≤ 10)
    (h : c ∈ (Nat.toDigits base n).leftpad width '0') : c.isDigit := by
  rcases List.mem_append.1 h with h | h
  · obtain rfl : c = '0' := (List.mem_replicate.1 h).2
    decide
  · exact Nat.isDigit_of_mem_toDigits h0 h10 h

theorem isDigit_of_mem_decimal {n : Nat} {c : Char} (h : c ∈ decimal n) : c.isDigit :=
  Nat.isDigit_of_mem_toDigits (by decide) (by decide) h

theorem isDigit_of_mem_binary {width n : Nat} {c : Char} (h : c ∈ binary width n) : c.isDigit :=
  isDigit_of_mem_leftpad (by decide) (by decide) h

/-- Only zero begins with a zero. -/
theorem head?_decimal {n : Nat} (h : 0 < n) : (decimal n).head? ≠ some '0' := by
  -- the first digit is that of the number without its last digit
  induction n using Nat.base_induction 10 (by decide) with
  | single d hd =>
    intro hzero
    rw [decimal, Nat.toDigits_of_lt_base hd] at hzero
    have htoNat := congrArg Char.toNat (Option.some.inj hzero)
    rw [Nat.toNat_digitChar_of_lt_ten hd] at htoNat
    have : '0'.toNat = 48 := rfl
    omega
  | digit m d hd hm ih =>
    have hne : decimal m ≠ [] := Nat.toDigits_ne_nil
    rw [decimal, ← Nat.toDigits_append_toDigits (by decide) hm hd, List.head?_append,
      ← decimal, List.head?_eq_some_head hne, Option.some_or, ← List.head?_eq_some_head hne]
    exact ih hm

/-! ### Signs -/

/-- Digits are read without a sign. -/
theorem unsigned?_eq {base : Nat} {text : List Char} (h : ∀ c ∈ text, c.isDigit) :
    unsigned? base text = natural? base text := by
  unfold unsigned?
  split
  · have : '+'.isDigit := h '+' (by simp)
    simp at this
  · rfl

theorem signed?_eq {base : Nat} {text : List Char} (h : ∀ c ∈ text, c.isDigit) :
    signed? base text = (natural? base text).map fun n => (n : Int) := by
  unfold signed?
  split
  · have : '-'.isDigit := h '-' (by simp)
    simp at this
  · rw [unsigned?_eq h]

end ByteMachine.Text
