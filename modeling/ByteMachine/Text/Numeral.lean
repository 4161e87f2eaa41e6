/-!
# Numerals

Writing and reading of numbers with a fixed base.  Reading accepts capital and small letters as
digits and any number of leading zeros.

## Main definitions

- `Text.decimal`, `Text.binary`, `Text.hex` — numerals, the last two padded with zeros
- `Text.natural?` — one or more digits, read back
- `Text.unsigned?`, `Text.signed?` — the same with an optional sign
-/

namespace ByteMachine.Text

def decimal (n : Nat) : List Char :=
  Nat.toDigits 10 n

/-- The binary numeral of `n`, at least `width` digits long. -/
def binary (width n : Nat) : List Char :=
  (Nat.toDigits 2 n).leftpad width '0'

/-- The hexadecimal numeral of `n` in capital letters, at least `width` digits long. -/
def hex (width n : Nat) : List Char :=
  ((Nat.toDigits 16 n).map Char.toUpper).leftpad width '0'

/-- The value of a character as a digit of the given base, at most 36. -/
def digit? (base : Nat) (c : Char) : Option Nat :=
  let value? :=
    if '0' ≤ c ∧ c ≤ '9' then some (c.toNat - '0'.toNat)
    else if 'a' ≤ c ∧ c ≤ 'z' then some (c.toNat - 'a'.toNat + 10)
    else if 'A' ≤ c ∧ c ≤ 'Z' then some (c.toNat - 'A'.toNat + 10)
    else none
  value?.filter (· < base)

/-- The value of the digits `text` behind digits of value `acc`. -/
def digitsFrom? (base : Nat) : Nat → List Char → Option Nat
  | acc, [] => some acc
  | acc, c :: rest => do digitsFrom? base (acc * base + (← digit? base c)) rest

/-- The value of one or more digits. -/
def natural? (base : Nat) (text : List Char) : Option Nat :=
  if text.isEmpty then none else digitsFrom? base 0 text

/-- The value of one or more digits behind an optional plus sign. -/
def unsigned? (base : Nat) : List Char → Option Nat
  | '+' :: digits => natural? base digits
  | text => natural? base text

/-- The value of one or more digits behind an optional sign. -/
def signed? (base : Nat) : List Char → Option Int
  | '-' :: digits => (natural? base digits).map fun n => -(n : Int)
  | text => (unsigned? base text).map fun n => (n : Int)

end ByteMachine.Text
