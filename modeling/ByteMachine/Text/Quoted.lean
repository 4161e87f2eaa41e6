import ByteMachine.Text.Numeral
import ByteMachine.Text.Printable

/-!
# Quoted text

Error messages quote the text they complain about.  A quotation stands between double quotes,
puts a backslash before a quote or a backslash, names the four usual control characters by a
letter, and spells every other unprintable character by its code point, so that no quotation
contains a character that is hard to see.

## Main definitions

- `Text.escape` — what stands for one character inside a quotation
- `Text.quoted` — the quotation of a text
-/

namespace ByteMachine.Text

/-- The code point of `c` in small hexadecimal digits, in the form `\u{…}`. -/
def codePoint (c : Char) : List Char :=
  ['\\', 'u', '\x7b'] ++ Nat.toDigits 16 c.toNat ++ ['\x7d']

/-- What stands for `c` inside a quotation. -/
def escape (c : Char) : List Char :=
  if c = '"' ∨ c = '\\' then ['\\', c]
  else if c = '\t' then ['\\', 't']
  else if c = '\r' then ['\\', 'r']
  else if c = '\n' then ['\\', 'n']
  else if c.toNat = 0 then ['\\', '0']
  else if isPrintable c then [c]
  else codePoint c

/-- A text between double quotes, with every character escaped that needs it. -/
def quoted (text : List Char) : List Char :=
  '"' :: text.flatMap escape ++ ['"']

end ByteMachine.Text
