/-!
# Blanks

A blank is a character with the Unicode property `White_Space`.  Both source languages ignore
blanks at the ends of a line, and assembler lines use the first blank to end the mnemonic.

## Main definitions

- `Text.isBlank` — the property
- `Text.trim` — a text without the blanks at its two ends
- `Text.splitAtBlank` — the part before the first blank, and the part after it
-/

namespace ByteMachine.Text

/-- Whether `c` has the Unicode property `White_Space`. -/
def isBlank (c : Char) : Bool :=
  let n := c.toNat
  (0x09 ≤ n && n ≤ 0x0D) || n == 0x20 || n == 0x85 || n == 0xA0 || n == 0x1680 ||
    (0x2000 ≤ n && n ≤ 0x200A) || n == 0x2028 || n == 0x2029 || n == 0x202F || n == 0x205F ||
    n == 0x3000

def trimRight (text : List Char) : List Char :=
  (text.reverse.dropWhile isBlank).reverse

/-- A text without the blanks at its two ends. -/
def trim (text : List Char) : List Char :=
  trimRight (text.dropWhile isBlank)

def hasBlank (text : List Char) : Bool :=
  text.any isBlank

/-- The part before the first blank and the part after it; the latter is empty, too, when there
is no blank. -/
def splitAtBlank (text : List Char) : List Char × List Char :=
  (text.takeWhile (!isBlank ·), (text.dropWhile (!isBlank ·)).drop 1)

/-- Trimming on the right leaves no blank at the end. -/
theorem not_isBlank_of_getLast?_trimRight {text : List Char} {c : Char}
    (h : (trimRight text).getLast? = some c) : isBlank c = false := by
  rw [trimRight, List.getLast?_reverse] at h
  have := List.head?_dropWhile_not isBlank text.reverse
  rw [h] at this
  simpa using this

end ByteMachine.Text
