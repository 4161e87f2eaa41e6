import ByteMachine.Text.Quoted

/-!
# Assembler errors

Every error belongs to a line of the source, counted from 1.

## Main definitions

- `Asm.Cause` — what is wrong with a line
- `Asm.Error` — a cause with the number of its line
-/

namespace ByteMachine.Asm

/-- The name of a label, in capital letters. -/
abbrev Label := List Char

/-- What is wrong with the form of a line. -/
inductive Malformed where
  /-- The text before a colon is no label; it is kept as written. -/
  | label (written : List Char)
  /-- The operation takes `expected` operands. -/
  | operandNumber (mnemonic : List Char) (expected found : Nat)
  /-- The operand is neither a number nor a label. -/
  | operand (written : List Char)
  /-- The operand begins like a number but is none. -/
  | number (written : List Char)
deriving DecidableEq, Repr

inductive Cause where
  | malformed (what : Malformed)
  | unknownMnemonic (mnemonic : List Char)
  | undefinedLabel (label : Label)
  | repeatedLabel (label : Label)
  | notByte (value : Int)
  | noRegister (written : List Char)
deriving DecidableEq, Repr

structure Error where
  line : Nat
  cause : Cause
deriving DecidableEq, Repr

def Malformed.message : Malformed → String
  | .label written => "invalid label " ++ String.ofList (Text.quoted written)
  | .operandNumber mnemonic expected found =>
    String.ofList mnemonic ++ s!" takes {expected} operand(s), found {found}"
  | .operand written => "invalid operand " ++ String.ofList (Text.quoted written)
  | .number written => "invalid number " ++ String.ofList (Text.quoted written)

/-- The wording of an error. -/
def Error.message : Error → String
  | ⟨line, .malformed what⟩ => s!"syntax error on line {line}: " ++ what.message
  | ⟨line, .unknownMnemonic m⟩ => s!"unknown mnemonic on line {line}: " ++ String.ofList m
  | ⟨line, .undefinedLabel l⟩ => s!"undefined label on line {line}: " ++ String.ofList l
  | ⟨line, .repeatedLabel l⟩ => s!"duplicate label on line {line}: " ++ String.ofList l
  | ⟨line, .notByte v⟩ => s!"value out of range on line {line}: {v}"
  | ⟨line, .noRegister w⟩ => s!"invalid register on line {line}: " ++ String.ofList w

/-- A result that belongs to a line. -/
def onLine {α : Type} (line : Nat) : Except Cause α → Except Error α
  | .ok value => .ok value
  | .error cause => .error ⟨line, cause⟩

end ByteMachine.Asm
