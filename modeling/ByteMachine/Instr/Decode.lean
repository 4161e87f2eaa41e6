import ByteMachine.Instr

/-!
# Decoding

Reading the instruction at an address.  The whole opcode byte decides: a byte that is none of the
nine opcodes is reported as such even where its high bits would promise operands that are missing.

## Main definitions

- `DecodeError` — an unknown opcode, or a byte that is not there
- `decode` — the instruction at an address
-/

namespace ByteMachine

/-- Why no instruction can be read at an address. -/
inductive DecodeError where
  /-- The byte at `pc` is no opcode. -/
  | unknownOpcode (opcode : Byte) (pc : Nat)
  /-- The opcode or one of its operands lies outside the code. -/
  | memory (e : MemoryError)
deriving DecidableEq, Repr

/-- A byte in eight binary digits behind the mark of the base. -/
def Byte.binary (b : Byte) : List Char :=
  '0' :: 'b' :: Text.binary 8 b.toNat

def DecodeError.message : DecodeError → String
  | .unknownOpcode opcode pc =>
    s!"unknown opcode " ++ String.ofList (Byte.binary opcode) ++ s!" at address {pc}"
  | .memory e => e.message

def fetch (code : List Byte) (addr : Nat) : Except DecodeError Byte :=
  match code[addr]? with
  | some b => .ok b
  | none => .error (.memory (.ofAddress addr))

/-- The instruction of `code` that begins at `pc`. -/
def decode (code : List Byte) (pc : Nat) : Except DecodeError Instr := do
  let b ← fetch code pc
  match Opcode.ofByte? b with
  | none => throw (.unknownOpcode b pc)
  | some .hlt => return .hlt
  | some .ret => return .ret
  | some .ldi => return .ldi (← fetch code (pc + 1)) (← fetch code (pc + 2))
  | some .prn => return .prn (← fetch code (pc + 1))
  | some .push => return .push (← fetch code (pc + 1))
  | some .pop => return .pop (← fetch code (pc + 1))
  | some .call => return .call (← fetch code (pc + 1))
  | some .add => return .arith .add (← fetch code (pc + 1)) (← fetch code (pc + 2))
  | some .mul => return .arith .mul (← fetch code (pc + 1)) (← fetch code (pc + 2))

end ByteMachine
