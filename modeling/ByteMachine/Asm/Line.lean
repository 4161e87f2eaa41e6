import ByteMachine.Asm.Operand

/-!
# Source lines

A line of assembly language may define a label and may hold an item, which stands for one to three
bytes of the program.  A semicolon or a number sign begins a comment.

## Main definitions

- `Asm.Item` — an instruction or a byte of data, with a label where its value is not known yet
- `Asm.statement` — a line without its comment
- `Asm.splitLabel`, `Asm.labelName` — the label of a line
- `Asm.item` — reads an item
-/

namespace ByteMachine.Asm

/-- What a line puts into the program. -/
inductive Item where
  | data (value : Immediate)
  | load (reg : Byte) (value : Immediate)
  | instr (i : Instr)
deriving DecidableEq, Repr

namespace Item

/-- The bytes of an item, with zero in the place of an immediate value. -/
def frame : Item → List Byte
  | .data _ => [0]
  | .load reg _ => (Instr.ldi reg 0).encode
  | .instr i => i.encode

/-- The immediate value of an item and its place among the bytes. -/
def immediate? : Item → Option (Nat × Immediate)
  | .data value => some (0, value)
  | .load _ value => some (2, value)
  | .instr _ => none

end Item

def isComment (c : Char) : Bool :=
  c = ';' || c = '#'

/-- A line without its comment and without the blanks around the rest. -/
def statement (line : List Char) : List Char :=
  Text.trim (Text.before isComment line)

/-- The label of a statement, which is everything before its first colon, and the text of its item,
which is empty if there is none. -/
def splitLabel (stmt : List Char) : Option (List Char) × List Char :=
  match Text.after? (· = ':') stmt with
  | some rest => (some (Text.before (· = ':') stmt), Text.trim rest)
  | none => (none, stmt)

/-- The name of a label as written: not empty, and without blanks inside. -/
def labelName (written : List Char) : Except Cause Label :=
  let name := Text.upper (Text.trim written)
  if name.isEmpty || Text.hasBlank name then .error (.malformed (.label written))
  else .ok name

def operands (text : List Char) : List (List Char) :=
  if text.isEmpty then [] else (Text.splitOn ',' text).map Text.trim

/-- The name of the directive for a byte of data. -/
def dataMnemonic : List Char := ['D', 'B']

/-- The item of an operation with its operands.  The operands are checked from left to right, and
their number before them. -/
def instruction (op : Opcode) : List (List Char) → Except Cause Item
  | [] =>
    match op with
    | .hlt => return .instr .hlt
    | .ret => return .instr .ret
    | _ => wrongCount 0
  | [x] =>
    match op with
    | .prn => return .instr (.prn (← register x))
    | .push => return .instr (.push (← register x))
    | .pop => return .instr (.pop (← register x))
    | .call => return .instr (.call (← register x))
    | _ => wrongCount 1
  | [x, y] =>
    match op with
    | .ldi => return .load (← register x) (← immediate y)
    | .add => return .instr (.arith .add (← register x) (← register y))
    | .mul => return .instr (.arith .mul (← register x) (← register y))
    | _ => wrongCount 2
  | xs => wrongCount xs.length
where
  wrongCount (found : Nat) : Except Cause Item :=
    throw (.malformed (.operandNumber op.mnemonic (arity op.byte).toNat found))

/-- The item that a text denotes: a mnemonic, and its operands behind the first blank. -/
def item (text : List Char) : Except Cause Item :=
  let (word, rest) := Text.splitAtBlank text
  let mnemonic := Text.upper word
  let xs := operands (Text.trim rest)
  if mnemonic = dataMnemonic then
    match xs with
    | [x] => (immediate x).map .data
    | _ => .error (.malformed (.operandNumber mnemonic 1 xs.length))
  else
    match Opcode.ofMnemonic? mnemonic with
    | some op => instruction op xs
    | none => .error (.unknownMnemonic mnemonic)

end ByteMachine.Asm
