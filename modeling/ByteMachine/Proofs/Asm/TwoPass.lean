import ByteMachine.Asm
import ByteMachine.Proofs.Except
import Mathlib.Algebra.GroupWithZero.Nat

/-!
# Assembly in two passes

The textbook way to assemble a program, as the standard against which the one-pass assembler is
measured.  The first pass reads every line into a label and an item, and a label stands for the
total width of the items before it.  The second pass knows all addresses and writes the bytes of
the items one after the other.  Nothing is written twice.

## Main definitions

- `Asm.Entry` — what a line of the source says
- `Asm.readLines` — the first pass
- `Asm.address?` — the address of a label
- `Asm.encodeEntries` — the second pass
- `Asm.twoPass` — the program of a source
-/

namespace ByteMachine.Asm

/-- The number of bytes of an item. -/
def Item.width : Item → Nat
  | .data _ => 1
  | .load _ _ => 3
  | .instr i => i.width.toNat

/-- What a line of the source says. -/
structure Entry where
  line : Nat
  label : Option Label
  item : Option Item
deriving DecidableEq, Repr

/-- The number of bytes that a line puts into the program. -/
def Entry.width (e : Entry) : Nat :=
  match e.item with
  | some item => item.width
  | none => 0

/-- The number of bytes that some lines put into the program. -/
def extent (es : List Entry) : Nat :=
  (es.map Entry.width).sum

/-! ### The first pass -/

/-- The label of a line.  It must not be among the labels of the lines before. -/
def readLabel (seen : List Label) : Option (List Char) → Except Cause (Option Label)
  | none => .ok none
  | some written => do
    let name ← labelName written
    if name ∈ seen then .error (.repeatedLabel name) else .ok (some name)

/-- The item of a line, if its text is not empty. -/
def readItem (text : List Char) : Except Cause (Option Item) :=
  if text.isEmpty then .ok none else (item text).map some

/-- A line of the source, its label before its item. -/
def readLine (seen : List Label) (line : List Char) (number : Nat) : Except Error Entry :=
  let (label, text) := splitLabel (statement line)
  onLine number do
    let label ← readLabel seen label
    let item ← readItem text
    return ⟨number, label, item⟩

/-- The numbered lines of a source, up to the first one in error. -/
def readLines (seen : List Label) : List (List Char × Nat) → Except Error (List Entry)
  | [] => .ok []
  | (line, number) :: rest => do
    let e ← readLine seen line number
    let es ← readLines (e.label.toList ++ seen) rest
    return e :: es

/-! ### The second pass -/

/-- The address of a label: the number of bytes before the line that defines it. -/
def address? (es : List Entry) (name : Label) : Option Nat :=
  (es.findIdx? (·.label = some name)).map fun k => extent (es.take k)

/-- The byte that stands for a label.  Only the first 256 addresses fit into one. -/
def labelByte (address? : Label → Option Nat) (name : Label) : Except Cause Byte :=
  match address? name with
  | none => .error (.undefinedLabel name)
  | some addr => if addr ≤ 255 then .ok (UInt8.ofNat addr) else .error (.notByte addr)

/-- The byte of an immediate value. -/
def Immediate.byte (address? : Label → Option Nat) : Immediate → Except Cause Byte
  | .value b => .ok b
  | .label name => labelByte address? name

/-- The bytes of an item. -/
def Item.encode (address? : Label → Option Nat) : Item → Except Cause (List Byte)
  | .data value => (value.byte address?).map fun b => [b]
  | .load reg value => (value.byte address?).map fun b => (Instr.ldi reg b).encode
  | .instr i => .ok i.encode

/-- The bytes of a line. -/
def Entry.encode (address? : Label → Option Nat) (e : Entry) : Except Error (List Byte) :=
  match e.item with
  | some item => onLine e.line (item.encode address?)
  | none => .ok []

/-- The bytes of all lines, up to the first label without a byte. -/
def encodeEntries (address? : Label → Option Nat) : List Entry → Except Error (List Byte)
  | [] => .ok []
  | e :: rest => do
    let bytes ← e.encode address?
    let more ← encodeEntries address? rest
    return bytes ++ more

/-- The program of a source, written when all addresses are known. -/
def twoPass (source : List Char) : Except Error (List Byte) := do
  let es ← readLines [] ((Text.lines source).zipIdx 1)
  encodeEntries (address? es) es

/-! ### Widths and addresses -/

theorem onLine_eq_ok_iff {α : Type} {line : Nat} {x : Except Cause α} {a : α} :
    onLine line x = .ok a ↔ x = .ok a := by
  cases x <;> simp [onLine]

@[simp]
theorem extent_nil : extent [] = 0 := rfl

@[simp]
theorem extent_cons (e : Entry) (es : List Entry) : extent (e :: es) = e.width + extent es :=
  List.sum_cons

@[simp]
theorem extent_append (es es' : List Entry) : extent (es ++ es') = extent es + extent es' := by
  simp [extent]

theorem Item.length_frame (item : Item) : item.frame.length = item.width := by
  cases item with
  | data value => rfl
  | load reg value => rfl
  | instr i => exact i.length_encode

/-- An item has one to three bytes. -/
theorem Item.width_bounds (item : Item) : 1 ≤ item.width ∧ item.width ≤ 3 := by
  cases item with
  | data value => simp [width]
  | load reg value => simp [width]
  | instr i =>
    rw [width, ← Instr.length_encode]
    rcases i with _ | _ | _ | ⟨⟨⟩⟩ | _ | _ | _ | _ <;> simp [Instr.encode, Instr.operands]

/-- The bytes that an item becomes are as many as its width tells. -/
theorem Item.length_encode {address? : Label → Option Nat} {item : Item} {bytes : List Byte}
    (h : item.encode address? = .ok bytes) : bytes.length = item.width := by
  cases item with
  | data value =>
    obtain ⟨b, -, rfl⟩ := map_eq_ok_iff.1 h
    rfl
  | load reg value =>
    obtain ⟨b, -, rfl⟩ := map_eq_ok_iff.1 h
    rfl
  | instr i =>
    obtain rfl : i.encode = bytes := by simpa [Item.encode] using h
    exact i.length_encode

theorem Entry.length_encode {address? : Label → Option Nat} {e : Entry} {bytes : List Byte}
    (h : e.encode address? = .ok bytes) : bytes.length = e.width := by
  rcases e with ⟨line, label, _ | item⟩
  · obtain rfl : [] = bytes := by simpa [encode] using h
    rfl
  · exact Item.length_encode (onLine_eq_ok_iff.1 h)

@[simp]
theorem address?_nil (name : Label) : address? [] name = none := rfl

theorem address?_cons (e : Entry) (es : List Entry) (name : Label) :
    address? (e :: es) name =
      if e.label = some name then some 0 else (address? es name).map (e.width + ·) := by
  by_cases h : e.label = some name
  · simp [address?, List.findIdx?_cons, h]
  · simp [address?, List.findIdx?_cons, h, Function.comp_def]

end ByteMachine.Asm
