import ByteMachine.Asm.Line

/-!
# Assembly

The program is written in one pass over the source.  An item whose label has not been met yet is
written with a zero in the place of the address, and the place is remembered; when all lines are
read, every such place is filled in.

## Main definitions

- `Asm.Draft` — the program so far, its labels, and the places to fill in
- `Asm.Draft.addLine` — one line of the source
- `Asm.Draft.resolve` — the finished program
- `assemble` — the program of a source text
-/

namespace ByteMachine

namespace Asm

/-- A place in the program that waits for the address of a label. -/
structure Patch where
  place : Nat
  label : Label
  line : Nat
deriving DecidableEq, Repr

structure Draft where
  /-- The labels with their addresses, latest first. -/
  labels : List (Label × Nat)
  /-- The places that wait for an address, in the order of the source. -/
  patches : List Patch
  code : List Byte
deriving DecidableEq, Repr

namespace Draft

def empty : Draft :=
  ⟨[], [], []⟩

/-- Give the name to the address behind the program so far.  A name is given only once. -/
def define (d : Draft) (name : Label) : Except Cause Draft :=
  if (d.labels.lookup name).isSome then .error (.repeatedLabel name)
  else .ok { d with labels := (name, d.code.length) :: d.labels }

/-- Fill in an immediate value, now or when its label is known. -/
def fill (d : Draft) (place line : Nat) : Immediate → Draft
  | .value b => { d with code := d.code.set place b }
  | .label label => { d with patches := d.patches ++ [⟨place, label, line⟩] }

/-- Put an item behind the program so far. -/
def emit (d : Draft) (line : Nat) (item : Item) : Draft :=
  let place := d.code.length
  let d := { d with code := d.code ++ item.frame }
  match item.immediate? with
  | some (offset, value) => d.fill (place + offset) line value
  | none => d

/-- Define the label of a line, if it has one. -/
def defineLabel (d : Draft) : Option (List Char) → Except Cause Draft
  | some written => do d.define (← labelName written)
  | none => .ok d

/-- Put the item of a line behind the program so far, if there is one. -/
def emitText (d : Draft) (line : Nat) (text : List Char) : Except Cause Draft :=
  if text.isEmpty then .ok d else (item text).map (d.emit line)

def addLine (d : Draft) (line : List Char) (number : Nat) : Except Error Draft :=
  let (label, text) := splitLabel (statement line)
  onLine number do (← d.defineLabel label).emitText number text

/-- The address of a label as a byte. -/
def address (labels : List (Label × Nat)) (label : Label) : Except Cause Byte :=
  match labels.lookup label with
  | some addr => byteValue addr
  | none => .error (.undefinedLabel label)

/-- The program with one waiting place filled in. -/
def applyPatch (labels : List (Label × Nat)) (code : List Byte) (patch : Patch) :
    Except Error (List Byte) := do
  return code.set patch.place (← onLine patch.line (address labels patch.label))

/-- The program with all waiting places filled in. -/
def resolve (d : Draft) : Except Error (List Byte) :=
  d.patches.foldlM (applyPatch d.labels) d.code

end Draft

def draft (source : List Char) : Except Error Draft :=
  ((Text.lines source).zipIdx 1).foldlM (fun d (line, number) => d.addLine line number) .empty

end Asm

/-- The program of a source text in assembly language. -/
def assemble (source : String) : Except Asm.Error (List Byte) := do
  (← Asm.draft source.toList).resolve

end ByteMachine
