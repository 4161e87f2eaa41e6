import ByteMachine.Cpu
import ByteMachine.Json.Parser
import ByteMachine.Json.Record

/-!
# Snapshots

The JSON form of a machine.  A structure becomes an object with its fields in order; a case
without contents becomes its name, and a case with contents an object whose only key is the name.

## Main definitions

- `Cpu.toJson`, `Cpu.ofJson?` — the document of a machine, and back
- `Cpu.snapshot`, `Cpu.dump` — the document in the compact and in the indented layout
- `Cpu.restore?` — the machine of a text

## Design notes

A text may restore more machines than can come about by execution: the number of cells is free,
and so are the program counter and the last instruction.  Only the last instruction may be left
out.

The document of a machine is not written by the program itself.  It is the one that the JSON package
derives from the types, and its shape is taken as given: a structure has an entry for each of its
fields, with the name and in the order of the declaration, and a case goes by its name.  So is what
is read: the entries of a structure in any order, those with other names ignored and none of them
twice, or an array of its fields; and numbers only as far as the type of the field goes.
-/

namespace ByteMachine

def Json.bytes (bs : List Byte) : Json :=
  .arr (bs.map fun b => .nat b.toNat)

def Json.byte? (j : Json) : Option Byte :=
  (j.word? 256).map UInt8.ofNat

def Json.bytes? (j : Json) : Option (List Byte) :=
  j.list? Json.byte?

namespace ArithOp

def name : ArithOp → String
  | .add => "Add"
  | .mul => "Mul"

def ofJson? (j : Json) : Option ArithOp := do
  let (tag, contents) ← j.tagged?
  if !Json.isBare contents then none
  else if tag = ArithOp.add.name.toList then some .add
  else if tag = ArithOp.mul.name.toList then some .mul
  else none

end ArithOp

namespace RunState

def ofJson? (j : Json) : Option RunState := do
  let (tag, contents) ← j.tagged?
  if !Json.isBare contents then none
  else if tag = RunState.running.name.toList then some .running
  else if tag = RunState.halted.name.toList then some .halted
  else none

end RunState

namespace Instr

def toJson : Instr → Json
  | .hlt => .text "Hlt"
  | .ret => .text "Ret"
  | .ldi reg value =>
    .record [("Ldi", .record [("reg", .nat reg.toNat), ("value", .nat value.toNat)])]
  | .prn reg => .record [("Prn", .record [("reg", .nat reg.toNat)])]
  | .push reg => .record [("Push", .record [("reg", .nat reg.toNat)])]
  | .pop reg => .record [("Pop", .record [("reg", .nat reg.toNat)])]
  | .call reg => .record [("Call", .record [("reg", .nat reg.toNat)])]
  | .arith op dest src =>
    .record [("Alu", .record
      [("op", .text op.name), ("reg_a", .nat dest.toNat), ("reg_b", .nat src.toNat)])]

/-- The contents of a case with one register. -/
def register? (contents : Option Json) : Option Byte := do
  match ← Json.fullRecord? ["reg"] (← contents) with
  | [reg] => reg.byte?
  | _ => none

def ofJson? (j : Json) : Option Instr := do
  let (tag, contents) ← j.tagged?
  match String.ofList tag with
  | "Hlt" => if Json.isBare contents then some .hlt else none
  | "Ret" => if Json.isBare contents then some .ret else none
  | "Prn" => (register? contents).map .prn
  | "Push" => (register? contents).map .push
  | "Pop" => (register? contents).map .pop
  | "Call" => (register? contents).map .call
  | "Ldi" =>
    match ← Json.fullRecord? ["reg", "value"] (← contents) with
    | [reg, value] => return .ldi (← reg.byte?) (← value.byte?)
    | _ => none
  | "Alu" =>
    match ← Json.fullRecord? ["op", "reg_a", "reg_b"] (← contents) with
    | [op, dest, src] => return .arith (← ArithOp.ofJson? op) (← dest.byte?) (← src.byte?)
    | _ => none
  | _ => none

end Instr

namespace Registers

def toJson (r : Registers) : Json :=
  .record [("reg", .bytes r.toList), ("pc", .nat r.pc.toNat)]

/-- The registers of a document: exactly eight of them, and the program counter. -/
def ofJson? (j : Json) : Option Registers := do
  match ← Json.fullRecord? ["reg", "pc"] j with
  | [reg, pc] =>
    let values ← reg.bytes?
    let pc ← pc.word? 0x10000
    if h : values.toArray.size = 8 then some ⟨⟨values.toArray, h⟩, UInt16.ofNat pc⟩ else none
  | _ => none

end Registers

namespace Memory

def toJson (m : Memory) : Json :=
  .record [("cells", .bytes m.cells)]

/-- The memory of a document, with as many cells as it lists. -/
def ofJson? (j : Json) : Option Memory := do
  match ← Json.fullRecord? ["cells"] j with
  | [cells] => return ⟨← cells.bytes?⟩
  | _ => none

end Memory

namespace Cpu

def toJson (cpu : Cpu) : Json :=
  .record
    [("regs", cpu.regs.toJson),
     ("mem", cpu.mem.toJson),
     ("state", .text cpu.state.name),
     ("cycles", .nat cpu.cycles.toNat),
     ("output", .bytes cpu.output),
     ("last_instr", (cpu.last.map Instr.toJson).getD .null)]

/-- The last instruction of a document, where a missing one is like `null`. -/
def last? : Option Json → Option (Option Instr)
  | none | some .null => some none
  | some j => (Instr.ofJson? j).map some

def ofJson? (j : Json) : Option Cpu := do
  match ← Json.record? ["regs", "mem", "state", "cycles", "output", "last_instr"] j with
  | [some regs, some mem, some state, some cycles, some output, last] =>
    return {
      regs := ← Registers.ofJson? regs
      mem := ← Memory.ofJson? mem
      state := ← RunState.ofJson? state
      cycles := UInt64.ofNat (← cycles.word? 0x10000000000000000)
      output := ← output.bytes?
      last := ← last? last }
  | _ => none

def snapshot (cpu : Cpu) : String :=
  cpu.toJson.compact

def dump (cpu : Cpu) : String :=
  cpu.toJson.indented

def restore? (text : String) : Option Cpu := do
  ofJson? (← Json.parse? text)

end Cpu

end ByteMachine
