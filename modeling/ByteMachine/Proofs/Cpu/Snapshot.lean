import ByteMachine.Cpu.Snapshot
import ByteMachine.Proofs.Json.Document
import ByteMachine.Proofs.Json.Record

/-!
# A snapshot is the machine

Every part of a machine is read back from its document, and so the whole machine from its text, in
either layout.  This holds for every value of the type, also for those that no execution reaches.

## Main statements

- `Cpu.ofJson?_toJson` — a machine is read back from its document
- `Cpu.restore?_snapshot_dump` — a machine is read back from its text, and no other machine has
  the same text
-/

namespace ByteMachine

open Json

/-! ### Values -/

theorem Json.byte?_nat (b : Byte) : byte? (.nat b.toNat) = some b := by
  rw [byte?, word?_nat b.toNat_lt, Option.map_some, UInt8.ofNat_toNat]

theorem Json.bytes?_bytes (bs : List Byte) : bytes? (.bytes bs) = some bs :=
  list?_map bs byte?_nat

theorem ArithOp.ofJson?_name (op : ArithOp) : ofJson? (.text op.name) = some op := by
  cases op <;> rfl

theorem RunState.ofJson?_name (state : RunState) : ofJson? (.text state.name) = some state := by
  cases state <;> rfl

/-! ### Instructions -/

namespace Instr

theorem register?_record (reg : Byte) :
    register? (some (.record [("reg", .nat reg.toNat)])) = some reg := by
  have hfields : fullRecord? ["reg"] (.record [("reg", .nat reg.toNat)]) =
    some [.nat reg.toNat] := fullRecord?_record (by simp)
  rw [register?, Option.bind_eq_bind, Option.bind_some, hfields]
  exact byte?_nat reg

theorem ofJson?_toJson (instr : Instr) : ofJson? instr.toJson = some instr := by
  cases instr with
  | hlt => rfl
  | ret => rfl
  | prn reg => exact congrArg (Option.map Instr.prn) (register?_record reg)
  | push reg => exact congrArg (Option.map Instr.push) (register?_record reg)
  | pop reg => exact congrArg (Option.map Instr.pop) (register?_record reg)
  | call reg => exact congrArg (Option.map Instr.call) (register?_record reg)
  | ldi reg value =>
    let contents := Json.record [("reg", .nat reg.toNat), ("value", .nat value.toNat)]
    have hfields : fullRecord? ["reg", "value"] contents =
      some [.nat reg.toNat, .nat value.toNat] := fullRecord?_record (by simp)
    have htag : (toJson (.ldi reg value)).tagged? = some ("Ldi".toList, some contents) := rfl
    rw [ofJson?, htag]
    simp [hfields, byte?_nat]
  | arith op dest src =>
    let contents := Json.record
      [("op", .text op.name), ("reg_a", .nat dest.toNat), ("reg_b", .nat src.toNat)]
    have hfields : fullRecord? ["op", "reg_a", "reg_b"] contents =
      some [.text op.name, .nat dest.toNat, .nat src.toNat] := fullRecord?_record (by simp)
    have htag : (toJson (.arith op dest src)).tagged? = some ("Alu".toList, some contents) := rfl
    rw [ofJson?, htag]
    simp [hfields, byte?_nat, ArithOp.ofJson?_name]

theorem plain_toJson (instr : Instr) : Plain instr.toJson.tokens := by
  cases instr <;> simp [toJson]

end Instr

/-! ### Registers, memory and the machine -/

theorem Registers.ofJson?_toJson (r : Registers) : ofJson? r.toJson = some r := by
  have hfields : fullRecord? ["reg", "pc"] r.toJson = some [.bytes r.toList, .nat r.pc.toNat] :=
    fullRecord?_record (by simp)
  have hsize : r.toList.toArray.size = 8 := by simp [toList]
  rw [ofJson?, hfields]
  simp only [Option.bind_eq_bind, Option.bind_some, bytes?_bytes, word?_nat r.pc.toNat_lt]
  rw [dif_pos hsize]
  simp [toList, Vector.toList]

theorem Memory.ofJson?_toJson (m : Memory) : ofJson? m.toJson = some m := by
  have hfields : fullRecord? ["cells"] m.toJson = some [.bytes m.cells] :=
    fullRecord?_record (by simp)
  rw [ofJson?, hfields]
  simp [bytes?_bytes]

namespace Cpu

theorem last?_toJson (last : Option Instr) :
    last? (some ((last.map Instr.toJson).getD .null)) = some last := by
  cases last with
  | none => rfl
  | some instr =>
    have hread : last? (some instr.toJson) = (Instr.ofJson? instr.toJson).map some := by
      cases instr <;> rfl
    rw [Option.map_some, Option.getD_some, hread, Instr.ofJson?_toJson, Option.map_some]

theorem ofJson?_toJson (cpu : Cpu) : ofJson? cpu.toJson = some cpu := by
  have hfields : record? ["regs", "mem", "state", "cycles", "output", "last_instr"] cpu.toJson =
      some [some cpu.regs.toJson, some cpu.mem.toJson, some (.text cpu.state.name),
        some (.nat cpu.cycles.toNat), some (.bytes cpu.output),
        some ((cpu.last.map Instr.toJson).getD .null)] := record?_record (by simp)
  rw [ofJson?, hfields]
  simp [Registers.ofJson?_toJson, Memory.ofJson?_toJson, RunState.ofJson?_name, bytes?_bytes,
    word?_nat cpu.cycles.toNat_lt, last?_toJson]

theorem plain_toJson (cpu : Cpu) : Plain cpu.toJson.tokens := by
  have hlast : Plain ((cpu.last.map Instr.toJson).getD .null).tokens := by
    cases cpu.last with
    | none => exact plain_null
    | some instr => exact instr.plain_toJson
  have hbytes : ∀ bs : List Byte, Plain (bytes bs).tokens := by
    intro bs
    exact plain_arr (List.forall_mem_map.2 fun b _ => plain_nat b.toNat)
  simp [toJson, Registers.toJson, Memory.toJson, hbytes, hlast]

theorem restore?_eq_some {cpu : Cpu} {text : String} (h : parse? text = some cpu.toJson) :
    restore? text = some cpu := by
  rw [restore?, h]
  exact cpu.ofJson?_toJson

/-- Two machines with texts that restore both of them differ exactly if their texts do. -/
theorem text_inj {text : Cpu → String} (h : ∀ cpu, restore? (text cpu) = some cpu)
    {cpu other : Cpu} : text other = text cpu ↔ other = cpu := by
  constructor
  · intro heq
    have hother := h other
    rw [heq, h cpu] at hother
    exact (Option.some.inj hother).symm
  · intro heq
    rw [heq]

/-- A machine is restored from its snapshot and from its dump, and neither of them is the text of
another machine. -/
theorem restore?_snapshot_dump (cpu : Cpu) :
    restore? cpu.snapshot = some cpu ∧ restore? cpu.dump = some cpu ∧
      ∀ other : Cpu, (other.snapshot = cpu.snapshot ↔ other = cpu) ∧
        (other.dump = cpu.dump ↔ other = cpu) := by
  have hsnapshot : ∀ cpu : Cpu, restore? cpu.snapshot = some cpu := fun cpu =>
    restore?_eq_some (parse?_compact cpu.plain_toJson)
  have hdump : ∀ cpu : Cpu, restore? cpu.dump = some cpu := fun cpu =>
    restore?_eq_some (parse?_indented cpu.plain_toJson)
  exact ⟨hsnapshot cpu, hdump cpu, fun other => ⟨text_inj hsnapshot, text_inj hdump⟩⟩

end Cpu

end ByteMachine
