import ByteMachine.Instr.Decode
import ByteMachine.Proofs.Except
import Mathlib.Order.Lattice

/-!
# Decoding against encoding

An address either lies outside the code, or holds a byte that is no opcode, or an opcode whose
operands are cut off, or one whose operands are there.  What decoding gives in each of these cases
settles it everywhere.

## Main statements

- `decode_eq_ok_iff` — an instruction is decoded exactly where its encoding stands
- `decode_of_missing`, `decode_of_unknown`, `decode_of_cut`, `decode_of_fits` — the four cases
- `decode_exact` — success and failure together
-/

namespace ByteMachine

theorem fetch_eq_ok_iff {code : List Byte} {addr : Nat} {b : Byte} :
    fetch code addr = .ok b ↔ code[addr]? = some b := by
  unfold fetch
  split <;> simp_all

/-- A list of bytes stands at an address if its first byte does and the others follow. -/
theorem cons_isPrefix_drop_iff {code bytes : List Byte} {addr : Nat} {b : Byte} :
    b :: bytes <+: code.drop addr ↔ code[addr]? = some b ∧ bytes <+: code.drop (addr + 1) := by
  by_cases h : addr < code.length
  · rw [List.drop_eq_getElem_cons h, List.cons_prefix_cons, List.getElem?_eq_getElem h]
    simp [eq_comm]
  · have hnil : code.drop addr = [] := List.drop_eq_nil_of_le (Nat.le_of_not_lt h)
    simp [hnil, List.getElem?_eq_none (Nat.le_of_not_lt h)]

/-- Decoding finds an instruction exactly where its encoding stands. -/
theorem decode_eq_ok_iff {code : List Byte} {pc : Nat} {instr : Instr} :
    decode code pc = .ok instr ↔ instr.encode <+: code.drop pc := by
  simp only [decode, bind_eq_ok_iff, fetch_eq_ok_iff]
  constructor
  · rintro ⟨b, hb, h⟩
    cases hop : Opcode.ofByte? b with
    | none => simp [hop] at h
    | some op =>
      obtain rfl := Opcode.byte_of_ofByte? hop
      rw [hop] at h
      cases op <;> simp only [bind_eq_ok_iff, fetch_eq_ok_iff, pure_eq_ok_iff] at h
      case hlt | ret => subst h; exact cons_isPrefix_drop_iff.2 ⟨hb, List.nil_prefix⟩
      case prn | push | pop | call =>
        obtain ⟨reg, hreg, rfl⟩ := h
        simp [Instr.encode_eq, Instr.operands, cons_isPrefix_drop_iff, hreg, Instr.opcode, hb]
      case ldi | add | mul =>
        obtain ⟨x, hx, y, hy, rfl⟩ := h
        simp [Instr.encode_eq, Instr.operands, cons_isPrefix_drop_iff, hx, hy, Instr.opcode, hb]
  · intro h
    rw [Instr.encode_eq] at h
    obtain ⟨hop, hargs⟩ := cons_isPrefix_drop_iff.1 h
    refine ⟨_, hop, ?_⟩
    rw [Opcode.ofByte?_byte]
    rcases instr with _ | ⟨reg, value⟩ | reg | ⟨_ | _, dest, src⟩ | reg | reg | reg | _ <;>
      simp only [Instr.operands, cons_isPrefix_drop_iff] at hargs <;>
      simp only [Instr.opcode, bind_eq_ok_iff, fetch_eq_ok_iff, pure_eq_ok_iff]
    case ldi => exact ⟨reg, hargs.1, value, hargs.2.1, rfl⟩
    case prn | push | pop | call => exact ⟨reg, hargs.1, rfl⟩
    case arith.add | arith.mul => exact ⟨dest, hargs.1, src, hargs.2.1, rfl⟩

theorem fetch_congr {code code' : List Byte} {addr : Nat} (h : code'[addr]? = code[addr]?) :
    fetch code' addr = fetch code addr := by
  rw [fetch, h, fetch]

/-! ## The four cases -/

theorem fetch_of_missing {code : List Byte} {addr : Nat} (h : code.length ≤ addr) :
    fetch code addr = .error (.memory (.ofAddress addr)) := by
  rw [fetch, List.getElem?_eq_none h]

theorem fetch_of_lt {code : List Byte} {addr : Nat} (h : addr < code.length) :
    fetch code addr = .ok code[addr] := by
  rw [fetch, List.getElem?_eq_getElem h]

theorem decode_of_missing {code : List Byte} {pc : Nat} (h : code.length ≤ pc) :
    decode code pc = .error (.memory (.ofAddress pc)) :=
  bind_of_eq_error (fetch_of_missing h)

/-- A byte that is no opcode is reported as such, however many bytes follow it. -/
theorem decode_of_unknown {code : List Byte} {pc : Nat} {b : Byte} (hb : code[pc]? = some b)
    (hunknown : ∀ op : Opcode, op.byte ≠ b) :
    decode code pc = .error (.unknownOpcode b pc) := by
  rw [decode, bind_of_eq_ok (fetch_eq_ok_iff.2 hb), Opcode.ofByte?_eq_none_iff.2 hunknown]
  rfl

theorem toNat_arity_byte (op : Opcode) :
    (arity op.byte).toNat =
      match op with
      | .hlt | .ret => 0
      | .prn | .push | .pop | .call => 1
      | .ldi | .add | .mul => 2 := by
  cases op <;> decide

theorem isJump_byte_iff (op : Opcode) : isJump op.byte = true ↔ op = .call ∨ op = .ret := by
  cases op <;> decide

/-- Where the code ends before the last operand, the first missing operand is reported. -/
theorem decode_of_cut {code : List Byte} {pc : Nat} {op : Opcode} (hop : code[pc]? = some op.byte)
    (hcut : code.length ≤ pc + (arity op.byte).toNat) :
    decode code pc = .error (.memory (.ofAddress code.length)) := by
  have hpc : pc < code.length := (List.getElem?_eq_some_iff.1 hop).1
  have hend : ∀ addr, code.length = addr →
      fetch code addr = .error (.memory (.ofAddress code.length)) := by
    rintro _ rfl
    exact fetch_of_missing le_rfl
  rw [toNat_arity_byte] at hcut
  rw [decode, bind_of_eq_ok (fetch_eq_ok_iff.2 hop), Opcode.ofByte?_byte]
  cases op <;> simp only at hcut ⊢
  case hlt | ret => omega
  case prn | push | pop | call => exact bind_of_eq_error (hend (pc + 1) (by omega))
  case ldi | add | mul =>
    by_cases hfirst : pc + 1 < code.length
    · rw [bind_of_eq_ok (fetch_of_lt hfirst)]
      exact bind_of_eq_error (hend (pc + 2) (by omega))
    · exact bind_of_eq_error (hend (pc + 1) (by omega))

theorem decode_of_fits {code : List Byte} {pc : Nat} {op : Opcode} (hop : code[pc]? = some op.byte)
    (hfits : pc + (arity op.byte).toNat < code.length) :
    ∃ instr, decode code pc = .ok instr ∧ instr.opcode = op := by
  rw [toNat_arity_byte] at hfits
  rw [decode, bind_of_eq_ok (fetch_eq_ok_iff.2 hop), Opcode.ofByte?_byte]
  cases op <;> simp only at hfits ⊢
  case hlt | ret => exact ⟨_, rfl, rfl⟩
  case prn | push | pop | call =>
    rw [bind_of_eq_ok (fetch_of_lt hfits)]
    exact ⟨_, rfl, rfl⟩
  case ldi | add | mul =>
    have hfirst : pc + 1 < code.length := by omega
    rw [bind_of_eq_ok (fetch_of_lt hfirst), bind_of_eq_ok (fetch_of_lt hfits)]
    exact ⟨_, rfl, rfl⟩

/-- Decoding looks at the opcode and at as many operands as this has. -/
theorem decode_congr {code code' : List Byte} {pc : Nat} (hop : code'[pc]? = code[pc]?)
    (hargs : ∀ op : Opcode, code[pc]? = some op.byte →
      ∀ i, pc < i → i ≤ pc + (arity op.byte).toNat → code'[i]? = code[i]?) :
    decode code' pc = decode code pc := by
  rw [decode, decode, fetch_congr hop]
  cases hb : fetch code pc with
  | error e => rfl
  | ok b =>
    rw [bind_of_eq_ok rfl, bind_of_eq_ok rfl]
    cases hopcode : Opcode.ofByte? b with
    | none => rfl
    | some op =>
      obtain rfl := Opcode.byte_of_ofByte? hopcode
      have harg : ∀ i, pc < i → i ≤ pc + (arity op.byte).toNat → fetch code' i = fetch code i :=
        fun i hlt hle => fetch_congr (hargs op (fetch_eq_ok_iff.1 hb) i hlt hle)
      rw [toNat_arity_byte] at harg
      cases op <;> simp only at harg ⊢
      case prn | push | pop | call => rw [harg (pc + 1) (by omega) (by omega)]
      case ldi | add | mul =>
        rw [harg (pc + 1) (by omega) (by omega), harg (pc + 2) (by omega) (by omega)]

namespace Instr

theorem length_operands (instr : Instr) :
    instr.operands.length = (arity instr.opcode.byte).toNat := by
  rw [toNat_arity_byte]
  rcases instr with _ | _ | _ | ⟨_ | _⟩ | _ | _ | _ | _ <;> rfl

theorem toNat_width (instr : Instr) : instr.width.toNat = instr.operands.length + 1 := by
  rw [← instr.length_encode]
  rfl

variable {code : List Byte} {pc : Nat} {instr : Instr}

/-- An encoding can only stand at an address within the code. -/
theorem lt_length_of_encode_isPrefix (h : instr.encode <+: code.drop pc) : pc < code.length :=
  (List.getElem?_eq_some_iff.1 (cons_isPrefix_drop_iff.1 h).1).1

theorem add_width_le_of_encode_isPrefix (h : instr.encode <+: code.drop pc) :
    pc + instr.width.toNat ≤ code.length := by
  have hpc := lt_length_of_encode_isPrefix h
  have hlen := h.length_le
  rw [length_encode, List.length_drop] at hlen
  omega

theorem operands_eq_of_encode_isPrefix (h : instr.encode <+: code.drop pc) :
    instr.operands = (code.drop (pc + 1)).take (arity instr.opcode.byte).toNat := by
  rw [← length_operands]
  exact List.prefix_iff_eq_take.1 (cons_isPrefix_drop_iff.1 h).2

end Instr

/-- **Decoding inverts encoding at every address.**  An instruction is decoded exactly where its
encoding stands.  Where none stands, a byte that is no opcode is reported with its address, and
otherwise the first address from `pc` on that the code does not have. -/
theorem decode_exact (code : List Byte) (pc : Nat) :
    (∀ instr : Instr,
      decode code pc = .ok instr ↔ pc < code.length ∧ instr.encode <+: code.drop pc) ∧
    ((¬∃ instr : Instr, pc < code.length ∧ instr.encode <+: code.drop pc) →
      (∀ b addr, decode code pc = .error (.unknownOpcode b addr) ↔
        addr = pc ∧ code[pc]? = some b ∧ ∀ op : Opcode, op.byte ≠ b) ∧
      ((¬∃ b, code[pc]? = some b ∧ ∀ op : Opcode, op.byte ≠ b) →
        code.length < 0x80000000 → pc < 0x80000000 →
          decode code pc = .error (.memory (.noCell (max pc code.length : Nat))))) := by
  have hok : ∀ instr : Instr,
      decode code pc = .ok instr ↔ pc < code.length ∧ instr.encode <+: code.drop pc := fun _ =>
    decode_eq_ok_iff.trans ⟨fun h => ⟨Instr.lt_length_of_encode_isPrefix h, h⟩, fun h => h.2⟩
  refine ⟨hok, fun hnone => ?_⟩
  cases hb : code[pc]? with
  | none =>
    have hpc : code.length ≤ pc := List.getElem?_eq_none_iff.1 hb
    rw [decode_of_missing hpc, max_eq_left hpc]
    exact ⟨by simp, fun _ _ hlt => by rw [MemoryError.ofAddress_eq hlt]⟩
  | some b =>
    by_cases hunknown : ∀ op : Opcode, op.byte ≠ b
    · rw [decode_of_unknown hb hunknown]
      exact ⟨by grind, fun hknown => absurd ⟨b, rfl, hunknown⟩ hknown⟩
    · obtain ⟨op, rfl⟩ := not_forall_not.1 hunknown
      have hpc : pc < code.length := (List.getElem?_eq_some_iff.1 hb).1
      -- were all operands there, an instruction would be decoded
      have hcut : code.length ≤ pc + (arity op.byte).toNat := by
        by_contra hfits
        obtain ⟨instr, hinstr, -⟩ := decode_of_fits hb (not_le.1 hfits)
        exact hnone ⟨instr, (hok instr).1 hinstr⟩
      rw [decode_of_cut hb hcut, max_eq_right hpc.le]
      exact ⟨by simp, fun _ hlt _ => by rw [MemoryError.ofAddress_eq hlt]⟩

/-- The first operand of a load is there, the second is not. -/
theorem decode_exact_cutLoad :
    (¬∃ instr : Instr, 0 < [Opcode.ldi.byte, 5].length ∧
      instr.encode <+: [Opcode.ldi.byte, 5].drop 0) ∧
    decode [Opcode.ldi.byte, 5] 0 = .error (.memory (.noCell 2)) := by
  obtain ⟨hok, hfail⟩ := decode_exact [Opcode.ldi.byte, 5] 0
  have hnone : ¬∃ instr : Instr, 0 < [Opcode.ldi.byte, 5].length ∧
      instr.encode <+: [Opcode.ldi.byte, 5].drop 0 := by
    rintro ⟨instr, h⟩
    exact nomatch (hok instr).2 h
  refine ⟨hnone, (hfail hnone).2 ?_ (by decide) (by decide)⟩
  rintro ⟨b, hb, hunknown⟩
  exact hunknown .ldi (Option.some.inj hb)

end ByteMachine
