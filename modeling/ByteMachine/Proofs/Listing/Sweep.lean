import ByteMachine.Listing
import ByteMachine.Proofs.Instr.Decode

/-!
# The linear sweep covers the code

## Main statements

- `Chunk.bytes_read` — the chunk at an address has the bytes that stand there
- `flatMap_bytes_sweep`, `flatMap_bytes_listing` — the rows are the code, cut into pieces
- `pairwise_addr_sweep` — their addresses ascend
-/

namespace ByteMachine

variable {code : List Byte} {addr : Nat}

/-- The chunk at an address within the code has the bytes that stand there, whether they are an
instruction or not. -/
theorem Chunk.bytes_read (h : addr < code.length) :
    (Chunk.read code addr).bytes <+: code.drop addr := by
  unfold Chunk.read
  split
  · rename_i instr hdecode
    exact decode_eq_ok_iff.1 hdecode
  · refine cons_isPrefix_drop_iff.2 ⟨?_, List.nil_prefix⟩
    rw [List.getElem?_eq_getElem h, Option.getD_some]

theorem Chunk.width_le (chunk : Chunk) : chunk.width ≤ 3 := by
  rw [← chunk.length_bytes]
  rcases chunk with (_ | _ | _ | _ | _ | _ | _ | _) | _ <;> simp [bytes, Instr.encode, Instr.operands]

theorem sweep_of_lt (h : addr < code.length) :
    sweep code addr =
      ⟨addr, Chunk.read code addr⟩ :: sweep code (addr + (Chunk.read code addr).width) := by
  rw [sweep, if_pos h]

theorem sweep_of_le (h : code.length ≤ addr) : sweep code addr = [] := by
  rw [sweep, if_neg (Nat.not_lt.2 h)]

/-- The rows from an address on have the bytes of the rest of the code. -/
theorem flatMap_bytes_sweep (code : List Byte) (addr : Nat) :
    (sweep code addr).flatMap (·.chunk.bytes) = code.drop addr := by
  fun_induction sweep code addr with
  | case1 addr h chunk ih =>
    obtain ⟨rest, hrest⟩ := Chunk.bytes_read h
    have hdrop : code.drop (addr + chunk.width) = rest := by
      rw [← List.drop_drop, ← hrest, ← Chunk.length_bytes, List.drop_left]
    rw [List.flatMap_cons, ih, hdrop]
    exact hrest
  | case2 addr h => exact (List.drop_eq_nil_of_le (Nat.le_of_not_lt h)).symm

theorem flatMap_bytes_listing (code : List Byte) :
    (listing code).flatMap (·.chunk.bytes) = code :=
  flatMap_bytes_sweep code 0

theorem le_addr_of_mem_sweep {row : Row} (h : row ∈ sweep code addr) : addr ≤ row.addr := by
  fun_induction sweep code addr with
  | case1 addr hlt chunk ih =>
    rcases List.mem_cons.1 h with rfl | h
    · exact Nat.le_refl addr
    · exact Nat.le_trans (Nat.le_add_right addr chunk.width) (ih h)
  | case2 addr hle => simp at h

/-- The addresses of the rows ascend. -/
theorem pairwise_addr_sweep (code : List Byte) (addr : Nat) :
    (sweep code addr).Pairwise (·.addr < ·.addr) := by
  fun_induction sweep code addr with
  | case1 addr hlt chunk ih =>
    refine List.pairwise_cons.2 ⟨?_, ih⟩
    intro row hrow
    exact Nat.lt_of_lt_of_le (Nat.lt_add_of_pos_right chunk.width_pos) (le_addr_of_mem_sweep hrow)
  | case2 addr hle => exact List.Pairwise.nil

end ByteMachine
