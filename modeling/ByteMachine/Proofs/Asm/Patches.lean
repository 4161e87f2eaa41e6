import ByteMachine.Proofs.Asm.Draft

/-!
# One pass with patches

When the places of a draft are filled in one after the other, the bytes in front of the current
entry are already those of the two-pass assembler, and the bytes from there on still have their
zeros.  This is the invariant of the loop over the patches.

## Main definitions

- `Asm.Patch.Within` — a patch and the item that it belongs to

## Main statements

- `Asm.foldlM_applyPatch` — the invariant of the patches
- `assemble_eq_twoPass` — the two assemblers agree
- `assemble_backpatching` — and no patch writes outside the item that it belongs to
-/

namespace ByteMachine

namespace Asm

/-! ### Filling in the places -/

theorem address_eq {labels : List (Label × Nat)} {address? : Label → Option Nat}
    (h : ∀ name, labels.lookup name = address? name) (name : Label) :
    Draft.address labels name = labelByte address? name := by
  rw [Draft.address, labelByte, h name]
  cases address? name with
  | none => rfl
  | some addr =>
    by_cases haddr : addr ≤ 255
    · have : (addr : Int) ≤ 255 := by omega
      simp [byteValue, haddr, this]
    · have : ¬(addr : Int) ≤ 255 := by omega
      simp [byteValue, haddr, this]

/-- Filling in the place of one entry makes its bytes final and touches no other byte. -/
theorem foldlM_patch? {labels : List (Label × Nat)} {address? : Label → Option Nat}
    (h : ∀ name, labels.lookup name = address? name) (done more : List Byte) (e : Entry) :
    (e.patch? done.length).toList.foldlM (Draft.applyPatch labels) (done ++ (e.skeleton ++ more)) =
      (e.encode address?).map fun bytes => done ++ (bytes ++ more) := by
  rw [Entry.encode_eq, Entry.patch?]
  cases hhole : e.hole? with
  | none => rfl
  | some hole =>
    obtain ⟨offset, name⟩ := hole
    have hlt : offset < e.skeleton.length := by
      rw [Entry.length_skeleton]
      exact Entry.hole?_lt hhole
    show (Draft.applyPatch labels _ ⟨done.length + offset, name, e.line⟩ >>= pure) =
      Except.map _ ((onLine e.line (labelByte address? name)).map (e.skeleton.set offset))
    rw [bind_pure, Draft.applyPatch, address_eq h]
    cases onLine e.line (labelByte address? name) with
    | error cause => rfl
    | ok b =>
      -- the place lies behind the bytes that are done and within those of the entry
      refine congrArg Except.ok ?_
      show (done ++ (e.skeleton ++ more)).set (done.length + offset) b = _
      rw [List.set_append_right _ _ (Nat.le_add_right _ _), Nat.add_sub_cancel_left,
        List.set_append_left _ _ hlt]

/-- While the places are filled in, the bytes of the entries that are done are final. -/
theorem foldlM_applyPatch {labels : List (Label × Nat)} {address? : Label → Option Nat}
    (h : ∀ name, labels.lookup name = address? name) (done : List Byte) (es : List Entry) :
    (patchesFrom done.length es).foldlM (Draft.applyPatch labels)
        (done ++ es.flatMap Entry.skeleton) =
      (encodeEntries address? es).map (done ++ ·) := by
  induction es generalizing done with
  | nil => simp [patchesFrom, encodeEntries, Except.map, pure, Except.pure]
  | cons e rest ih =>
    rw [patchesFrom, encodeEntries, List.foldlM_append, List.flatMap_cons, foldlM_patch? h]
    cases he : e.encode address? with
    | error cause => rfl
    | ok bytes =>
      -- the bytes of `e` join those that are done, and the other patches start behind them
      have hih := ih (done ++ bytes)
      rw [List.length_append, Entry.length_encode he, List.append_assoc] at hih
      show (patchesFrom (done.length + e.width) rest).foldlM _ _ = _
      rw [hih]
      cases encodeEntries address? rest with
      | error cause => rfl
      | ok more => exact congrArg Except.ok (List.append_assoc _ _ _)

/-- The finished program of what the first pass reads is what the second pass writes. -/
theorem resolve_foldl_add {lines : List (List Char × Nat)} {es : List Entry}
    (h : readLines [] lines = .ok es) :
    (es.foldl Draft.add .empty).resolve = encodeEntries (address? es) es := by
  have htable : ∀ name, (es.foldl Draft.add .empty).labels.lookup name = address? es name := by
    intro name
    have hlookup := lookup_foldl_add (d := .empty) h name
    simpa [Draft.empty] using hlookup
  have hcode : (es.foldl Draft.add .empty).code = es.flatMap Entry.skeleton :=
    code_foldl_add .empty es
  have hpatches : (es.foldl Draft.add .empty).patches = patchesFrom 0 es :=
    patches_foldl_add .empty es
  rw [Draft.resolve, hcode, hpatches]
  have hrun := foldlM_applyPatch htable [] es
  rw [show (([] : List Byte) ++ ·) = id from rfl] at hrun
  exact hrun.trans (by cases encodeEntries (address? es) es <;> rfl)

/-! ### The places of the patches -/

/-- A patch belongs to an item of the source: it waits for the label of that item, and its place
is one of the item's own bytes. -/
def Patch.Within (p : Patch) (es : List Entry) : Prop :=
  ∃ before e after item offset,
    es = before ++ e :: after ∧ e.item = some item ∧ e.line = p.line ∧
      item.immediate? = some (offset, .label p.label) ∧ offset < item.width ∧
      p.place = extent before + offset

theorem exists_of_mem_patchesFrom {start : Nat} {es : List Entry} {p : Patch}
    (h : p ∈ patchesFrom start es) :
    ∃ before e after offset, es = before ++ e :: after ∧ e.line = p.line ∧
      e.hole? = some (offset, p.label) ∧ p.place = start + extent before + offset := by
  induction es generalizing start with
  | nil => simp [patchesFrom] at h
  | cons first rest ih =>
    rw [patchesFrom, List.mem_append, Option.mem_toList] at h
    rcases h with h | h
    · rw [Entry.patch?, Option.map_eq_some_iff] at h
      obtain ⟨⟨offset, name⟩, hhole, rfl⟩ := h
      exact ⟨[], first, rest, offset, rfl, rfl, hhole, by simp⟩
    · obtain ⟨before, e, after, offset, rfl, hline, hhole, hplace⟩ := ih h
      refine ⟨first :: before, e, after, offset, rfl, hline, hhole, ?_⟩
      rw [extent_cons, hplace]
      omega

theorem within_of_mem_patchesFrom {es : List Entry} {p : Patch} (h : p ∈ patchesFrom 0 es) :
    p.Within es := by
  obtain ⟨before, e, after, offset, hes, hline, hhole, hplace⟩ := exists_of_mem_patchesFrom h
  obtain ⟨item, hitem, himm⟩ := Entry.hole?_eq_some_iff.1 hhole
  have hlt : offset < item.width := Item.hole?_lt (Item.hole?_eq_some_iff.2 himm)
  exact ⟨before, e, after, item, offset, hes, hitem, hline, himm, hlt, by simpa using hplace⟩

/-- The bytes of an item are bytes of the program. -/
theorem Patch.Within.place_lt {p : Patch} {es : List Entry} (h : p.Within es) :
    p.place < extent es := by
  obtain ⟨before, e, after, item, offset, rfl, hitem, -, -, hlt, hplace⟩ := h
  have hwidth : e.width = item.width := by rw [Entry.width, hitem]
  rw [extent_append, extent_cons, hplace, hwidth]
  omega

/-- Patches do not change the number of bytes. -/
theorem length_of_foldlM_applyPatch {labels : List (Label × Nat)} {patches : List Patch}
    {code code' : List Byte} (h : patches.foldlM (Draft.applyPatch labels) code = .ok code') :
    code'.length = code.length := by
  induction patches generalizing code with
  | nil =>
    obtain rfl : code = code' := pure_eq_ok_iff.1 h
    rfl
  | cons p rest ih =>
    rw [List.foldlM_cons, bind_eq_ok_iff] at h
    obtain ⟨next, hnext, h⟩ := h
    simp only [Draft.applyPatch, bind_eq_ok_iff, pure_eq_ok_iff] at hnext
    obtain ⟨b, -, rfl⟩ := hnext
    rw [ih h, List.length_set]

end Asm

/-- The assembler gives the program, or the error, of the two-pass assembler. -/
theorem assemble_eq_twoPass (source : String) :
    assemble source = Asm.twoPass source.toList := by
  rw [assemble, Asm.twoPass, Asm.draft_eq]
  cases hes : Asm.readLines [] ((Text.lines source.toList).zipIdx 1) with
  | error e => rfl
  | ok es => exact Asm.resolve_foldl_add hes

/-- Writing the bytes in one pass and the addresses afterwards is as good as knowing all addresses
before the first byte: for every source the program, or the error with its line, is that of the
two-pass assembler.  Whenever an address is filled in, its place is a byte of the program, and it
belongs to the item that names the label, which has one to three bytes. -/
theorem assemble_backpatching (source : String) :
    assemble source = Asm.twoPass source.toList ∧
      ∀ d, Asm.draft source.toList = .ok d →
        ∃ es, Asm.readLines [] ((Text.lines source.toList).zipIdx 1) = .ok es ∧
          (∀ e ∈ es, ∀ item, e.item = some item → 1 ≤ item.width ∧ item.width ≤ 3) ∧
          d.code.length = Asm.extent es ∧
          ∀ done p rest code, d.patches = done ++ p :: rest →
            done.foldlM (Asm.Draft.applyPatch d.labels) d.code = .ok code →
            p.Within es ∧ p.place < code.length := by
  refine ⟨assemble_eq_twoPass source, fun d hd => ?_⟩
  rw [Asm.draft_eq, map_eq_ok_iff] at hd
  obtain ⟨es, hes, rfl⟩ := hd
  have hcode := Asm.code_foldl_add .empty es
  have hpatches := Asm.patches_foldl_add .empty es
  have hlength : (es.foldl Asm.Draft.add .empty).code.length = Asm.extent es := by
    rw [hcode]
    exact Asm.length_flatMap_skeleton es
  refine ⟨es, hes, fun _ _ item _ => item.width_bounds, hlength, ?_⟩
  intro done p rest code hsplit hdone
  have hp : p ∈ Asm.patchesFrom 0 es := by
    have : p ∈ (es.foldl Asm.Draft.add .empty).patches := by simp [hsplit]
    rwa [hpatches] at this
  have hwithin := Asm.within_of_mem_patchesFrom hp
  refine ⟨hwithin, ?_⟩
  rw [Asm.length_of_foldlM_applyPatch hdone, hlength]
  exact hwithin.place_lt

/-- Two places wait for a label that is defined between them; the first one lies in the first line,
and the second one is filled in when the first is done. -/
theorem assemble_backpatching_forward :
    Asm.draft "LDI R0,end\nEnd: DB END".toList =
        .ok ⟨[("END".toList, 3)], [⟨2, "END".toList, 1⟩, ⟨3, "END".toList, 2⟩], [130, 0, 0, 0]⟩ ∧
      [⟨2, "END".toList, 1⟩].foldlM (Asm.Draft.applyPatch [("END".toList, 3)]) [130, 0, 0, 0] =
        .ok [130, 0, 3, 0] ∧
      ∃ es, Asm.readLines [] ((Text.lines "LDI R0,end\nEnd: DB END".toList).zipIdx 1) = .ok es ∧
        Asm.Patch.Within ⟨3, "END".toList, 2⟩ es ∧ 3 < [130, 0, 3, 0].length := by
  have hdraft : Asm.draft "LDI R0,end\nEnd: DB END".toList =
      .ok ⟨[("END".toList, 3)], [⟨2, "END".toList, 1⟩, ⟨3, "END".toList, 2⟩], [130, 0, 0, 0]⟩ := rfl
  have hdone : [⟨2, "END".toList, 1⟩].foldlM (Asm.Draft.applyPatch [("END".toList, 3)])
      [130, 0, 0, 0] = .ok [130, 0, 3, 0] := rfl
  obtain ⟨es, hes, -, -, hpatch⟩ := (assemble_backpatching "LDI R0,end\nEnd: DB END").2 _ hdraft
  exact ⟨hdraft, hdone, es, hes, hpatch [⟨2, "END".toList, 1⟩] _ [] _ rfl hdone⟩

end ByteMachine
