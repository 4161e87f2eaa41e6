import ByteMachine.Proofs.Cpu.Runs

/-!
# Straight-line programs

A program of instructions that neither halt nor jump is executed in the order of its text.  As long
as it pushes nothing onto its own code, the machine that fetches it byte by byte does exactly what
its instructions do when they are applied one after the other without a program counter, whatever
they do to the stack pointer.

## Main definitions

- `Instr.isStraight` — the instructions that neither halt nor set the program counter
- `Cpu.applyAll` — the effects of a list of instructions, one after the other
- `Cpu.pushesAbove` — whether all pushes among them store above an address

## Main statements

- `Cpu.step_standing` — one fetched instruction against its effect
- `Cpu.executes_rest` — the rest of a program against the effects of its instructions
- `Cpu.run_straightLine` — a whole program, with the `hlt` that ends it
-/

namespace ByteMachine

namespace Instr

/-- Whether execution goes on behind the instruction. -/
def isStraight : Instr → Bool
  | .ldi .. | .prn _ | .arith .. | .push _ | .pop _ => true
  | .hlt | .call _ | .ret => false

theorem isJump_of_isStraight {instr : Instr} (h : instr.isStraight = true) :
    instr.isJump = false := by
  rw [Bool.eq_false_iff]
  intro hjump
  rw [isJump, opcodeByte_eq] at hjump
  have hop := (isJump_byte_iff instr.opcode).1 hjump
  rcases instr with _ | _ | _ | ⟨_ | _⟩ | _ | _ | _ | _ <;> simp [isStraight, opcode] at h hop

theorem encodeList_append (before after : List Instr) :
    encodeList (before ++ after) = encodeList before ++ encodeList after :=
  List.flatMap_append

theorem length_le_length_encodeList (instrs : List Instr) :
    instrs.length ≤ (encodeList instrs).length := by
  induction instrs with
  | nil => exact Nat.le_refl 0
  | cons instr rest ih =>
    rw [encodeList_cons, List.length_append, List.length_cons, encode, List.length_cons]
    omega

/-- An instruction stands where the encodings of those before it end. -/
theorem encode_isPrefix_drop {cells : List Byte} {before after : List Instr} {instr : Instr}
    (h : encodeList (before ++ instr :: after) <+: cells) :
    instr.encode <+: cells.drop (encodeList before).length := by
  obtain ⟨more, rfl⟩ := h
  rw [encodeList_append, List.append_assoc, List.drop_left, encodeList_cons, List.append_assoc]
  exact List.prefix_append _ _

end Instr

namespace Cpu

/-- The effects of the instructions, one after the other.  Nothing is fetched. -/
def applyAll (instrs : List Instr) : Exec Unit :=
  instrs.forM execute

/-- Whether an instruction that pushes stores its byte above an address. -/
def storesAbove (limit : Nat) (cpu : Cpu) : Instr → Bool
  | .push _ => limit < (cpu.regs.sp - 1).toNat
  | .hlt | .ldi .. | .prn _ | .arith .. | .pop _ | .call _ | .ret => true

/-- Whether every push stores above an address when the instructions are applied one after the
other. -/
def pushesAbove (limit : Nat) : List Instr → Cpu → Bool
  | [], _ => true
  | instr :: rest, cpu =>
    cpu.storesAbove limit instr &&
      match execute instr cpu with
      | .ok _ cpu' => pushesAbove limit rest cpu'
      | .error .. => true

theorem execute_eq_ok_iff {cpu cpu' : Cpu} {instr : Instr} :
    execute instr cpu = .ok () cpu' ↔ cpu.effect instr = .ok cpu' := by
  rw [execute_eq, outcome_eq_ok_iff]
  cases cpu.effect instr <;> simp

theorem applyAll_cons_eq_ok_iff {cpu cpu' : Cpu} {instr : Instr} {rest : List Instr} :
    applyAll (instr :: rest) cpu = .ok () cpu' ↔
      ∃ mid, cpu.effect instr = .ok mid ∧ applyAll rest mid = .ok () cpu' := by
  show EStateM.bind (execute instr) (fun _ => applyAll rest) cpu = _ ↔ _
  rw [EStateM.bind, execute_eq]
  cases cpu.effect instr <;> simp [outcome]

theorem pushesAbove_cons_iff {limit : Nat} {cpu mid : Cpu} {instr : Instr} {rest : List Instr}
    (h : cpu.effect instr = .ok mid) :
    pushesAbove limit (instr :: rest) cpu = true ↔
      cpu.storesAbove limit instr = true ∧ pushesAbove limit rest mid = true := by
  rw [pushesAbove, execute_eq_ok_iff.2 h, Bool.and_eq_true]

/-! ## One instruction -/

variable {d d' : Cpu} {instr : Instr}

/-- Such an instruction keeps the machine running and, if it pushes above an address, everything up
to there. -/
theorem isPrefix_cells_effect {code : List Byte} {limit : Nat}
    (hstraight : instr.isStraight = true) (hcode : code <+: d.mem.cells)
    (hlimit : code.length ≤ limit + 1) (hstores : d.storesAbove limit instr = true)
    (h : d.effect instr = .ok d') : d'.state = d.state ∧ code <+: d'.mem.cells := by
  cases instr <;> simp only [Instr.isStraight, Bool.false_eq_true] at hstraight
  case ldi reg value =>
    obtain ⟨-, rfl⟩ := withReg_eq_ok_iff.1 h
    exact ⟨rfl, hcode⟩
  case prn reg =>
    obtain ⟨value, -, h⟩ := bind_eq_ok_iff.1 h
    obtain rfl := Except.ok.inj h
    exact ⟨rfl, hcode⟩
  case arith op dest src =>
    simp only [effect, bind_eq_ok_iff, withReg_eq_ok_iff] at h
    obtain ⟨a, -, b, -, -, rfl⟩ := h
    exact ⟨rfl, hcode⟩
  case push reg =>
    simp only [effect, bind_eq_ok_iff, pushed_eq_ok_iff] at h
    obtain ⟨value, -, -, -, rfl⟩ := h
    refine ⟨rfl, ?_⟩
    have hlt : limit < (d.regs.sp - 1).toNat := of_decide_eq_true hstores
    obtain ⟨rest, hrest⟩ := hcode
    rw [← hrest, List.set_append_right _ _ (by omega)]
    exact List.prefix_append _ _
  case pop reg =>
    simp only [effect, bind_eq_ok_iff, withReg_eq_ok_iff, pure_eq_ok_iff] at h
    obtain ⟨old, -, value, -, sp, -, mid, ⟨-, rfl⟩, rfl⟩ := h
    exact ⟨rfl, hcode⟩

theorem pc_standing {addr : Nat} (haddr : addr < 65536) (cycles : UInt64) (last : Option Instr) :
    (d.reframe (.standing addr cycles last)).pc = addr :=
  UInt16.toNat_ofNat_of_lt' haddr

/-- Fetched where it stands, such an instruction has its effect and moves the program counter to the
address behind it. -/
theorem step_standing {addr : Nat} (hstraight : instr.isStraight = true)
    (hrunning : d.state = .running) (hcells : d.mem.cells.length = addressCount)
    (hcode : instr.encode <+: d.mem.cells.drop addr) (heffect : d.effect instr = .ok d')
    (cycles : UInt64) (last : Option Instr) :
    step (d.reframe (.standing addr cycles last)) =
      .ok instr (d'.reframe (.standing (addr + instr.width.toNat) (cycles + 1) (some instr))) := by
  have hfits := hcells ▸ Instr.add_width_le_of_encode_isPrefix hcode
  have hpc : (d.reframe (.standing addr cycles last)).pc = addr :=
    pc_standing (by rw [addressCount] at hfits; omega) cycles last
  have hjump := Instr.isJump_of_isStraight hstraight
  obtain ⟨next, hnext, htoNat⟩ := pcBehind_of_le (hpc ▸ hfits)
  refine step_eq_ok_iff.2
    ⟨hrunning, ?_, some next, ?_, d'.reframe (.standing addr cycles last), ?_, ?_⟩
  · rw [hpc]
    exact decode_eq_ok_iff.2 hcode
  · rw [advancedPc, if_neg, hnext]
    · rfl
    · rintro (rfl | h)
      · cases hstraight
      · rw [hjump] at h
        cases h
  · rw [effect_reframe (by simp [hjump]), heffect]
    rfl
  · obtain rfl : next = UInt16.ofNat (addr + instr.width.toNat) := by
      rw [← hpc, ← htoNat, UInt16.ofNat_toNat]
    rfl

/-- A fetched `hlt` stops the machine where it stands. -/
theorem step_hlt_standing {addr : Nat} (hrunning : d.state = .running)
    (hcells : d.mem.cells.length = addressCount)
    (hcode : Instr.hlt.encode <+: d.mem.cells.drop addr) (cycles : UInt64) (last : Option Instr) :
    step (d.reframe (.standing addr cycles last)) =
      .ok .hlt ({ d with state := .halted }.reframe
        (.standing addr (cycles + 1) (some .hlt))) := by
  have hlt := Instr.lt_length_of_encode_isPrefix hcode
  have hpc : (d.reframe (.standing addr cycles last)).pc = addr :=
    pc_standing (by rw [hcells, addressCount] at hlt; omega) cycles last
  refine step_eq_ok_iff.2 ⟨hrunning, ?_, none, rfl, _, rfl, rfl⟩
  rw [hpc]
  exact decode_eq_ok_iff.2 hcode

/-! ## A program -/

/-- From any instruction on, the machine that stands before it goes through the rest of the program
as the effects do, and its code stays in place. -/
theorem executes_rest {instrs before rest : List Instr} (hsplit : instrs = before ++ rest)
    (hstraight : ∀ instr ∈ rest, instr.isStraight = true) (hrunning : d.state = .running)
    (hcells : d.mem.cells.length = addressCount)
    (hcode : Instr.encodeList (instrs ++ [.hlt]) <+: d.mem.cells)
    (happly : applyAll rest d = .ok () d')
    (hpushes : pushesAbove (Instr.encodeList instrs).length rest d = true)
    (cycles : UInt64) (last : Option Instr) :
    d'.state = .running ∧ d'.mem.cells.length = addressCount ∧
      Instr.encodeList (instrs ++ [.hlt]) <+: d'.mem.cells ∧
        ∃ cycles' last',
          (d.reframe (.standing (Instr.encodeList before).length cycles last)).Executes rest
            (d'.reframe (.standing (Instr.encodeList instrs).length cycles' last')) := by
  induction rest generalizing before d cycles last with
  | nil =>
    obtain rfl : d = d' := (EStateM.Result.ok.inj happly).2
    obtain rfl : instrs = before := by rw [hsplit, List.append_nil]
    exact ⟨hrunning, hcells, hcode, cycles, last, .nil _⟩
  | cons instr rest ih =>
    obtain ⟨mid, heffect, hrest⟩ := applyAll_cons_eq_ok_iff.1 happly
    obtain ⟨hstores, hpushes⟩ := (pushesAbove_cons_iff heffect).1 hpushes
    obtain ⟨hhere, hlater⟩ := List.forall_mem_cons.1 hstraight
    have hlimit : (Instr.encodeList (instrs ++ [.hlt])).length ≤
        (Instr.encodeList instrs).length + 1 := by
      rw [Instr.encodeList_append, List.length_append]
      exact Nat.le_refl _
    obtain ⟨hstate, hkept⟩ := isPrefix_cells_effect hhere hcode hlimit hstores heffect
    have hfetch : instr.encode <+: d.mem.cells.drop (Instr.encodeList before).length := by
      rw [hsplit, List.append_assoc] at hcode
      exact Instr.encode_isPrefix_drop hcode
    have hstep := step_standing hhere hrunning hcells hfetch heffect cycles last
    have hnext : (Instr.encodeList before).length + instr.width.toNat =
        (Instr.encodeList (before ++ [instr])).length := by
      rw [Instr.encodeList_append, List.length_append, ← Instr.length_encode, Instr.encodeList_cons,
        Instr.encodeList_nil, List.append_nil]
    have hsplit : instrs = (before ++ [instr]) ++ rest := by
      rw [hsplit, List.append_assoc, List.singleton_append]
    obtain ⟨hrunning', hcells', hcode', cycles', last', hrun⟩ :=
      ih hsplit hlater (hstate.trans hrunning)
        ((length_cells_effect heffect).trans hcells) hkept hrest hpushes (cycles + 1) (some instr)
    exact ⟨hrunning', hcells', hcode', cycles', last', .cons hstep (hnext ▸ hrun)⟩

/-- **Straight-line programs.**  Let a program of instructions that neither halt nor jump, with a
`hlt` behind them, be loaded into a new machine.  If the effects of its instructions applied one
after the other never fail and never store onto the program, then a run executes exactly these
instructions and the `hlt`, halts there, and leaves registers, memory and output as the effects
do. -/
theorem run_straightLine (instrs : List Instr)
    (hstraight : ∀ instr ∈ instrs, instr.isStraight = true)
    (hsize : (Instr.encodeList instrs).length ≤ 255) :
    ∃ start, powerOn.load (Instr.encodeList (instrs ++ [.hlt])) = some (.ok () start) ∧
      ∀ direct, applyAll instrs start = .ok () direct →
        pushesAbove (Instr.encodeList instrs).length instrs start = true →
          ∃ count final, run start = .ok count final ∧ count.toNat = instrs.length + 1 ∧
            start.Executes (instrs ++ [.hlt]) final ∧ final.state = .halted ∧
            final.pc = (Instr.encodeList instrs).length ∧ final.regs.reg = direct.regs.reg ∧
            final.mem = direct.mem ∧ final.output = direct.output := by
  have hprogram : (Instr.encodeList (instrs ++ [.hlt])).length ≤ addressCount := by
    rw [Instr.encodeList_append, List.length_append]
    exact Nat.succ_le_succ hsize
  let start := loaded (Instr.encodeList (instrs ++ [.hlt]))
  have hcells : start.mem.cells.length = addressCount := length_cells_loaded _
  have hcode : Instr.encodeList (instrs ++ [.hlt]) <+: start.mem.cells :=
    isPrefix_cells_loaded hprogram
  refine ⟨start, load_powerOn hprogram, fun direct happly hpushes => ?_⟩
  obtain ⟨hrunning, hcells, hcode, cycles, last, hrun⟩ :=
    executes_rest (d := start) (List.nil_append instrs).symm hstraight rfl hcells hcode happly
      hpushes 0 none
  have hrun : start.Executes instrs _ := hrun
  have hhlt := step_hlt_standing hrunning hcells (Instr.encode_isPrefix_drop hcode) cycles last
  have hexec := hrun.snoc hhlt
  have hlength : (instrs ++ [Instr.hlt]).length ≤ 256 := by
    have := Instr.length_le_length_encodeList instrs
    rw [List.length_append, List.length_singleton]
    omega
  refine ⟨_, _, hexec.run_eq rfl, ?_, hexec, rfl,
    pc_standing (Nat.lt_of_le_of_lt hsize (by decide)) _ _, rfl, rfl, rfl⟩
  rw [UInt64.toNat_ofNat_of_lt' (Nat.lt_of_le_of_lt hlength (by decide)), List.length_append]
  rfl

/-- A program that moves the stack, multiplies through it and prints the product. -/
def movedStack : List Instr :=
  [.ldi 0 5, .ldi 7 100, .push 0, .pop 1, .arith .mul 1 0, .prn 1]

/-- The effects of that program on the machine that is loaded with it. -/
def movedStackEffect : Cpu :=
  { loaded (Instr.encodeList (movedStack ++ [.hlt])) with
    regs := ⟨#v[5, 25, 0, 0, 0, 0, 0, 100], 0⟩
    mem := (Memory.blank.overlay 0 (Instr.encodeList (movedStack ++ [.hlt]))).overlay 99 [5]
    output := [25] }

theorem run_movedStack :
    ∃ start count final,
      powerOn.load (Instr.encodeList (movedStack ++ [.hlt])) = some (.ok () start) ∧
        run start = .ok count final ∧ count.toNat = 7 ∧ final.pc = 15 ∧ final.output = [25] := by
  obtain ⟨start, hload, h⟩ := run_straightLine movedStack (by decide) (by decide)
  obtain rfl := eq_loaded_of_load hload
  obtain ⟨count, final, hrun, hcount, -, -, hpc, -, -, houtput⟩ :=
    h movedStackEffect (by decide +kernel) (by decide +kernel)
  exact ⟨_, count, final, hload, hrun, hcount, hpc, houtput⟩

end Cpu

end ByteMachine
