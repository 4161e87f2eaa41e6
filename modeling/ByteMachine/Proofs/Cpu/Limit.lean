import ByteMachine.Proofs.Cpu.Reachable

/-!
# Runs with a limit

A run with a limit is a loop that goes on while the cycle counter is below a bound.  The bound is a
sum that stops at the last value of the counter, so the counter never starts again from zero, and
what it has grown by is the number of instructions.  Such runs can be put together: two of them are
one run with the sum of their limits, and a run without a limit is one whose limit is large enough.

## Main definitions

- `Cpu.cappedAdd` — a sum that stops at the last value of the counter
- `Cpu.turnBelow`, `Cpu.finishBelow` — the loop with a bound on the counter

## Main statements

- `Cpu.finishBelow_eq`, `Cpu.runFor_eq_finishBelow` — the loop executes so many instructions
- `Cpu.advance_add`, `Cpu.counted_bind`, `Cpu.runFor_add` — one run behind another
- `Cpu.RunsTo.exists_limited` — a run without a limit is one with a large limit
- `Cpu.runFor_exact` — all of this for any machine and any limit
-/

namespace ByteMachine.Cpu

/-- A sum that stops at the last value of the counter. -/
def cappedAdd (a b : UInt64) : UInt64 :=
  if a.toNat + b.toNat < cycleSpan then a + b else UInt64.ofNat (cycleSpan - 1)

/-- One turn of the loop of a run, unless the cycle counter has reached the bound. -/
def turnBelow (bound : UInt64) (cpu : Cpu) : Id (Cpu ⊕ EStateM.Result Fault Cpu Unit) :=
  if cpu.cycles < bound then turn cpu else .inr (.ok () cpu)

/-- Execute instructions until the machine halts, one fails, or the cycle counter has reached the
bound. -/
def finishBelow (bound : UInt64) : Exec Unit := fun cpu =>
  Id.run (repeatM (turnBelow bound) cpu)

variable {cpu last mid : Cpu} {instr : Instr} {instrs : List Instr} {ending : Ending}
  {max a b count : UInt64}

/-! ### The counter along a run -/

theorem toNat_add_of_lt (h : a.toNat + b.toNat < cycleSpan) : (a + b).toNat = a.toNat + b.toNat := by
  rw [UInt64.toNat_add]
  exact Nat.mod_eq_of_lt h

theorem toNat_cappedAdd (a b : UInt64) :
    (cappedAdd a b).toNat = min (a.toNat + b.toNat) (cycleSpan - 1) := by
  unfold cappedAdd
  split
  case isTrue hlt =>
    rw [toNat_add_of_lt hlt]
    omega
  case isFalse hle =>
    rw [UInt64.toNat_ofNat_of_lt' (by decide)]
    omega

namespace Executes

/-- As long as the counter does not start again from zero, it tells the instructions. -/
theorem toNat_cycles (h : cpu.Executes instrs last)
    (hroom : cpu.cycles.toNat + instrs.length < cycleSpan) :
    last.cycles.toNat = cpu.cycles.toNat + instrs.length := by
  have hlength : instrs.length < UInt64.size := Nat.lt_of_le_of_lt (Nat.le_add_left _ _) hroom
  have hcount : (UInt64.ofNat instrs.length).toNat = instrs.length :=
    UInt64.toNat_ofNat_of_lt' hlength
  rw [h.cycles_eq, toNat_add_of_lt (hcount.symm ▸ hroom), hcount]

theorem after_length (h : cpu.Executes instrs last) : cpu.after instrs.length = last := by
  induction h with
  | nil cpu => rfl
  | cons hstep _ ih => rw [List.length_cons, after_succ, after_one hstep, ih]

/-- Every part of a run from its beginning is a run. -/
theorem take (h : cpu.Executes instrs last) {k : Nat} (hk : k ≤ instrs.length) :
    cpu.Executes (instrs.take k) (cpu.after k) := by
  induction h generalizing k with
  | nil cpu =>
    obtain rfl := Nat.le_zero.1 hk
    exact .nil cpu
  | @cons cpu next last instr rest hstep _ ih =>
    cases k with
    | zero => exact .nil cpu
    | succ k =>
      rw [after_succ, after_one hstep]
      exact .cons hstep (ih (Nat.le_of_succ_le_succ hk))

/-- The counter after each of the instructions of a run. -/
theorem toNat_cycles_after (h : cpu.Executes instrs last)
    (hroom : cpu.cycles.toNat + instrs.length < cycleSpan) {k : Nat} (hk : k ≤ instrs.length) :
    (cpu.after k).cycles.toNat = cpu.cycles.toNat + k := by
  have hlength : (instrs.take k).length = k := List.length_take_of_le hk
  rw [(h.take hk).toNat_cycles (by omega), hlength]

end Executes

/-! ### The loop -/

theorem finishBelow_eq (bound : UInt64) (cpu : Cpu) :
    finishBelow bound cpu = advance (bound.toNat - cpu.cycles.toNat) cpu := by
  have hbound := bound.toNat_lt
  induction hroom : bound.toNat - cpu.cycles.toNat generalizing cpu with
  | zero =>
    have hreached : ¬cpu.cycles < bound := by
      rw [UInt64.lt_iff_toNat_lt]
      omega
    exact run_repeatM_of_inr (if_neg hreached)
  | succ room ih =>
    have hbelow : cpu.cycles < bound := by
      rw [UInt64.lt_iff_toNat_lt]
      omega
    have hturn : turnBelow bound cpu = turn cpu := if_pos hbelow
    rw [turn] at hturn
    rw [advance]
    cases hstate : cpu.state with
    | halted =>
      rw [hstate] at hturn
      exact run_repeatM_of_inr hturn
    | running =>
      cases hstep : step cpu with
      | ok instr mid =>
        have hcycles : mid.cycles.toNat = cpu.cycles.toNat + 1 := by
          refine (Executes.cons hstep (.nil mid)).toNat_cycles ?_
          rw [List.length_singleton, cycleSpan]
          omega
        rw [hstate, hstep] at hturn
        exact (run_repeatM_of_inl hturn).trans (ih mid (by omega))
      | error fault cpu' =>
        rw [hstate, hstep] at hturn
        exact run_repeatM_of_inr hturn

theorem counted_congr {first second : Exec Unit} (h : first cpu = second cpu) :
    counted first cpu = counted second cpu := by
  cases hsecond : second cpu with
  | ok u mid => rw [counted_of_ok hsecond, counted_of_ok (h.trans hsecond)]
  | error fault mid => rw [counted_of_error hsecond, counted_of_error (h.trans hsecond)]

/-- The room up to the bound is the number of steps that a limited run may take. -/
theorem runFor_eq_finishBelow (max : UInt64) (cpu : Cpu) :
    runFor max cpu = counted (finishBelow (cappedAdd cpu.cycles max)) cpu := by
  have hroom : (cappedAdd cpu.cycles max).toNat - cpu.cycles.toNat = cpu.room max := by
    rw [toNat_cappedAdd, room]
    omega
  refine counted_congr ?_
  rw [finishBelow_eq, hroom]
  rfl

/-! ### One run behind another -/

theorem advance_add (m n : Nat) : advance (m + n) = (do advance m; advance n) := by
  induction m with
  | zero =>
    rw [Nat.zero_add]
    rfl
  | succ m ih =>
    funext cpu
    show advance (m + 1 + n) cpu = EStateM.bind (advance (m + 1)) (fun _ => advance n) cpu
    rw [Nat.add_right_comm, advance, EStateM.bind, advance]
    cases hstate : cpu.state with
    | halted => exact (advance_of_halted hstate n).symm
    | running =>
      cases hstep : step cpu with
      | ok instr mid => exact congrFun ih mid
      | error fault cpu' => rfl

/-- A limit that the counter does not cut short is the number of steps to take. -/
theorem runFor_eq_counted (h : cpu.cycles.toNat + max.toNat < cycleSpan) :
    runFor max cpu = counted (advance max.toNat) cpu := by
  have hroom : cpu.room max = max.toNat := by
    rw [room]
    omega
  refine counted_congr ?_
  show advance (cpu.room max) cpu = advance max.toNat cpu
  rw [hroom]

/-- What two actions execute is the sum of what each of them executes. -/
theorem counted_bind (first second : Exec Unit) :
    counted (do first; second) =
      (do let n ← counted first
          let n' ← counted second
          return n + n') := by
  funext cpu
  cases hfirst : first cpu with
  | error fault mid =>
    rw [counted_of_error (bind_of_error hfirst), bind_of_error (counted_of_error hfirst)]
  | ok u mid =>
    rw [bind_of_ok (counted_of_ok hfirst)]
    cases hsecond : second mid with
    | error fault last =>
      have hboth : (do first; second : Exec Unit) cpu = .error fault last :=
        (bind_of_ok hfirst).trans hsecond
      rw [counted_of_error hboth, bind_of_error (counted_of_error hsecond)]
    | ok u last =>
      have hboth : (do first; second : Exec Unit) cpu = .ok () last :=
        (bind_of_ok hfirst).trans hsecond
      have hsum : last.cycles - cpu.cycles =
          (mid.cycles - cpu.cycles) + (last.cycles - mid.cycles) := by
        grind
      rw [counted_of_ok hboth, bind_of_ok (counted_of_ok hsecond), hsum]
      rfl

/-- What is known of a limited run that does not fail. -/
theorem exists_executes_of_runFor (h : runFor max cpu = .ok count last) :
    ∃ instrs, cpu.Executes instrs last ∧ instrs.length ≤ cpu.room max ∧
      count = UInt64.ofNat instrs.length := by
  obtain ⟨instrs, last', ending, hruns⟩ := exists_runsTo_of_limit (cpu.room max) cpu
  have hresult := h.symm.trans hruns.runFor_eq
  cases ending with
  | halted | unfinished =>
    obtain ⟨rfl, rfl⟩ := EStateM.Result.ok.inj hresult
    exact ⟨instrs, hruns.executes, hruns.stops.le _ rfl, rfl⟩
  | faulted fault => exact nomatch hresult

/-- Two runs one behind the other are one run with the sum of their limits, and so are their
counts. -/
theorem runFor_add (h : cpu.cycles.toNat + a.toNat + b.toNat < cycleSpan) :
    runFor (a + b) cpu = (do
      let n ← runFor a
      let n' ← runFor b
      return n + n') cpu := by
  have hsum : (a + b).toNat = a.toNat + b.toNat := toNat_add_of_lt (by omega)
  have hfirst : runFor a cpu = counted (advance a.toNat) cpu := runFor_eq_counted (by omega)
  rw [runFor_eq_counted (by omega), hsum, advance_add, counted_bind]
  cases hmid : runFor a cpu with
  | error fault mid => rw [bind_of_error hmid, bind_of_error (hfirst.symm.trans hmid)]
  | ok n mid =>
    obtain ⟨instrs, hexec, hlength, -⟩ := exists_executes_of_runFor hmid
    have hle : instrs.length ≤ a.toNat := Nat.le_trans hlength (Nat.min_le_left _ _)
    have hcycles := hexec.toNat_cycles (by omega)
    have hsecond : runFor b mid = counted (advance b.toNat) mid := runFor_eq_counted (by omega)
    rw [bind_of_ok hmid, bind_of_ok (hfirst.symm.trans hmid)]
    show EStateM.bind _ _ mid = EStateM.bind _ _ mid
    rw [EStateM.bind, EStateM.bind, hsecond]

theorem toNat_le_of_runFor (h : runFor max cpu = .ok count last) : count.toNat ≤ max.toNat := by
  obtain ⟨instrs, -, hlength, rfl⟩ := exists_executes_of_runFor h
  have hle : instrs.length ≤ max.toNat := Nat.le_trans hlength (Nat.min_le_left _ _)
  exact Nat.le_trans (Nat.mod_le _ _) hle

/-! ### A limit that is large enough -/

/-- A run without a limit is a run with any limit that its instructions do not pass.  If they reach
the limit, it may stop before an instruction that fails. -/
theorem RunsTo.exists_limited {limit : Nat} (h : cpu.RunsTo none instrs last ending)
    (hlimit : instrs.length ≤ limit) :
    ∃ ending', cpu.RunsTo (some limit) instrs last ending' ∧
      (ending = .halted ∨ instrs.length < limit → ending' = ending) := by
  obtain ⟨hexec, hstops⟩ := h
  cases ending with
  | unfinished => exact nomatch hstops.1
  | halted =>
    refine ⟨.halted, ⟨hexec, ?_, hstops.2⟩, fun _ => rfl⟩
    rintro _ ⟨⟩
    exact hlimit
  | faulted fault =>
    rcases Nat.eq_or_lt_of_le hlimit with rfl | hlt
    · refine ⟨.unfinished, ⟨hexec, rfl, hstops.2.1⟩, ?_⟩
      rintro (hhalted | hlt)
      · exact nomatch hhalted
      · exact absurd hlt (Nat.lt_irrefl _)
    · refine ⟨.faulted fault, ⟨hexec, ?_, hstops.2⟩, fun _ => rfl⟩
      rintro _ ⟨⟩
      exact hlt

/-- **A limited run is bounded iteration of steps.**  Take any machine, and let `c` be its cycle
counter.

* A run with the limit `max` executes instructions until the machine halts, an instruction fails or
  the smaller of `max` and `cycleSpan - 1 - c` are done.  It gives their number, or the error of the
  failing instruction with the machine in front of it.  It is the loop below the capped sum of `c`
  and `max`, and the counter goes up by one with each instruction, never starting again from zero.
* If `c`, `a` and `b` together stay below the span of the counter, and a run with the limit `a` does
  not fail, then a run with the limit `b` after it ends as one with the limit `a + b` does, with the
  sum of the counts.
* If a run without a limit ends after instructions that the counter can still count, then any
  larger limit leaves the same machine, and gives the same result unless the counter has reached its
  last value in front of an instruction that fails. -/
theorem runFor_exact (cpu : Cpu) :
    (∀ max : UInt64, ∃ instrs last ending count,
      cpu.RunsTo (some (min max.toNat (cycleSpan - 1 - cpu.cycles.toNat))) instrs last ending ∧
      count.toNat = instrs.length ∧ runFor max cpu = ending.result count last ∧
      runFor max cpu = counted (finishBelow (cappedAdd cpu.cycles max)) cpu ∧
      cpu.after instrs.length = last ∧
      ∀ k ≤ instrs.length, (cpu.after k).cycles.toNat = cpu.cycles.toNat + k) ∧
    (∀ a b : UInt64, cpu.cycles.toNat + a.toNat + b.toNat ≤ cycleSpan - 1 →
      ∀ n mid, runFor a cpu = .ok n mid →
        runFor (a + b) cpu = ((n + ·) <$> runFor b) mid ∧ (a + b).toNat = a.toNat + b.toNat ∧
        ∀ n' last, runFor b mid = .ok n' last → (n + n').toNat = n.toNat + n'.toNat) ∧
    (∀ instrs last ending, cpu.RunsTo none instrs last ending →
      cpu.cycles.toNat + instrs.length ≤ cycleSpan - 1 →
        endState (run cpu) = last ∧ ∀ max : UInt64, instrs.length < max.toNat →
          endState (runFor max cpu) = last ∧
          (ending = .halted ∨ cpu.cycles.toNat + instrs.length < cycleSpan - 1 →
            runFor max cpu = run cpu)) := by
  refine ⟨?_, ?_, ?_⟩
  · intro max
    obtain ⟨instrs, last, ending, hruns⟩ := exists_runsTo_of_limit (cpu.room max) cpu
    have hlength : instrs.length ≤ cpu.room max := hruns.stops.le _ rfl
    have hcycles := cpu.cycles.toNat_lt
    have hspan : cpu.cycles.toNat + instrs.length < cycleSpan := by
      rw [room, cycleSpan] at hlength
      rw [cycleSpan]
      omega
    refine ⟨instrs, last, ending, UInt64.ofNat instrs.length, hruns, ?_,
      hruns.runFor_eq, runFor_eq_finishBelow max cpu,
      hruns.executes.after_length, fun k => hruns.executes.toNat_cycles_after hspan⟩
    exact UInt64.toNat_ofNat_of_lt' (Nat.lt_of_le_of_lt (Nat.le_add_left _ _) hspan)
  · intro a b hroom n mid hfirst
    have hspan : cpu.cycles.toNat + a.toNat + b.toNat < cycleSpan := Nat.lt_succ_of_le hroom
    refine ⟨?_, toNat_add_of_lt (by omega), ?_⟩
    · rw [runFor_add hspan, bind_of_ok hfirst]
      rfl
    · intro n' last hsecond
      have hn := toNat_le_of_runFor hfirst
      have hn' := toNat_le_of_runFor hsecond
      exact toNat_add_of_lt (by omega)
  · intro instrs last ending hruns hroom
    refine ⟨by rw [hruns.run_eq, endState_result], fun max hmax => ?_⟩
    have hlimit : instrs.length ≤ cpu.room max := by
      rw [room]
      omega
    obtain ⟨ending', hlimited, hsame⟩ := hruns.exists_limited hlimit
    refine ⟨by rw [hlimited.runFor_eq, endState_result], fun hends => ?_⟩
    have hending : ending' = ending := by
      refine hsame (hends.imp_right fun hlt => ?_)
      rw [room]
      omega
    rw [hlimited.runFor_eq, hending, hruns.run_eq]

/-- A machine that stores, prints and halts, with a counter that can count just that. -/
def nearlyCounted : Cpu :=
  { loaded (Instr.encodeList [.ldi 0 8, .prn 0, .hlt]) with cycles := UInt64.ofNat (cycleSpan - 4) }

/-- It may run for one instruction and then for two, or for more than there are. -/
theorem runFor_exact_nearlyCounted :
    ∃ n mid, runFor 1 nearlyCounted = .ok n mid ∧
      runFor 3 nearlyCounted = ((n + ·) <$> runFor 2) mid ∧
      runFor 4 nearlyCounted = run nearlyCounted := by
  have hfirst : runFor 1 nearlyCounted = .ok 1 (nearlyCounted.after 1) := by decide +kernel
  have hstore : step nearlyCounted = .ok (.ldi 0 8) (nearlyCounted.after 1) := by decide +kernel
  have hprint : step (nearlyCounted.after 1) = .ok (.prn 0) (nearlyCounted.after 2) := by
    decide +kernel
  have hhalt : step (nearlyCounted.after 2) = .ok .hlt (nearlyCounted.after 3) := by decide +kernel
  have hhalted : (nearlyCounted.after 3).state = .halted := by decide +kernel
  have hcycles : nearlyCounted.cycles.toNat = cycleSpan - 4 := by decide +kernel
  have hstops : Stops none 3 (nearlyCounted.after 3) .halted := by
    simp [Stops, hhalted]
  have hruns : nearlyCounted.RunsTo none [.ldi 0 8, .prn 0, .hlt] (nearlyCounted.after 3) .halted :=
    ⟨.cons hstore (.cons hprint (.cons hhalt (.nil _))), hstops⟩
  obtain ⟨-, hadd, hend⟩ := runFor_exact nearlyCounted
  have hlarger := (hend _ _ _ hruns (by rw [hcycles]; decide)).2 4 (by decide)
  exact ⟨_, _, hfirst, (hadd 1 2 (by rw [hcycles]; decide) _ _ hfirst).1, hlarger.2 (.inl rfl)⟩

end ByteMachine.Cpu
