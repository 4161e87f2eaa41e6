import ByteMachine.Proofs.Cpu.Runs
import ByteMachine.Session

/-!
# What a session remembers

A session begins again from the program that was loaded last.  A load that is refused changes
nothing, and nothing but a load changes the program; so a program in a session always fits into
memory, and a reset, which takes no notice of a program that does not, makes the session what it was
right after that load.

## Main definitions

- `Session.Op`, `Session.perform` — the operations on a session
- `Session.holding` — the session right after a program was loaded
- `Session.latestLoad` — the latest load among operations that was not refused
- `Session.KeepsProgram` — an action that leaves the program as it is

## Main statements

- `Session.load_eq_ok_iff` — what a load does that is not refused
- `Session.loads_or_keeps` — what an operation does to the program
- `Session.program_foldl_perform` — which program is remembered after a sequence of them
- `Session.reset_eq` — what a reset does
- `Session.reset_foldl_perform` — a session begins again as it was after the latest load
-/

namespace ByteMachine

theorem Cpu.loaded_nil : loaded [] = powerOn := by
  have hmem : Memory.blank.overlay 0 [] = Memory.blank := by
    simp [Memory.overlay]
  rw [loaded, hmem]
  rfl

namespace Session

/-- The operations on a session. -/
inductive Op where
  | load (bytes : List Byte)
  | loadSource (source : String)
  | step
  | run (max : UInt32)
  | reset
  /-- Take the output. -/
  | drain
deriving DecidableEq, Repr

/-- The session after an operation, whether it has failed or not. -/
def perform (s : Session) : Op → Session
  | .load bytes => endState (Session.load bytes s)
  | .loadSource source => endState (Session.loadSource source s)
  | .step => endState (Session.step s)
  | .run max => endState (Session.run max s)
  | .reset => s.reset
  | .drain => s.drain.2

/-- The bytes that an operation loads into the session, if it is a load that is not refused. -/
def loads? (s : Session) : Op → Option (List Byte)
  | .load bytes =>
    match Session.load bytes s with
    | .ok .. => some bytes
    | .error .. => none
  | .loadSource source =>
    match Session.loadSource source s with
    | .ok .. => (assemble source).toOption
    | .error .. => none
  | .step | .run _ | .reset | .drain => none

/-- The latest load among operations on the session that was not refused: its bytes, and the session
right after it. -/
def latestLoad : Session → List Op → Option (List Byte × Session)
  | _, [] => none
  | s, op :: rest => (latestLoad (s.perform op) rest).or ((s.loads? op).map (·, s.perform op))

/-- The session with this program right after it was loaded. -/
def holding (program : List Byte) : Session :=
  ⟨Cpu.loaded program, program⟩

variable {s s' : Session} {bytes : List Byte} {size : Nat} {op : Op}

/-! ### Loads -/

theorem load_of_le (h : bytes.length ≤ addressCount) (s : Session) :
    load bytes s = .ok bytes.length (holding bytes) := by
  rw [load, Cpu.boot_of_le h]
  rfl

theorem load_of_lt (h : addressCount < bytes.length) (s : Session) :
    load bytes s = .error (.memory (.tooLarge bytes.length addressCount)) s := by
  rw [load, Cpu.boot_of_lt h]

theorem load_eq_ok_iff :
    load bytes s = .ok size s' ↔
      bytes.length ≤ addressCount ∧ bytes.length = size ∧ holding bytes = s' := by
  by_cases h : bytes.length ≤ addressCount
  · rw [load_of_le h]
    simp [h]
  · rw [load_of_lt (Nat.lt_of_not_le h)]
    simp [h]

/-- A load that is refused changes nothing. -/
theorem load_error_state {e : SessionError} (h : load bytes s = .error e s') : s' = s := by
  by_cases hsize : bytes.length ≤ addressCount
  · rw [load_of_le hsize] at h
    exact nomatch h
  · rw [load_of_lt (Nat.lt_of_not_le hsize)] at h
    cases h
    rfl

theorem loadSource_eq_ok_iff {source : String} :
    loadSource source s = .ok size s' ↔
      ∃ bytes, assemble source = .ok bytes ∧ load bytes s = .ok size s' := by
  unfold loadSource
  cases assemble source <;> simp

theorem loadSource_error_state {source : String} {e : SessionError}
    (h : loadSource source s = .error e s') : s' = s := by
  unfold loadSource at h
  cases hsource : assemble source with
  | error cause =>
    rw [hsource] at h
    cases h
    rfl
  | ok bytes =>
    rw [hsource] at h
    exact load_error_state h

/-! ### The remembered program -/

/-- An action that leaves the remembered program as it is, whether it fails or not. -/
def KeepsProgram {α : Type} (action : Action α) : Prop :=
  ∀ s, (endState (action s)).program = s.program

theorem KeepsProgram.bind {α β : Type} {action : Action α} {next : α → Action β}
    (h : KeepsProgram action) (hnext : ∀ a, KeepsProgram (next a)) :
    KeepsProgram (action >>= next) := by
  intro s
  show (endState (EStateM.bind action next s)).program = s.program
  have hs := h s
  rw [EStateM.bind]
  cases haction : action s with
  | error e s' =>
    rw [haction] at hs
    exact hs
  | ok a s' =>
    rw [haction] at hs
    exact (hnext a s').trans hs

theorem keepsProgram_onCpu {α : Type} (action : Cpu.Exec α) : KeepsProgram (onCpu action) := by
  intro s
  unfold onCpu onPart
  cases action s.cpu <;> rfl

theorem keepsProgram_step : KeepsProgram Session.step := by
  have hrunning : KeepsProgram (do return (← onCpu Cpu.step).text) :=
    (keepsProgram_onCpu _).bind fun _ _ => rfl
  refine KeepsProgram.bind (fun _ => rfl) fun s => ?_
  dsimp only
  split
  · exact KeepsProgram.bind (fun _ => rfl) fun _ => hrunning
  · exact hrunning

theorem keepsProgram_run (max : UInt32) : KeepsProgram (Session.run max) :=
  (keepsProgram_onCpu _).bind fun _ _ => rfl

theorem program_reset (s : Session) : s.reset.program = s.program := by
  unfold Session.reset
  split <;> rfl

/-- A load that is not refused leaves the session with its bytes, and nothing else changes the
program. -/
theorem loads_or_keeps (s : Session) (op : Op) :
    (∃ bytes, s.loads? op = some bytes ∧ bytes.length ≤ addressCount ∧
      s.perform op = holding bytes) ∨
    s.loads? op = none ∧ (s.perform op).program = s.program := by
  cases op with
  | load program =>
    rw [loads?, perform]
    cases hload : Session.load program s with
    | ok size s' =>
      obtain ⟨hsize, -, rfl⟩ := load_eq_ok_iff.1 hload
      exact .inl ⟨program, rfl, hsize, rfl⟩
    | error e s' =>
      obtain rfl := load_error_state hload
      exact .inr ⟨rfl, rfl⟩
  | loadSource source =>
    rw [loads?, perform]
    cases hload : Session.loadSource source s with
    | ok size s' =>
      obtain ⟨program, hsource, hprogram⟩ := loadSource_eq_ok_iff.1 hload
      obtain ⟨hsize, -, rfl⟩ := load_eq_ok_iff.1 hprogram
      rw [hsource]
      exact .inl ⟨program, rfl, hsize, rfl⟩
    | error e s' =>
      obtain rfl := loadSource_error_state hload
      exact .inr ⟨rfl, rfl⟩
  | step => exact .inr ⟨rfl, keepsProgram_step s⟩
  | run max => exact .inr ⟨rfl, keepsProgram_run max s⟩
  | reset => exact .inr ⟨rfl, program_reset s⟩
  | drain => exact .inr ⟨rfl, rfl⟩

theorem perform_of_loads (h : s.loads? op = some bytes) :
    bytes.length ≤ addressCount ∧ s.perform op = holding bytes := by
  rcases loads_or_keeps s op with ⟨program, hloads, hafter⟩ | ⟨hnone, -⟩
  · obtain rfl := Option.some.inj (hloads.symm.trans h)
    exact hafter
  · exact nomatch hnone.symm.trans h

theorem program_perform (s : Session) (op : Op) :
    (s.perform op).program = (s.loads? op).getD s.program := by
  rcases loads_or_keeps s op with ⟨program, hloads, -, hafter⟩ | ⟨hnone, hkept⟩
  · rw [hloads, hafter]
    rfl
  · rw [hnone, hkept]
    rfl

/-! ### Sequences of operations -/

/-- The program is that of the latest load, or the one from before if no load has gone through. -/
theorem program_foldl_perform (s : Session) (ops : List Op) :
    (ops.foldl perform s).program = ((latestLoad s ops).map (·.1)).getD s.program := by
  induction ops generalizing s with
  | nil => rfl
  | cons op ops ih =>
    -- a load among the later operations hides what the first one has loaded
    rw [List.foldl_cons, ih, latestLoad, program_perform]
    cases latestLoad (s.perform op) ops with
    | some latest => rfl
    | none => cases s.loads? op <;> rfl

theorem latestLoad_eq_some {ops : List Op} {after : Session}
    (h : latestLoad s ops = some (bytes, after)) :
    bytes.length ≤ addressCount ∧ after = holding bytes := by
  induction ops generalizing s with
  | nil => exact nomatch h
  | cons op ops ih =>
    rw [latestLoad, Option.or_eq_some_iff] at h
    rcases h with hrest | ⟨-, hop⟩
    · exact ih hrest
    · obtain ⟨program, hloads, hafter⟩ := Option.map_eq_some_iff.1 hop
      cases hafter
      exact perform_of_loads hloads

/-- A reset of a session whose program fits into memory. -/
theorem reset_eq (h : s.program.length ≤ addressCount) : s.reset = holding s.program := by
  unfold Session.reset
  split
  next hprogram =>
    rw [hprogram, holding, Cpu.loaded_nil, ← hprogram]
  next => rw [Cpu.boot_of_le h, holding]; rfl

/-- **A session begins again as it was after the latest load.**  A load goes through exactly if the
bytes fit into memory, and one that is refused changes nothing.  After any operations on a new
session, the remembered program is that of the latest load that was not refused, and there is none
before the first; it always fits into memory.  A reset gives the session right after that load, or a
new one, so that a run from there has the same end, whether it fails or not. -/
theorem reset_foldl_perform (ops : List Op) :
    let s := ops.foldl perform new
    let latest := latestLoad new ops
    (∀ bytes size s', load bytes s = .ok size s' ↔
      bytes.length ≤ 256 ∧ bytes.length = size ∧ holding bytes = s') ∧
    (∀ source size s', loadSource source s = .ok size s' ↔
      ∃ bytes, assemble source = .ok bytes ∧ load bytes s = .ok size s') ∧
    (∀ bytes e s', load bytes s = .error e s' → s' = s) ∧
    (∀ source e s', loadSource source s = .error e s' → s' = s) ∧
    s.program = (latest.map (·.1)).getD [] ∧ s.program.length ≤ 256 ∧
    s.reset = (latest.map (·.2)).getD new ∧
    ∀ max, Session.run max s.reset = Session.run max ((latest.map (·.2)).getD new) := by
  intro s latest
  have hprogram : s.program = (latest.map (·.1)).getD [] := program_foldl_perform new ops
  have hsize : s.program.length ≤ addressCount := by
    rw [hprogram]
    cases hlatest : latest with
    | none => exact Nat.zero_le _
    | some load => exact (latestLoad_eq_some hlatest).1
  have hreset : s.reset = (latest.map (·.2)).getD new := by
    rw [reset_eq hsize, hprogram]
    cases hlatest : latest with
    | none => exact congrArg (Session.mk · []) Cpu.loaded_nil
    | some load => exact (latestLoad_eq_some hlatest).2.symm
  refine ⟨fun _ _ _ => load_eq_ok_iff, fun _ _ _ => loadSource_eq_ok_iff,
    fun _ _ _ h => load_error_state h, fun _ _ _ h => loadSource_error_state h, hprogram, hsize,
    hreset, fun max => ?_⟩
  rw [hreset]

example :
    (latestLoad new [.load [1], .run 5, .load (List.replicate 257 0), .step]).map (·.1) =
      some [1] := by
  decide +kernel

end Session

end ByteMachine
