import ByteMachine.Cpu.Run

/-!
# Transcripts

What a run on the command line shows: every printed value as soon as it is printed and, if asked
for, a trace line before every instruction that is attempted.

## Main definitions

- `Transcript` — the lines of a run with the machine at its end
- `Cpu.transcribe` — run to the end or to the limit
-/

namespace ByteMachine

inductive Transcript.Entry where
  | trace (line : String)
  | value (b : Byte)
deriving DecidableEq, Repr

def Transcript.Entry.line : Transcript.Entry → String
  | .trace line => line
  | .value b => String.ofList (Text.decimal b.toNat)

/-- A run with all that it shows. -/
structure Transcript where
  entries : List Transcript.Entry
  /-- The fault that ended the run, if any. -/
  fault : Option Fault
  /-- The machine at the end, without its output. -/
  cpu : Cpu
deriving DecidableEq, Repr

instance : Nonempty Transcript :=
  ⟨⟨[], none, .powerOn⟩⟩

namespace Cpu

/-- The trace line of a machine, if lines are asked for. -/
def traceEntry (tracing : Bool) (cpu : Cpu) : List Transcript.Entry :=
  if tracing then [.trace cpu.traceText] else []

/-- Whether a run that has executed `cycles` instructions may go on. -/
def withinLimit (limit : Option Nat) (cycles : Nat) : Bool :=
  limit.all (cycles < ·)

/-- One turn of the loop of a run that has executed `cycles` instructions and has shown the entries
`shown`, which are in reverse: what to go on with, or the end. -/
def transcribeTurn (tracing : Bool) (limit : Option Nat) :
    Nat × List Transcript.Entry × Cpu → Id ((Nat × List Transcript.Entry × Cpu) ⊕ Transcript)
  | (cycles, shown, cpu) =>
    if cpu.state = .running ∧ withinLimit limit cycles then
      let shown := cpu.traceEntry tracing ++ shown
      match step cpu with
      | .ok _ cpu' =>
        let (printed, cpu') := cpu'.drain
        .inl (cycles + 1, (printed.map .value).reverse ++ shown, cpu')
      | .error fault cpu' => .inr ⟨shown.reverse, some fault, cpu'⟩
    else .inr ⟨shown.reverse, none, cpu⟩

/-- Run behind the entries `shown`, which are in reverse, after `cycles` instructions of the run
have been executed. -/
def transcribeFrom (tracing : Bool) (limit : Option Nat) (cycles : Nat)
    (shown : List Transcript.Entry) (cpu : Cpu) : Transcript :=
  Id.run (repeatM (transcribeTurn tracing limit) (cycles, shown, cpu))

/-- Run until the machine halts, an instruction fails, or the limit is reached. -/
def transcribe (cpu : Cpu) (tracing : Bool) (limit : Option Nat) : Transcript :=
  transcribeFrom tracing limit 0 [] cpu

end Cpu

end ByteMachine
