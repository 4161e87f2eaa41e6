import ByteMachine.Asm
import ByteMachine.Command.Arguments
import ByteMachine.Command.Transcript
import ByteMachine.Cpu.Snapshot
import ByteMachine.Image

/-!
# Commands

The commands read one program file, and `asm` also writes one.  The exit status is 0 after a
regular end, 1 if an instruction has failed, 2 if the program or the arguments cannot be used, and
3 if the limit on the number of instructions was reached.

## Main definitions

- `Report` — what a command writes to its two streams, and its exit status
- `Command.perform` — carry out a request
- `Command.respond` — carry out the request of a list of arguments

## Design notes

Carrying out a request needs a file system and nothing else, so the same definitions serve for
files on disk and for a folder in memory.  The interactive debugger is not carried out here: its
program is loaded and handed back.
-/

namespace ByteMachine

/-- What a command has written, and its exit status. -/
structure Report where
  exit : Nat
  stdout : String
  stderr : List String
deriving DecidableEq, Repr

namespace Report

def programName : String := "ls8-emu"

def faulted : Nat := 1

def unusable : Nat := 2

def unfinished : Nat := 3

def success (stdout : String) : Report := ⟨0, stdout, []⟩

def failure (exit : Nat) (stdout complaint : String) : Report :=
  ⟨exit, stdout, [programName ++ ": " ++ complaint]⟩

end Report

inductive Outcome where
  | report (r : Report)
  | debug (program : List Byte)
deriving DecidableEq, Repr

/-- Lines, each with a line feed at its end. -/
def unlines (lines : List String) : String :=
  String.join (lines.map (· ++ "\n"))

namespace Command

def version : String := "0.1.0"

def usage : String := unlines
  ["Usage: " ++ Report.programName ++ " [OPTIONS] <COMMAND>",
   "",
   "Commands:",
   "  run <PROGRAM> [-m, --max-cycles <N>] [-t, --trace] [--dump-state]",
   "  debug <PROGRAM>",
   "  asm <SOURCE> [-o, --output <FILE>]",
   "  disasm <IMAGE>",
   "",
   "Options: -v, --verbose; -h, --help; -V, --version"]

def misuseMessage : Misuse → String
  | .unknownOption arg => "unexpected argument '" ++ arg ++ "'"
  | .repeatedOption opt => "the option '--" ++ opt.long ++ "' cannot be used multiple times"
  | .missingValue opt => "a value is required for '--" ++ opt.long ++ "'"
  | .unexpectedValue opt => "unexpected value for '--" ++ opt.long ++ "'"
  | .invalidValue opt value => "invalid value '" ++ value ++ "' for '--" ++ opt.long ++ "'"
  | .missingCommand => "a command is required"
  | .unknownCommand name => "unrecognized command '" ++ name ++ "'"
  | .missingOperand => "a file is required"
  | .unexpectedOperand arg => "unexpected argument '" ++ arg ++ "'"

def interrupted : Interrupt → Report
  | .help => .success usage
  | .version => .success (Report.programName ++ " " ++ version ++ "\n")
  | .misuse m => ⟨Report.unusable, "", ["error: " ++ misuseMessage m]⟩

def sourceEnding : List Char := ['.', 'a', 's', 'm']

def imageEnding : List Char := ['.', 'l', 's', '8']

def isSource (path : String) : Bool :=
  sourceEnding.isSuffixOf path.toList

/-- The image file of a source file: the ending of sources is replaced, and to a name without it
the ending of images is added. -/
def imagePath (source : String) : String :=
  let chars := source.toList
  let stem := if isSource source then chars.take (chars.length - sourceEnding.length) else chars
  String.ofList (stem ++ imageEnding)

variable {m : Type → Type} [Monad m]

/-- The program of a source file, or what is wrong with it. -/
def readSource (disk : Disk m) (path : String) : m (Except String (List Byte)) := do
  match ← disk.readText path with
  | .error e => return .error s!"failed to read {path}: {e.message}"
  | .ok source =>
    match assemble source with
    | .ok program => return .ok program
    | .error e => return .error s!"assembly error: {e.message}"

/-- The program of an image file, or what is wrong with it. -/
def readImage (disk : Disk m) (path : String) : m (Except String (List Byte)) := do
  match ← Image.load disk path with
  | .ok image => return .ok image.bytes
  | .error e => return .error s!"failed to load {path}: {e.message}"

/-- The program of a file, which must not be empty. -/
def readProgram (disk : Disk m) (path : String) : m (Except String (List Byte)) := do
  match ← if isSource path then readSource disk path else readImage disk path with
  | .ok [] => return .error s!"{path} contains no program bytes"
  | result => return result

def execute (program : List Byte) (limit : Option Nat) (tracing dumpState : Bool) : Report :=
  match Cpu.boot program with
  | .error e _ => .failure Report.unusable "" s!"failed to load program: {e.message}"
  | .ok () cpu =>
    let t := cpu.transcribe tracing limit
    let shown := t.entries.map (·.line)
    match t.fault with
    | some fault =>
      .failure Report.faulted (unlines shown) s!"error at PC={t.cpu.pcText}: {fault.message}"
    | none =>
      let stdout := unlines (shown ++ if dumpState then [t.cpu.dump] else [])
      match limit with
      | some max =>
        if t.cpu.state = .running then
          .failure Report.unfinished stdout s!"reached max cycles limit ({max})"
        else .success stdout
      | none => .success stdout

def assembleTo (disk : Disk m) (source output : String) : m Report := do
  match ← readSource disk source with
  | .error complaint => return .failure Report.unusable "" complaint
  | .ok program =>
    match ← Image.save disk output (Image.ofBytes program) with
    | .error e => return .failure Report.unusable "" s!"failed to save image: {e.message}"
    | .ok () => return .success s!"{source} -> {output} ({program.length} bytes)\n"

def listImage (disk : Disk m) (path : String) : m Report := do
  match ← readImage disk path with
  | .error complaint => return .failure Report.unusable "" complaint
  | .ok program => return .success (disassemble program)

def perform (disk : Disk m) : Request → m Outcome
  | .run path limit tracing dumpState => do
    match ← readProgram disk path with
    | .ok program => return .report (execute program limit tracing dumpState)
    | .error complaint => return .report (.failure Report.unusable "" complaint)
  | .debug path => do
    match ← readProgram disk path with
    | .ok program => return .debug program
    | .error complaint => return .report (.failure Report.unusable "" complaint)
  | .asm source output => do
    return .report (← assembleTo disk source (output.getD (imagePath source)))
  | .disasm image => do
    return .report (← listImage disk image)

/-- Carry out the request of a list of arguments. -/
def respond (disk : Disk m) (args : List String) : m Outcome :=
  match Request.ofArguments args with
  | .ok request => perform disk request
  | .error interrupt => return .report (interrupted interrupt)

end Command

end ByteMachine
