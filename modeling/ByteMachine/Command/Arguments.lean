import ByteMachine.Text.Numeral

/-!
# Command-line arguments

The command line is a verb with options and one operand.  Options may stand on either side of the
operand.  A long option takes its value behind an equals sign or as the next argument; short
options may share one dash, and the last of them may have its value attached.  Behind two dashes
everything is an operand.  The arguments are taken in from left to right, and the first of them that
asks for help or does not fit ends the reading.

## Main definitions

- `Verb`, `Opt` — what can be asked for
- `Request` — a complete command
- `Interrupt` — why the arguments are not a command
- `Request.ofArguments` — the command of a list of arguments
-/

namespace ByteMachine

inductive Verb where
  | run | debug | asm | disasm
deriving DecidableEq, Repr

inductive Opt where
  | verbose | help | version | maxCycles | trace | dumpState | output
deriving DecidableEq, Repr

inductive Misuse where
  | unknownOption (arg : String)
  | repeatedOption (opt : Opt)
  | missingValue (opt : Opt)
  | unexpectedValue (opt : Opt)
  | invalidValue (opt : Opt) (value : String)
  | missingCommand
  | unknownCommand (name : String)
  | missingOperand
  | unexpectedOperand (arg : String)
deriving DecidableEq, Repr

/-- Why the arguments are not a command to be carried out. -/
inductive Interrupt where
  | help
  | version
  | misuse (m : Misuse)
deriving DecidableEq, Repr

/-- A complete command. -/
inductive Request where
  /-- Run a program, with a limit on the number of instructions if one is given. -/
  | run (path : String) (maxCycles : Option Nat) (trace dumpState : Bool)
  | debug (path : String)
  | asm (source : String) (output : Option String)
  | disasm (image : String)
deriving DecidableEq, Repr

namespace Verb

def all : List Verb := [.run, .debug, .asm, .disasm]

def name : Verb → String
  | .run => "run"
  | .debug => "debug"
  | .asm => "asm"
  | .disasm => "disasm"

def ofName? (name : String) : Option Verb :=
  all.find? (·.name = name)

end Verb

/-- The name that asks for help in the place of a command. -/
def helpName : String := "help"

namespace Opt

/-- The long name of an option, without its dashes. -/
def long : Opt → String
  | .verbose => "verbose"
  | .help => "help"
  | .version => "version"
  | .maxCycles => "max-cycles"
  | .trace => "trace"
  | .dumpState => "dump-state"
  | .output => "output"

/-- The letter of an option. -/
def short? : Opt → Option Char
  | .verbose => some 'v'
  | .help => some 'h'
  | .version => some 'V'
  | .maxCycles => some 'm'
  | .trace => some 't'
  | .dumpState => none
  | .output => some 'o'

def takesValue : Opt → Bool
  | .maxCycles | .output => true
  | _ => false

/-- The options that may stand behind a command, or in front of all commands. -/
def allowed : Option Verb → List Opt
  | none => [.verbose, .help, .version]
  | some .run => [.maxCycles, .trace, .dumpState, .verbose, .help]
  | some .asm => [.output, .verbose, .help]
  | some .debug | some .disasm => [.verbose, .help]

def ofLong? (verb : Option Verb) (name : String) : Option Opt :=
  (allowed verb).find? (·.long = name)

def ofShort? (verb : Option Verb) (letter : Char) : Option Opt :=
  (allowed verb).find? (·.short? = some letter)

end Opt

/-- The arguments sorted so far. -/
structure Arguments where
  /-- The options with their values; an option without a value has the empty one. -/
  options : List (Opt × String)
  operand : Option String
deriving DecidableEq, Repr

namespace Arguments

def empty : Arguments := ⟨[], none⟩

/-- The limit that a text denotes: a number below 2^64. -/
def limit? (value : String) : Option Nat :=
  (Text.unsigned? 10 value.toList).filter (· < 0x10000000000000000)

def accepts : Opt → String → Bool
  | .maxCycles, value => (limit? value).isSome
  | _, _ => true

/-- Whether an argument looks like an option, so that it cannot be the value of another one. -/
def looksLikeOption (arg : String) : Bool :=
  match arg.toList with
  | '-' :: _ :: _ => true
  | _ => false

def addOption (args : Arguments) (opt : Opt) (value : String) : Except Interrupt Arguments :=
  if opt = .help then .error .help
  else if opt = .version then .error .version
  else if (args.options.lookup opt).isSome then .error (.misuse (.repeatedOption opt))
  else if accepts opt value then .ok { args with options := args.options ++ [(opt, value)] }
  else .error (.misuse (.invalidValue opt value))

/-- The arguments with an operand.  There is room for one only. -/
def addOperand (args : Arguments) (arg : String) : Except Interrupt Arguments :=
  if args.operand.isSome then .error (.misuse (.unexpectedOperand arg))
  else .ok { args with operand := some arg }

/-- Take in a long option without its dashes.  Also gives the option if it still needs a value. -/
def addLong (verb : Option Verb) (args : Arguments) (body : List Char) :
    Except Interrupt (Arguments × Option Opt) :=
  let name := String.ofList (body.takeWhile (· ≠ '='))
  match Opt.ofLong? verb name, body.dropWhile (· ≠ '=') with
  | none, _ => .error (.misuse (.unknownOption ("--" ++ name)))
  | some opt, [] =>
    if opt.takesValue then .ok (args, some opt)
    else (args.addOption opt "").map fun args => (args, none)
  | some opt, _ :: value =>
    if opt.takesValue then (args.addOption opt (String.ofList value)).map fun args => (args, none)
    else .error (.misuse (.unexpectedValue opt))

/-- Take in the letters behind a single dash.  Also gives the option if one still needs a value. -/
def addShort (verb : Option Verb) (args : Arguments) :
    List Char → Except Interrupt (Arguments × Option Opt)
  | [] => .ok (args, none)
  | letter :: rest =>
    match Opt.ofShort? verb letter with
    | none => .error (.misuse (.unknownOption (String.ofList ['-', letter])))
    | some opt =>
      if opt.takesValue then
        match rest with
        | [] => .ok (args, some opt)
        | '=' :: value => (args.addOption opt (String.ofList value)).map fun args => (args, none)
        | value => (args.addOption opt (String.ofList value)).map fun args => (args, none)
      else
        match args.addOption opt "" with
        | .ok args => args.addShort verb rest
        | .error e => .error e

/-- Take in an argument that looks like an option. -/
def addDashed (verb : Option Verb) (args : Arguments) (arg : String) :
    Except Interrupt (Arguments × Option Opt) :=
  match arg.toList with
  | '-' :: '-' :: body => args.addLong verb body
  | _ :: letters => args.addShort verb letters
  | [] => .ok (args, none)

/-- Sort the arguments behind a command. -/
def collect (verb : Verb) : Arguments → List String → Except Interrupt Arguments
  | args, [] => .ok args
  | args, arg :: rest =>
    if arg = "--" then rest.foldlM addOperand args
    else if looksLikeOption arg then
      match args.addDashed verb arg with
      | .error e => .error e
      | .ok (args, none) => collect verb args rest
      | .ok (args, some opt) =>
        match rest with
        | [] => .error (.misuse (.missingValue opt))
        | value :: rest =>
          if looksLikeOption value then .error (.misuse (.missingValue opt))
          else match args.addOption opt value with
            | .ok args => collect verb args rest
            | .error e => .error e
    else
      match args.addOperand arg with
      | .ok args => collect verb args rest
      | .error e => .error e

def has (args : Arguments) (opt : Opt) : Bool :=
  (args.options.lookup opt).isSome

end Arguments

namespace Request

/-- The request of a command with its arguments. -/
def ofVerb (verb : Verb) (args : Arguments) : Except Interrupt Request :=
  match args.operand, verb with
  | none, _ => .error (.misuse .missingOperand)
  | some path, .run =>
    let limit := (args.options.lookup .maxCycles).bind Arguments.limit?
    .ok (.run path limit (args.has .trace) (args.has .dumpState))
  | some path, .debug => .ok (.debug path)
  | some path, .asm => .ok (.asm path (args.options.lookup .output))
  | some path, .disasm => .ok (.disasm path)

/-- What becomes of `help` with the arguments behind it: at most one, which names a command or is
`help` itself. -/
def helpOn : List String → Interrupt
  | [] => .help
  | name :: rest =>
    if name = helpName || (Verb.ofName? name).isSome then
      match rest with
      | [] => .help
      | other :: _ => .misuse (.unknownCommand other)
    else .misuse (.unknownCommand name)

/-- The request of arguments that may begin with options for all commands. -/
def ofArgumentsFrom : Arguments → List String → Except Interrupt Request
  | _, [] => .error (.misuse .missingCommand)
  | args, arg :: rest =>
    if Arguments.looksLikeOption arg then
      match args.addDashed none arg with
      | .ok (args, _) => ofArgumentsFrom args rest
      | .error e => .error e
    else if arg = helpName then .error (helpOn rest)
    else match Verb.ofName? arg with
      | some verb => do ofVerb verb (← Arguments.collect verb .empty rest)
      | none => .error (.misuse (.unknownCommand arg))

def ofArguments (args : List String) : Except Interrupt Request :=
  ofArgumentsFrom .empty args

end Request

end ByteMachine
