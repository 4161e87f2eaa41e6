import ByteMachine.Command
import ByteMachine.Debugger.Keys
import ByteMachine.Debugger.View

/-!
# The program

The command line on real files, and the debugger on a terminal.  The debugger reads its keys line
by line and draws the screen after each line.
-/

namespace ByteMachine

namespace Main

/-- The number of a system error, which some operations report with a minus sign. -/
def errorNumber (code : UInt32) : UInt32 :=
  if code < 0x80000000 then code else 0 - code

/-- The reason for a failure as the system gives it. -/
def fileError (e : IO.Error) : FileError :=
  match e with
  | .noFileOrDirectory .. => .notFound
  | .inappropriateType _ code _ =>
    if errorNumber code = 20 then .notDirectory else .isDirectory
  | .invalidArgument _ code _ =>
    if errorNumber code = 36 then .nameTooLong else .other e.toString
  | _ => .other e.toString

/-- The files of the system. -/
def files : Disk IO where
  readText path := do
    try
      match String.fromUTF8? (← IO.FS.readBinFile path) with
      | some text => return .ok text
      | none => return .error .notText
    catch e => return .error (fileError e)
  writeText path text := do
    try
      IO.FS.writeFile path text
      return .ok ()
    catch e => return .error (fileError e)

/-- The terminal's number for a colour. -/
def colourCode : Screen.Colour → String
  | .plain => "39"
  | .red => "31"
  | .green => "32"
  | .yellow => "33"
  | .blue => "34"
  | .magenta => "35"
  | .cyan => "36"
  | .white => "97"
  | .darkGray => "90"

def cellText (cell : Screen.Cell) : String :=
  let weight := if cell.style.bold then "1" else "22"
  "\x1b[" ++ weight ++ ";" ++ colourCode cell.style.colour ++ "m" ++ cell.char.toString

def screenText (block : Screen.Block) : String :=
  let lines := block.map fun line => String.join (line.map cellText)
  "\x1b[H\x1b[2J" ++ String.intercalate "\n" lines ++ "\x1b[0m\n"

def burst : Nat := 100000

/-- Draw, read a line of keys, and go on until the debugger is left or the input ends. -/
partial def interact (input output : IO.FS.Stream) (d : Debugger) : IO Unit := do
  output.putStr (screenText (d.draw 80 24))
  output.flush
  let line ← input.getLine
  unless line.isEmpty do
    let d := ((Debugger.Key.read line.toList).foldl Debugger.press d).ticks burst
    unless d.quitting do
      interact input output d

end Main

end ByteMachine

/-- Carry out the command that the arguments ask for. -/
def main (args : List String) : IO UInt32 := do
  match ← ByteMachine.Command.respond ByteMachine.Main.files args with
  | .report r =>
    IO.print r.stdout
    (← IO.getStdout).flush
    for line in r.stderr do
      IO.eprintln line
    return UInt32.ofNat r.exit
  | .debug program =>
    ByteMachine.Main.interact (← IO.getStdin) (← IO.getStdout) (.new program)
    return 0
