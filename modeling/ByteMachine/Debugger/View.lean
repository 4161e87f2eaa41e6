import ByteMachine.Debugger.Window
import ByteMachine.Screen

/-!
# The debugger on a screen

The left part of the screen shows the disassembly, the registers and the status, the right part
the memory, the output and the keys.

## Main definitions

- `Debugger.disassemblyPanel`, …, `helpPanel` — the six panels
- `Debugger.draw` — the screen of a given size
-/

namespace ByteMachine.Debugger

open Screen

/-- A zero byte is dimmed. -/
def byteStyle (b : Byte) : Style :=
  .of (if b = 0 then .darkGray else .white)

def hexText (n : Nat) : List Char :=
  Text.hex 2 n

def byteSpan (style : Style) (b : Byte) : Line :=
  span style (hexText b.toNat ++ [' '])

/-- The look of a row of the window: the current one stands out most, then breakpoints. -/
def rowStyle (current marked : Bool) : Style :=
  if current then .strong .yellow else if marked then .of .red else .plain

def windowLine (d : Debugger) (width : Nat) (r : WindowRow) : Line :=
  let marked := decide (r.row.addr % 0x10000 ∈ d.breakpoints)
  let style := rowStyle r.current marked
  let dot := if marked then '●' else ' '
  let arrow := if r.current then '▶' else ' '
  fit width style
    (span style ([dot, ' ', arrow, ' '] ++ hexText r.row.addr ++ [':', ' '] ++ r.row.chunk.chars))

def disassemblyPanel (d : Debugger) (width height : Nat) : Block :=
  panel width height ⟨.of .cyan, .plain⟩ " Disassembly ".toList
    ((d.window (height - 2)).map (d.windowLine (width - 2)))

def registerLabel (index : Nat) : List Char :=
  if index = stackRegister.toNat then "R7/SP".toList else 'R' :: Text.decimal index

def registerLine (values : List (Byte × Nat)) : Line :=
  values.flatMap fun (value, index) =>
    span .plain ((registerLabel index).leftpad 5 ' ' ++ [':', ' ']) ++
      byteSpan (byteStyle value) value

/-- The registers in two rows, the program counter with the cycle count, and the state. -/
def registerPanel (d : Debugger) (width height : Nat) : Block :=
  let values := d.cpu.regs.toList.zipIdx
  let state := d.cpu.state
  panel width height ⟨.of .green, .plain⟩ " Registers ".toList
    [registerLine (values.take 4),
     registerLine (values.drop 4),
     span .plain "   PC: ".toList ++ span (.of .yellow) (hexText d.pc) ++
       span .plain "   Cycles: ".toList ++
       span (.of .cyan) (Text.decimal d.cpu.cycles.toNat),
     span .plain "State: ".toList ++
       span (.of (if state = .running then .green else .red)) state.name.toList]

def statusPanel (d : Debugger) (width height : Nat) : Block :=
  panel width height ⟨.of .white, .of .white⟩ " Status ".toList
    [span (.of .white) d.status.message.toList]

def memoryStyle (d : Debugger) (addr : Nat) (b : Byte) : Style :=
  if addr = d.pc then .strong .yellow
  else if addr = d.cpu.regs.sp.toNat then .strong .magenta
  else byteStyle b

def memoryLine (d : Debugger) (row : Nat) : Line :=
  let start := row * rowWidth
  span (.of .darkGray) (hexText start ++ [':', ' ']) ++
    (List.range' start rowWidth).flatMap fun addr =>
      let b := d.cpu.mem.peek addr
      byteSpan (d.memoryStyle addr b) b

/-- The memory from the scrolled row on. -/
def memoryPanel (d : Debugger) (width height : Nat) : Block :=
  let stop := min (d.firstRow + (height - 2)) rowCount
  panel width height ⟨.of .magenta, .plain⟩ " Memory ".toList
    ((List.range' d.firstRow (stop - d.firstRow)).map d.memoryLine)

/-- The latest printed values, newest last. -/
def outputPanel (d : Debugger) (width height : Nat) : Block :=
  let count := d.output.length
  let latest := d.output.drop (count - (height - 2))
  panel width height ⟨.of .blue, .plain⟩
    (" Output (".toList ++ Text.decimal count ++ ") ".toList)
    (latest.map fun value => span .plain (Text.decimal value.toNat))

def helpPanel (width height : Nat) : Block :=
  panel width height ⟨.of .darkGray, .of .darkGray⟩ " Help ".toList
    (["s: Step  r: Run  p: Pause  b: Breakpoint",
      "x: Reset  ↑↓/PgUp/PgDn: Scroll memory  q: Quit"].map fun line =>
        span (.of .darkGray) line.toList)

def registerHeight : Nat := 7

def statusHeight : Nat := 3

def outputHeight : Nat := 8

def helpHeight : Nat := 4

/-- The screen of the given size.  The left part takes 55 percent of the width, and the
disassembly and the memory take the height that the other panels leave. -/
def draw (d : Debugger) (width height : Nat) : Block :=
  let left := width * 55 / 100
  let right := width - left
  beside
    (d.disassemblyPanel left (height - (registerHeight + statusHeight)) ++
      d.registerPanel left registerHeight ++ d.statusPanel left statusHeight)
    (d.memoryPanel right (height - (outputHeight + helpHeight)) ++
      d.outputPanel right outputHeight ++ helpPanel right helpHeight)

end ByteMachine.Debugger
