import ByteMachine.Debugger

/-!
# Keys

What the keys of the debugger do.  A key is a letter or the sequence that a terminal sends for an
arrow or a page key.

## Main definitions

- `Debugger.Key`, `Debugger.Key.read` — the keys, and those of an input
- `Debugger.press` — the effect of a key
-/

namespace ByteMachine.Debugger

inductive Key where
  | step | run | pause | breakpoint | reset | quit
  /-- Move the memory view by a number of rows. -/
  | scroll (rows : Int)
deriving DecidableEq, Repr

def Key.ofLetter? : Char → Option Key
  | 's' => some .step
  | 'r' => some .run
  | 'p' => some .pause
  | 'b' => some .breakpoint
  | 'x' => some .reset
  | 'q' => some .quit
  | _ => none

/-- The keys of an input; anything else in it is skipped. -/
def Key.read : List Char → List Key
  | '\x1b' :: '[' :: 'A' :: rest => .scroll (-1) :: Key.read rest
  | '\x1b' :: '[' :: 'B' :: rest => .scroll 1 :: Key.read rest
  | '\x1b' :: '[' :: '5' :: '~' :: rest => .scroll (-8) :: Key.read rest
  | '\x1b' :: '[' :: '6' :: '~' :: rest => .scroll 8 :: Key.read rest
  | c :: rest => (Key.ofLetter? c).toList ++ Key.read rest
  | [] => []

def press (d : Debugger) : Key → Debugger
  | .step => { d with running := false }.step
  | .run => d.run
  | .pause => d.pause
  | .breakpoint => d.flipBreakpoint
  | .reset => d.reset
  | .quit => { d with quitting := true }
  | .scroll rows => d.scroll rows

/-- At most `count` ticks, fewer if the run ends. -/
def ticks : (count : Nat) → Debugger → Debugger
  | 0, d => d
  | count + 1, d => if d.running then ticks count d.tick else d

end ByteMachine.Debugger
