/-!
# Character screens

A screen is a grid of coloured characters.  It is put together from smaller blocks: blocks of one
width on top of each other, blocks of one height side by side, and a block inside a frame.

## Main definitions

- `Screen.Cell`, `Screen.Style` — a character with its colour
- `Screen.Line`, `Screen.Block` — a row of cells, and rows of cells
- `Screen.fit`, `Screen.fitBlock` — cut off or filled up to a given size
- `Screen.panel` — a block in a frame with a title
-/

namespace ByteMachine.Screen

inductive Colour where
  | plain | yellow | red | cyan | green | darkGray | magenta | white | blue
deriving DecidableEq, Repr

structure Style where
  colour : Colour
  bold : Bool
deriving DecidableEq, Repr

def Style.of (colour : Colour) : Style := ⟨colour, false⟩

def Style.strong (colour : Colour) : Style := ⟨colour, true⟩

def Style.plain : Style := .of .plain

structure Cell where
  char : Char
  style : Style
deriving DecidableEq, Repr

abbrev Line := List Cell

/-- Rows of cells, usually all of one width. -/
abbrev Block := List Line

def span (style : Style) (text : List Char) : Line :=
  text.map fun c => ⟨c, style⟩

/-- A row of exactly `width` cells: cut off, or filled up with blanks. -/
def fit (width : Nat) (fill : Style) (line : Line) : Line :=
  (line.take width).rightpad width ⟨' ', fill⟩

def fitBlock (width height : Nat) (fill : Style) (block : Block) : Block :=
  ((block.map (fit width fill)).take height).rightpad height (fit width fill [])

def beside (left right : Block) : Block :=
  List.zipWith (· ++ ·) left right

/-- How a panel is coloured: its frame with the title, and the cells that its contents leave
empty. -/
structure PanelStyle where
  frame : Style
  fill : Style

/-- A block of the given size, at least two by two, that shows `content` in a frame with a title.
The title stands on the upper edge. -/
def panel (width height : Nat) (style : PanelStyle) (title : List Char) (content : Block) :
    Block :=
  let inner := width - 2
  let edge (left right : Char) (title : List Char) : Line :=
    span style.frame (left :: ((title.take inner).rightpad inner '─') ++ [right])
  let side := span style.frame ['│']
  let rows := fitBlock inner (height - 2) style.fill content
  edge '┌' '┐' title :: rows.map (fun row => side ++ row ++ side) ++ [edge '└' '┘' []]

end ByteMachine.Screen
