import TapeMachine.Configuration
import TapeMachine.Picture.Raster
import TapeMachine.Picture.Size

/-!
# Space-time diagrams

A diagram shows a run: a row of square boxes for each configuration, a column
for each position of the tape.  A cell that is not blank is filled with its
symbol's colour; symbols take the colours of a palette in the order in which
they first appear, and start over when it is used up.  The cell under the head
has a border in a colour of its own, and is filled with it where a box is too
small for a border.
-/

namespace TapeMachine.Picture

open TapeMachine.Text

/-- The colour of everything that is not drawn on. -/
def background : Color := ⟨255, 255, 255⟩

/-- The colour that marks the head. -/
def headColor : Color := ⟨220, 40, 40⟩

/-- The colours of symbols unless others are asked for. -/
def defaultPalette : List Color :=
  [⟨255, 160, 0⟩, ⟨40, 90, 200⟩, ⟨30, 150, 80⟩, ⟨150, 60, 170⟩, ⟨90, 90, 90⟩, ⟨0, 170, 190⟩]

/-- A stroke of the brush: a box that is filled with a colour. -/
structure Stroke where
  box : Box
  color : Color

/-- Make strokes one after another. -/
def Raster.strokes (r : Raster Color) (ss : List Stroke) : Raster Color :=
  ss.foldl (fun r s => r.fill s.box s.color) r

namespace Diagram

/-- Why no diagram is drawn. -/
inductive Fault
  | noConfiguration
  | cellTooSmall
  | size (f : SizeFault)
  deriving DecidableEq, Repr

/-- What is said of a fault. -/
def Fault.message : Fault → RawText
  | .noConfiguration => "At least one configuration is required"
  | .cellTooSmall => "cell_size must be at least 1"
  | .size f => f.message

/-- Whether a fault is of a kind that is expected. -/
def Fault.isExpected : Fault → Bool
  | .noConfiguration | .cellTooSmall => true
  | .size f => f.isExpected

/-- The position of the last cell of a configuration. -/
def lastPosition (c : Configuration) : Int := c.firstPosition + c.cells.length - 1

/-- The least position of a cell, over configurations of which `c` is the first. -/
def leftmost (c : Configuration) (rest : List Configuration) : Int :=
  rest.foldl (fun p d => min p d.firstPosition) c.firstPosition

/-- The greatest position of a cell, over configurations of which `c` is the first. -/
def rightmost (c : Configuration) (rest : List Configuration) : Int :=
  rest.foldl (fun p d => max p (lastPosition d)) (lastPosition c)

/-- How a diagram is laid out: the position of its first column, the side of a box, the colours. -/
structure Style where
  origin : Int
  side : Nat
  palette : List Color

/-- The box of a position in a row. -/
def boxAt (style : Style) (row : Nat) (position : Int) : Box :=
  ⟨(position - style.origin).toNat * style.side, row * style.side, style.side, style.side⟩

/-- The least side of a box on which a border is drawn. -/
def leastBorderedSide : Nat := 3

/-- The strokes that mark the head in a box: its border or all of it. -/
def headStrokes (bordered : Bool) (b : Box) : List Stroke :=
  (if bordered then b.border else [b]).map (⟨·, headColor⟩)

/-- The symbols met so far, in order, when one more is met. -/
def meet (seen : List Char) (s : Char) : List Char := if seen.contains s then seen else seen ++ [s]

/-- The colour of a symbol, given the symbols met so far. -/
def colorOf (style : Style) (seen : List Char) (s : Char) : Color :=
  style.palette[seen.idxOf s % style.palette.length]?.getD background

/-- The strokes for the cells of a row from a position on; `head` counts the cells before the
head. -/
def cellStrokes (style : Style) (row : Nat) :
    (position head : Int) → (seen : List Char) → List Char → List Stroke × List Char
  | _, _, seen, [] => ([], seen)
  | position, head, seen, s :: rest =>
    let box := boxAt style row position
    let seen := if s = blank then seen else meet seen s
    let fill := if s = blank then [] else [⟨box, colorOf style seen s⟩]
    let mark := if head = 0 then headStrokes (leastBorderedSide ≤ style.side) box else []
    let (strokes, seen) := cellStrokes style row (position + 1) (head - 1) seen rest
    (fill ++ mark ++ strokes, seen)

/-- The strokes for configurations from a row on. -/
def rowStrokes (style : Style) :
    (row : Nat) → (seen : List Char) → List Configuration → List Stroke
  | _, _, [] => []
  | row, seen, c :: rest =>
    let (strokes, seen) := cellStrokes style row c.firstPosition c.head seen c.cells
    strokes ++ rowStrokes style (row + 1) seen rest

/-- How a diagram of configurations is laid out, with boxes of a given side and a palette that is
not empty. -/
def styleOf (c : Configuration) (rest : List Configuration) (side : Nat)
    (palette : Option (List Color)) : Style :=
  ⟨leftmost c rest, side,
    match palette with
    | some (p :: ps) => p :: ps
    | _ => defaultPalette⟩

/-- The number of columns of a diagram. -/
def columns (c : Configuration) (rest : List Configuration) : Nat :=
  (rightmost c rest - leftmost c rest + 1).toNat

/-- The picture of configurations in order, of which `c` is the first. -/
def paint (style : Style) (c : Configuration) (rest : List Configuration) : Raster Color :=
  let canvas :=
    Raster.solid (columns c rest * style.side) ((rest.length + 1) * style.side) background
  canvas.strokes (rowStrokes style 0 [] (c :: rest))

/-- The diagram of configurations in order, with boxes of a given side; no palette or an empty one
stands for the default. -/
def draw (room : Room) (configurations : List Configuration) (cellSize : Int)
    (palette : Option (List Color)) : Except Fault (Raster Color) :=
  match configurations with
  | [] => .error .noConfiguration
  | c :: rest =>
    if cellSize < 1 then .error .cellTooSmall
    else
      match
        Size.check room (.int (columns c rest * cellSize)) (.int ((rest.length + 1) * cellSize))
      with
      | .error f => .error (.size f)
      | .ok _ => .ok (paint (styleOf c rest cellSize.toNat palette) c rest)

end Diagram

end TapeMachine.Picture
