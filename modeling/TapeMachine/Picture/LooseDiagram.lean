import TapeMachine.Binary64.Basic
import TapeMachine.Picture.Diagram

/-!
# Diagrams of unchecked values

A diagram may be asked for with configurations, a side of the boxes and a palette
that nothing has checked.  `LooseDiagram.draw` looks at them in the order in which
they are used: the side, the positions, the size of the picture, and then cell by
cell where its box is and the colour that its symbol takes.  Positions may be
decimals as long as the first and the last column are whole.
-/

namespace TapeMachine.Picture

open TapeMachine.Value (Misuse)

/-- Why a value is no colour. -/
inductive ColorFault
  | wrongCount
  | misuse (f : Misuse)
  deriving DecidableEq, Repr

/-- What is said of a value that is no colour. -/
def ColorFault.message : ColorFault → String
  | .wrongCount => "color must be int, or tuple of one, three or four elements"
  | .misuse f => f.message

namespace Color

/-- A part of a colour brought into its range. -/
def clip (n : Int) : Nat := (max 0 (min n 255)).toNat

/-- The colour whose parts are packed into one number, eight bits each, the red ones last. -/
def ofPacked (n : Int) : Color :=
  let part (unit : Int) : Nat := (n / unit % 256).toNat
  ⟨part 1, part 0x100, part 0x10000⟩

/-- The colour of unchecked parts, with an opacity after them or not.  A number by itself holds
packed parts. -/
def ofParts (parts : List Value) : Except ColorFault Color :=
  let ofValues (r g b : Value) (a : Option Value) : Except Misuse Color := do
    let r ← r.asLongWord
    let g ← g.asWord
    let b ← b.asWord
    match a with
    | some a => let _ ← a.asWord
    | none => pure ()
    return ⟨clip r, clip g, clip b⟩
  match parts with
  | [v] =>
    match v.whole? with
    | some _ => (v.asLongWord.map ofPacked).mapError .misuse
    | none => .error .wrongCount
  | [r, g, b] => (ofValues r g b none).mapError .misuse
  | [r, g, b, a] => (ofValues r g b (some a)).mapError .misuse
  | _ => .error .wrongCount

end Color

namespace LooseDiagram

/-- Why no diagram is drawn of unchecked values. -/
inductive Fault
  | diagram (f : Diagram.Fault)
  | color (f : ColorFault)
  | crossedEdges
  | misuse (f : Misuse)
  deriving DecidableEq, Repr

/-- What is said of a fault. -/
def Fault.message : Fault → Text.RawText
  | .diagram f => f.message
  | .color f => f.message
  | .crossedEdges => "x1 must be greater than or equal to x0"
  | .misuse f => f.message

/-- The value that is left when each of some values takes the place of the one before if it beats
it. -/
def champion (beats : Value → Value → Except Misuse Bool) :
    Value → List Value → Except Misuse Value
  | v, [] => .ok v
  | v, w :: rest => do
    if ← beats w v then champion beats w rest else champion beats v rest

/-- The position of the last cell of a configuration. -/
def lastPosition (c : LooseConfiguration) : Except Misuse Value := do
  (← c.firstPosition.plus (.int c.cells.length)).minus (.int 1)

/-- The least position of a cell and the number of columns, over configurations of which `c` is the
first.  The first positions are compared before the last ones are counted. -/
def extent (c : LooseConfiguration) (rest : List LooseConfiguration) :
    Except Misuse (Value × Value) := do
  let left ← champion Value.lessThan c.firstPosition (rest.map (·.firstPosition))
  let last ← lastPosition c
  let right ← champion (fun v w => w.lessThan v) last (← rest.mapM lastPosition)
  return (left, ← (← right.minus left).plus (.int 1))

/-- How a diagram is laid out: the position of its first column, the side of a box, and the parts of
the colours. -/
structure Style where
  origin : Value
  side : Value
  palette : List (List Value)

/-- The edges of a box: its first and its last column and row. -/
structure Edges where
  left : Value
  top : Value
  right : Value
  bottom : Value

/-- The edges of the box of a cell that comes after so many others, in a row whose cells lie from a
position on. -/
def edgesAt (style : Style) (row : Nat) (position : Value) (index : Nat) :
    Except Misuse Edges := do
  let last (v : Value) : Except Misuse Value := do (← v.plus style.side).minus (.int 1)
  let top ← (Value.int row).times style.side
  let left ← (← (← position.plus (.int index)).minus style.origin).times style.side
  return ⟨left, top, ← last left, ← last top⟩

/-- The whole pixels in a number; in an undefined one there are none. -/
def pixels? : Value → Option Int
  | .double (.finite negative x) => some (Binary64.truncate (if negative then -x else x))
  | v => v.whole?

/-- The box that edges enclose: nothing if one of them is undefined.  Of decimals the whole part
counts, and rounding may have brought them past each other. -/
def Edges.box (e : Edges) : Except Fault Box := do
  if ← (e.right.lessThan e.left).mapError .misuse then .error .crossedEdges
  else match pixels? e.left, pixels? e.top, pixels? e.right, pixels? e.bottom with
    | some x, some y, some x', some y' =>
      return ⟨x.toNat, y.toNat, (x' - x + 1).toNat, (y' - y + 1).toNat⟩
    | _, _, _, _ => return ⟨0, 0, 0, 0⟩

/-- The symbols met so far, in order, when one more is met, which must be able to be a key. -/
def meet (seen : List Value) (s : Value) : Except Misuse (List Value) := do
  let s ← s.asKey
  return if seen.any s.agrees then seen else seen ++ [s]

/-- The colour of a symbol, given the symbols met so far. -/
def colorOf (style : Style) (seen : List Value) (s : Value) : Except ColorFault Color :=
  match style.palette[seen.findIdx s.agrees % style.palette.length]? with
  | some parts => Color.ofParts parts
  | none => .ok background

/-- The stroke that fills a cell, and the symbols met with its one; a blank cell is not filled. -/
def fillStroke (style : Style) (seen : List Value) (e : Edges) (s : Value) :
    Except Fault (List Stroke × List Value) := do
  if s.same (.ofSymbol blank) then return ([], seen)
  else
    let seen ← (meet seen s).mapError .misuse
    let color ← (colorOf style seen s).mapError .color
    return ([⟨← e.box, color⟩], seen)

/-- The strokes that mark the head. -/
def headStrokes (style : Style) (e : Edges) : Except Fault (List Stroke) := do
  let small ← (style.side.lessThan (.int Diagram.leastBorderedSide)).mapError .misuse
  return Diagram.headStrokes (!small) (← e.box)

/-- The strokes for the cells of a row after so many others. -/
def cellStrokes (style : Style) (row : Nat) (c : LooseConfiguration) :
    (index : Nat) → (seen : List Value) → List Value → Except Fault (List Stroke × List Value)
  | _, seen, [] => .ok ([], seen)
  | index, seen, s :: rest => do
    let edges ← (edgesAt style row c.firstPosition index).mapError .misuse
    let (fill, seen) ← fillStroke style seen edges s
    let mark ← if (Value.int index).same c.head then headStrokes style edges else .ok []
    let (strokes, seen) ← cellStrokes style row c (index + 1) seen rest
    return (fill ++ mark ++ strokes, seen)

/-- The strokes for configurations from a row on. -/
def rowStrokes (style : Style) :
    (row : Nat) → (seen : List Value) → List LooseConfiguration → Except Fault (List Stroke)
  | _, _, [] => .ok []
  | row, seen, c :: rest => do
    let (strokes, seen) ← cellStrokes style row c 0 seen c.cells
    return strokes ++ (← rowStrokes style (row + 1) seen rest)

/-- How a diagram is laid out from a position on; an empty palette stands for the default. -/
def styleOf (origin side : Value) (palette : List (List Value)) : Style :=
  ⟨origin, side,
    if palette.isEmpty then
      defaultPalette.map fun c => [.int c.red, .int c.green, .int c.blue]
    else palette⟩

/-- The diagram of unchecked configurations.  Of the colours of a palette, only those that symbols
take need be colours. -/
def draw (room : Room) (configurations : List LooseConfiguration) (cellSize : Value)
    (palette : List (List Value)) : Except Fault (Raster Color) := do
  match configurations with
  | [] => .error (.diagram .noConfiguration)
  | c :: rest =>
    if ← (cellSize.lessThan (.int 1)).mapError .misuse then .error (.diagram .cellTooSmall)
    else
      let (origin, columns) ← (extent c rest).mapError .misuse
      let width ← (columns.times cellSize).mapError .misuse
      let height ← ((Value.int configurations.length).times cellSize).mapError .misuse
      let (w, h) ← (Size.check room width height).mapError fun f => .diagram (.size f)
      let strokes ← rowStrokes (styleOf origin cellSize palette) 0 [] configurations
      return (Raster.solid w.toNat h.toNat background).strokes strokes

end LooseDiagram

end TapeMachine.Picture
