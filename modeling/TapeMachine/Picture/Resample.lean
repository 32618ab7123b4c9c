import TapeMachine.Picture.Raster

/-!
# Smooth scaling

A raster gets another size by mixing colours: each new pixel is a weighed mean of
the old ones around its place, first along the rows and then along the columns.
A `Curve` says how much an old pixel counts at a distance, a `Mix` holds what one
new pixel is made of, and `Raster.resample` makes the raster of the new size.
`resample_self`: a raster of the right size is kept.

The weights are worked out in double precision and then kept as whole multiples
of a small unit, so that the colours are mixed in whole numbers.
-/

namespace TapeMachine.Picture

/-- How much a pixel counts at a distance: by a cubic curve, or by a sine wave that dies away. -/
inductive Curve
  | cubic
  | sine
  deriving DecidableEq, Repr

namespace Curve

/-- How many pixels to either side of a place count. -/
def reach : Curve → Float
  | .cubic => 2
  | .sine => 3

/-- Half a turn. -/
def halfTurn : Float := 3.141592653589793

/-- A sine wave that is one at zero and dies away to both sides. -/
def wave (x : Float) : Float :=
  if x == 0 then 1 else (x * halfTurn).sin / (x * halfTurn)

/-- How much a pixel counts at a distance.  The sine wave dies away within its reach. -/
def weight (c : Curve) (x : Float) : Float :=
  match c with
  | .cubic =>
    let x := x.abs
    if x < 1 then (1.5 * x - 2.5) * x * x + 1
    else if x < 2 then (((x - 5) * x + 8) * x - 4) * -0.5
    else 0
  | .sine => if -3 ≤ x && x < 3 then wave x * wave (x / 3) else 0

end Curve

/-- What a new pixel is made of: how much each old pixel from the first one on counts. -/
structure Mix where
  first : Nat
  weights : List Int

namespace Mix

/-- The multiple of `2 ^ -22` that is nearest to a weight; a half goes away from zero. -/
def multiple (w : Float) : Int :=
  let size : Int := (w.abs * 0x400000 + 0.5).toUInt64.toNat
  if w < 0 then -size else size

/-- What the new pixel with an index is made of when a row of old pixels becomes one of new ones.
Pixels that are put closer together count over as much more of the row. -/
def ofCurve (c : Curve) (old new index : Nat) : Mix :=
  let scale := old.toFloat / new.toFloat
  let stretch := if scale < 1 then 1 else scale
  let reach := c.reach * stretch
  let center := (index.toFloat + 0.5) * scale
  let first := (center - reach + 0.5).toUInt64.toNat
  let stop := min (center + reach + 0.5).toUInt64.toNat old
  let shrink := 1 / stretch
  let weights := (List.range (stop - first)).map fun i =>
    c.weight (((first + i).toFloat - center + 0.5) * shrink)
  let total := weights.foldl (· + ·) 0
  ⟨first, weights.map fun w => multiple (if total == 0 then w else w / total)⟩

/-- The part of a colour that a weighed sum comes to, in its range. -/
def part (sum : Int) : Nat := (min ((sum + 0x200000) / 0x400000) 255).toNat

/-- The colour that the pixels of a row from column `x` on come to, with the sums so far. -/
def colorFrom (row : Array Color) :
    (weights : List Int) → (x : Nat) → (red green blue : Int) → Color
  | [], _, red, green, blue => ⟨part red, part green, part blue⟩
  | w :: rest, x, red, green, blue =>
    let c := row.getD x ⟨0, 0, 0⟩
    colorFrom row rest (x + 1) (red + w * c.red) (green + w * c.green) (blue + w * c.blue)

/-- The colour that a mix of a row is. -/
def color (m : Mix) (row : Array Color) : Color := colorFrom row m.weights m.first 0 0 0

end Mix

namespace Raster

/-- The raster with rows for columns. -/
def transpose (r : Raster Color) : Raster Color :=
  ⟨r.height, r.width,
    Array.ofFn fun x : Fin r.width => r.rows.map fun row => row.getD x ⟨0, 0, 0⟩⟩

/-- The raster with its rows brought to another width. -/
def resampleRows (r : Raster Color) (c : Curve) (width : Nat) : Raster Color :=
  if r.width = width then r
  else
    let mixes := Array.ofFn fun i : Fin width => Mix.ofCurve c r.width width i
    ⟨width, r.height, r.rows.map fun row => mixes.map fun m => m.color row⟩

/-- The raster brought to another size. -/
def resample (r : Raster Color) (c : Curve) (width height : Nat) : Raster Color :=
  let wide := r.resampleRows c width
  if r.height = height then wide
  else (wide.transpose.resampleRows c height).transpose

@[simp] theorem width_resampleRows (r : Raster Color) (c : Curve) (width : Nat) :
    (r.resampleRows c width).width = width := by
  by_cases h : r.width = width <;> simp [resampleRows, h]

@[simp] theorem height_resampleRows (r : Raster Color) (c : Curve) (width : Nat) :
    (r.resampleRows c width).height = r.height := by
  by_cases h : r.width = width <;> simp [resampleRows, h]

@[simp] theorem width_resample (r : Raster Color) (c : Curve) (width height : Nat) :
    (r.resample c width height).width = width := by
  by_cases h : r.height = height <;> simp [resample, h, transpose]

@[simp] theorem height_resample (r : Raster Color) (c : Curve) (width height : Nat) :
    (r.resample c width height).height = height := by
  by_cases h : r.height = height <;> simp [resample, h, transpose]

/-- A raster of the right size is kept. -/
theorem resample_self (r : Raster Color) (c : Curve) : r.resample c r.width r.height = r := by
  simp [resample, resampleRows]

end Raster

end TapeMachine.Picture
