import TapeMachine.Binary64.Basic

/-!
# Icons

An icon file holds a picture fitted into squares of some fixed sides, none of them
longer than the picture is wide or high (`Icon.size?`).  A picture into which none
of the squares fits is kept as it is, but only if it fits into the largest of them.
The proportion of the sides is worked out in double precision.
-/

namespace TapeMachine.Picture.Icon

open TapeMachine.Binary64

/-- The sides of the squares. -/
def sides : List Nat := [16, 24, 32, 48, 64, 128, 256]

/-- The one of the two whole numbers around a length that is off by less; no side is shorter than a
pixel. -/
def roundSide (length : Rat) (off : Nat → Rat) : Nat :=
  let low := length.floor.toNat
  let high := length.ceil.toNat
  max (if off high < off low then high else low) 1

/-- The size of a picture fitted into a square: its longer side is that of the square, and the other
keeps the proportion as well as it can. -/
def fit (side width height : Nat) : Nat × Nat :=
  let aspect := nearest ((width : Rat) / (height : Rat))
  let off (ratio : Rat) : Rat := (nearest (aspect - nearest ratio)).abs
  if aspect ≤ 1 then
    (roundSide (nearest (side * aspect)) fun n => off (n / side), side)
  else
    (side, roundSide (nearest (side / aspect)) fun n => if n = 0 then 0 else off (side / n))

/-- The side of the largest square that fits into a picture. -/
def largest? (width height : Nat) : Option Nat :=
  (sides.filter fun s => s ≤ width && s ≤ height).getLast?

/-- The longest side of a picture that is kept as it is. -/
def maxSide : Nat := 256

/-- The size of the largest picture in the icon file of a picture, if there is one. -/
def size? (width height : Nat) : Option (Nat × Nat) :=
  match largest? width height with
  | none => if width ≤ maxSide ∧ height ≤ maxSide then some (width, height) else none
  | some side => some (fit side width height)

end TapeMachine.Picture.Icon
