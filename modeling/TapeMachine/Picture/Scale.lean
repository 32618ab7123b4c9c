import TapeMachine.Binary64.Basic
import TapeMachine.Picture.Raster
import TapeMachine.Picture.Size

/-!
# Scaling a raster

A raster of the right size is kept.  One that gets wider is scaled by taking
for each new pixel the nearest old one, so that its edges stay crisp; any
other is blurred and smoothed.  Only the kind of scaling is decided here for
the last, not its pixels.
-/

namespace TapeMachine.Picture

open TapeMachine.Binary64

/-- How a raster gets its new size. -/
inductive Scaling
  | kept
  | nearest
  | smooth
  deriving DecidableEq, Repr

/-- Why a raster is not scaled. -/
inductive ScaleFault
  | zeroWidth
  | zeroDecimalWidth
  | emptyTarget
  | size (f : SizeFault)
  | misuse (f : Value.Misuse)
  deriving DecidableEq, Repr

/-- What is said of a fault. -/
def ScaleFault.message : ScaleFault → Text.RawText
  | .zeroWidth => "division by zero"
  | .zeroDecimalWidth => "float division by zero"
  | .emptyTarget => "height and width must be > 0"
  | .size f => f.message
  | .misuse f => f.message

/-- Whether a fault is of a kind that is expected. -/
def ScaleFault.isExpected : ScaleFault → Bool
  | .emptyTarget => true
  | .size f => f.isExpected
  | .zeroWidth | .zeroDecimalWidth | .misuse _ => false

/-- How a raster of one size is brought to another: the ratio of the widths decides. -/
def scaling (oldWidth oldHeight : Nat) (width height : Int) : Except ScaleFault Scaling :=
  if oldWidth = width ∧ oldHeight = height then .ok .kept
  else if width = 0 then .error .zeroWidth
  else
    let ratio := Binary64.nearest ((oldWidth : Rat) / (width : Rat))
    if width ≤ 0 ∨ height ≤ 0 then .error .emptyTarget
    else .ok (if ratio < 1 then .nearest else .smooth)

/-- How a raster is brought to a size given by unchecked values.  Its own size need not be given in
whole numbers; any other must be, and in words of 32 bits, and there must be room for it. -/
def looseScaling (room : Room) (oldWidth oldHeight : Nat) (width height : Value) :
    Except ScaleFault Scaling :=
  if (Value.int oldWidth).same width && (Value.int oldHeight).same height then .ok .kept
  else match width.amount? with
    | none => .error (.misuse (.noOperator "/" .int width.kind))
    | some a =>
      if a.same (.finite 0) then
        .error (if width.kind = .double then .zeroDecimalWidth else .zeroWidth)
      else do
        let w ← width.asWord.mapError .misuse
        let h ← height.asWord.mapError .misuse
        let s ← scaling oldWidth oldHeight w h
        (room.scale (s = .smooth) w h).mapError fun r => .size (.raised r)
        return s

/-- The old pixel for each of the new ones from `count` on, counted down: `place` is where the next
one falls. -/
def samplesFrom (step : Rat) : (count : Nat) → (place : Rat) → List Nat
  | 0, _ => []
  | count + 1, place =>
    (truncate place).toNat :: samplesFrom step count (Binary64.nearest (place + step))

/-- The old pixel for each new one along an axis: the one at the middle of the new pixel. -/
def samples (old new : Nat) : List Nat :=
  let step := Binary64.nearest ((old : Rat) / (new : Rat))
  samplesFrom step new (Binary64.nearest (step / 2))

/-- The raster scaled by nearest pixels; `missing` stands for pixels that a raster without any
lacks. -/
def Raster.scaleNearest {α : Type} (r : Raster α) (width height : Nat) (missing : α) : Raster α :=
  let xs := (samples r.width width).toArray
  let ys := (samples r.height height).toArray
  Raster.generate width height fun x y => (r.pixel? (xs.getD x 0) (ys.getD y 0)).getD missing

end TapeMachine.Picture
