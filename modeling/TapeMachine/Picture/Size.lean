import TapeMachine.Value.Operation

/-!
# Sizes of rasters

A raster is asked for with a width and a height that nothing has checked.  Both
must be whole numbers in words of 32 bits.  Whether there is room for a raster of
that size is up to the picture library, and so is what it says if there is none:
`Room` holds its calls for new rasters and for rasters made of others, which may
raise something.  The command line expects two kinds of what is raised, faults of
the system and of values (`Raised.isExpected`).
-/

namespace TapeMachine.Picture

open TapeMachine.Text

/-- The kinds of what is raised. -/
inductive Raised.Kind
  | system
  | value
  | other (name : String)
  deriving DecidableEq, Repr

/-- What a call of a library raises, with what it says. -/
structure Raised where
  kind : Raised.Kind
  message : RawText
  deriving DecidableEq, Repr

/-- Whether something is of a kind that is expected. -/
def Raised.isExpected (r : Raised) : Bool := r.kind = .system || r.kind = .value

/-- What a picture library has room for: a new raster of a size, one that another is brought to,
smoothly or not, and one of a size with an opacity.  What there is room for, there is room for
anything smaller. -/
structure Room where
  new : (width height : Int) → Except Raised Unit
  scale : (smoothly : Bool) → (width height : Int) → Except Raised Unit
  addOpacity : (width height : Int) → Except Raised Unit
  new_of_le : ∀ {width height width' height' : Int}, new width' height' = .ok () →
    0 ≤ width → width ≤ width' → 0 ≤ height → height ≤ height' → new width height = .ok ()

/-- Room for everything. -/
def Room.boundless : Room where
  new _ _ := .ok ()
  scale _ _ _ := .ok ()
  addOpacity _ _ := .ok ()
  new_of_le := fun _ _ _ _ _ => rfl

/-- Why there is no raster of a size. -/
inductive SizeFault
  | misuse (f : Value.Misuse)
  | raised (r : Raised)
  deriving DecidableEq, Repr

namespace SizeFault

/-- What is said of a fault. -/
def message : SizeFault → RawText
  | .misuse f => f.message
  | .raised r => r.message

/-- Whether a fault is of a kind that is expected. -/
def isExpected : SizeFault → Bool
  | .misuse _ => false
  | .raised r => r.isExpected

end SizeFault

/-- The size of a new raster in whole numbers, the width before the height. -/
def Size.check (room : Room) (width height : Value) : Except SizeFault (Int × Int) := do
  let w ← width.asWord.mapError .misuse
  let h ← height.asWord.mapError .misuse
  (room.new w h).mapError .raised
  return (w, h)

end TapeMachine.Picture
