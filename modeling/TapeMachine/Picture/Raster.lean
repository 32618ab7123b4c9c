import TapeMachine.Picture.Box

/-!
# Rasters

A raster is a rectangle of pixels.  `fill` gives the places of a box one colour;
what lies outside the raster is left out.  `pixel?_fill` says what a place holds
afterwards.
-/

namespace TapeMachine.Picture

/-- An opaque colour: its parts from 0 to 255. -/
structure Color where
  red : Nat
  green : Nat
  blue : Nat
  deriving DecidableEq, Repr

/-- A rectangle of pixels, row by row from the top. -/
structure Raster (α : Type) where
  width : Nat
  height : Nat
  rows : Array (Array α)

namespace Raster

variable {α : Type}

/-- A raster of one colour. -/
def solid (width height : Nat) (c : α) : Raster α :=
  ⟨width, height, Array.replicate height (Array.replicate width c)⟩

/-- The pixel in column `x` of row `y`. -/
def pixel? (r : Raster α) (x y : Nat) : Option α := r.rows[y]?.bind fun row => row[x]?

/-- Give so many pixels of a row from column `x` on one colour. -/
def fillSpan (c : α) : (count x : Nat) → Array α → Array α
  | 0, _, row => row
  | count + 1, x, row => fillSpan c count (x + 1) (row.setIfInBounds x c)

/-- Change so many rows from row `y` on. -/
def changeRows (f : Array α → Array α) : (count y : Nat) → Array (Array α) → Array (Array α)
  | 0, _, rows => rows
  | count + 1, y, rows => changeRows f count (y + 1) (rows.modify y f)

/-- Give the places of a box one colour. -/
def fill (r : Raster α) (b : Box) (c : α) : Raster α :=
  { r with rows := changeRows (fillSpan c b.width b.left) b.height b.top r.rows }

/-- The raster whose pixels are given by a function of column and row. -/
def generate (width height : Nat) (f : Nat → Nat → α) : Raster α :=
  ⟨width, height, Array.ofFn fun y : Fin height => Array.ofFn fun x : Fin width => f x y⟩

@[simp] theorem width_fill (r : Raster α) (b : Box) (c : α) : (r.fill b c).width = r.width := rfl

@[simp] theorem height_fill (r : Raster α) (b : Box) (c : α) :
    (r.fill b c).height = r.height := rfl

theorem pixel?_solid (w h : Nat) (c : α) (x y : Nat) :
    (solid w h c).pixel? x y = if x < w ∧ y < h then some c else none := by
  by_cases hy : y < h <;> by_cases hx : x < w <;> simp [solid, pixel?, hx, hy]

theorem getElem?_fillSpan (c : α) (count start x : Nat) (row : Array α) :
    (fillSpan c count start row)[x]?
      = if start ≤ x ∧ x < start + count then row[x]?.map fun _ => c else row[x]? := by
  induction count generalizing start row with
  | zero => rw [fillSpan, if_neg (by omega)]
  | succ count ih =>
    rw [fillSpan, ih, Array.getElem?_setIfInBounds]
    by_cases hs : start = x
    · subst hs
      rw [if_neg (by omega), if_pos rfl]
      by_cases hb : start < row.size <;> simp [hb]
    · have h : (start + 1 ≤ x ∧ x < start + 1 + count) ↔ (start ≤ x ∧ x < start + (count + 1)) := by
        omega
      simp only [if_neg hs, h]

theorem getElem?_changeRows (f : Array α → Array α) (count start y : Nat)
    (rows : Array (Array α)) :
    (changeRows f count start rows)[y]?
      = if start ≤ y ∧ y < start + count then rows[y]?.map f else rows[y]? := by
  induction count generalizing start rows with
  | zero => rw [changeRows, if_neg (by omega)]
  | succ count ih =>
    rw [changeRows, ih, Array.getElem?_modify]
    by_cases hs : start = y
    · subst hs
      rw [if_neg (by omega), if_pos rfl, if_pos (by omega)]
    · have h : (start + 1 ≤ y ∧ y < start + 1 + count) ↔ (start ≤ y ∧ y < start + (count + 1)) := by
        omega
      simp only [if_neg hs, h]

/-- **After a box is filled, a place holds the colour if it is in the box, and what it held if
not.** -/
theorem pixel?_fill (r : Raster α) (b : Box) (c : α) (x y : Nat) :
    (r.fill b c).pixel? x y
      = if b.contains x y then (r.pixel? x y).map fun _ => c else r.pixel? x y := by
  simp only [pixel?, fill, getElem?_changeRows, Box.contains_iff]
  by_cases hy : b.top ≤ y ∧ y < b.top + b.height
  · cases h : r.rows[y]? with
    | none => simp [hy]
    | some row => simp [hy, getElem?_fillSpan]
  · simp [hy]

end Raster

end TapeMachine.Picture
