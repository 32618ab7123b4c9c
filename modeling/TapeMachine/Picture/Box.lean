/-!
# Boxes

A box is a rectangle of places, each a column and a row.  `border` cuts the outer
places of a box out as boxes of their own.
-/

namespace TapeMachine.Picture

/-- A rectangle of places by its upper left one and its size. -/
structure Box where
  left : Nat
  top : Nat
  width : Nat
  height : Nat
  deriving DecidableEq, Repr

namespace Box

/-- Whether a place is in a box. -/
def contains (b : Box) (x y : Nat) : Bool :=
  (b.left ≤ x && x < b.left + b.width) && (b.top ≤ y && y < b.top + b.height)

/-- Whether a place is in an outer row or column of a box. -/
def onBorder (b : Box) (x y : Nat) : Bool :=
  x = b.left || x + 1 = b.left + b.width || y = b.top || y + 1 = b.top + b.height

/-- The outer rows and columns of a box. -/
def border (b : Box) : List Box :=
  let row : Box := { b with height := min 1 b.height }
  let column : Box := { b with width := min 1 b.width }
  [row, { row with top := b.top + (b.height - 1) },
    column, { column with left := b.left + (b.width - 1) }]

theorem contains_iff {b : Box} {x y : Nat} :
    b.contains x y
      ↔ (b.left ≤ x ∧ x < b.left + b.width) ∧ (b.top ≤ y ∧ y < b.top + b.height) := by
  simp [contains]

theorem exists_mem_border {b : Box} {x y : Nat} :
    (∃ e ∈ b.border, e.contains x y) ↔ b.contains x y ∧ b.onBorder x y := by
  simp only [border, List.mem_cons, List.not_mem_nil, or_false, exists_eq_or_imp, exists_eq_left,
    contains_iff, onBorder, Bool.or_eq_true, decide_eq_true_eq]
  omega

end Box

end TapeMachine.Picture
