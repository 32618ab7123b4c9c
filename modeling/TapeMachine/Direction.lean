import TapeMachine.Value.Basic

/-!
# Directions

A head moves one cell to the left, one to the right, or stays.  Programs write
the three directions as letters; a table made by hand may give them as numbers.
-/

namespace TapeMachine

/-- Where the head goes in a step. -/
inductive Direction
  | left
  | stay
  | right
  deriving DecidableEq, Repr

namespace Direction

/-- How far the head goes: -1, 0 or 1. -/
def offset : Direction → Int
  | .left => -1
  | .stay => 0
  | .right => 1

/-- The letter of a direction. -/
def letter : Direction → Char
  | .left => 'L'
  | .stay => 'N'
  | .right => 'R'

/-- The direction of a letter, which stands alone. -/
def ofToken? : List Char → Option Direction
  | ['L'] => some .left
  | ['N'] => some .stay
  | ['R'] => some .right
  | _ => none

/-- The direction of an offset. -/
def ofOffset? (n : Int) : Option Direction :=
  if n = -1 then some .left else if n = 0 then some .stay else if n = 1 then some .right else none

/-- The direction that a value names by its letter. -/
def ofLetter? (v : Value) : Option Direction := do ofToken? (← v.string?).toList

/-- The direction that a value names by its offset. -/
def ofValue? (v : Value) : Option Direction := v.integer?.bind ofOffset?

/-- What is said of a value that is not the letter of a direction. -/
def unknownLetter (v : Value) : String :=
  "Invalid direction " ++ v.shown ++ ", must be 'L', 'R' or 'N'"

theorem ofToken?_letter (d : Direction) : ofToken? [d.letter] = some d := by
  cases d <;> rfl

theorem ofOffset?_offset (d : Direction) : ofOffset? d.offset = some d := by
  cases d <;> rfl

theorem ofOffset?_eq_some_iff {n : Int} {d : Direction} : ofOffset? n = some d ↔ n = d.offset := by
  refine ⟨fun h => ?_, fun h => h ▸ ofOffset?_offset d⟩
  unfold ofOffset? at h
  split at h
  · next hn => cases h; exact hn
  split at h
  · next hn => cases h; exact hn
  split at h
  · next hn => cases h; exact hn
  · contradiction

theorem ofToken?_eq_some_iff {t : List Char} {d : Direction} :
    ofToken? t = some d ↔ t = [d.letter] := by
  constructor
  · intro h
    unfold ofToken? at h
    split at h <;> simp_all [letter] <;> subst h <;> rfl
  · rintro rfl
    exact ofToken?_letter d

end Direction

end TapeMachine
