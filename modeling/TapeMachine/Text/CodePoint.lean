import TapeMachine.Text.Quoted

/-!
# Code points

A code point is a character, or half of a surrogate pair that stands alone.  A
text that was written with escapes may hold such a half, for which there is no
character; `RawText` is a string, or the code points of a text that is none.
-/

namespace TapeMachine.Text

/-- A character, or half of a surrogate pair, counted from the first half. -/
inductive CodePoint
  | char (c : Char)
  | half (n : Fin 0x800)
  deriving DecidableEq, Repr

namespace CodePoint

/-- The number of the first half of a surrogate pair. -/
def firstHalf : Nat := 0xd800

/-- The number of a code point. -/
def number : CodePoint → Nat
  | .char c => c.toNat
  | .half n => firstHalf + n

/-- The code point of a number; numbers beyond all code points do not occur. -/
def ofNumber (n : Nat) : CodePoint :=
  if n.isValidChar then .char (Char.ofNat n) else .half (Fin.ofNat 0x800 (n - firstHalf))

/-- The character that a code point is. -/
def char? : CodePoint → Option Char
  | .char c => some c
  | .half _ => none

/-- Whether a code point is a character that passes a test. -/
def isChar (p : Char → Bool) : CodePoint → Bool
  | .char c => p c
  | .half _ => false

/-- Half of a surrogate pair as an escape. -/
def escapeHalf (n : Fin 0x800) : List Char := '\\' :: 'u' :: hex 4 (firstHalf + n)

/-- A code point as it is written between marks. -/
def escape (mark : Char) : CodePoint → List Char
  | .char c => escapeChar mark c
  | .half n => escapeHalf n

/-- A code point as it is printed where only characters can be: a half as an escape. -/
def printed : CodePoint → List Char
  | .char c => [c]
  | .half n => escapeHalf n

end CodePoint

/-- A text: a string, or the code points of one that holds half a surrogate pair. -/
inductive RawText
  | sound (s : String)
  | broken (points : List CodePoint)
  deriving DecidableEq, Repr

namespace RawText

instance : Coe String RawText := ⟨.sound⟩

/-- The code points of a text. -/
def points : RawText → List CodePoint
  | .sound s => s.toList.map .char
  | .broken ps => ps

/-- The characters of code points, if all of them are characters. -/
def chars? : List CodePoint → Option (List Char)
  | [] => some []
  | p :: rest => do
    let c ← p.char?
    let cs ← chars? rest
    return c :: cs

/-- The text of code points. -/
def ofPoints (ps : List CodePoint) : RawText :=
  match chars? ps with
  | some cs => .sound (String.ofList cs)
  | none => .broken ps

/-- The string that a text is. -/
def string? : RawText → Option String
  | .sound s => some s
  | .broken _ => none

/-- Whether there is nothing in a text. -/
def isEmpty (t : RawText) : Bool := t.points.isEmpty

/-- One text after another. -/
def append : RawText → RawText → RawText
  | .sound s, .sound t => .sound (s ++ t)
  | s, t => .broken (s.points ++ t.points)

instance : Append RawText := ⟨append⟩

/-- Texts with a text between them. -/
def join (between : String) : List RawText → RawText
  | [] => ""
  | [t] => t
  | t :: rest => t ++ RawText.sound between ++ join between rest

/-- A text between marks. -/
def quoteChars (t : RawText) : List Char :=
  match t with
  | .sound s => Text.quoteChars s.toList
  | .broken ps =>
    let mark := quoteMark (ps.filterMap CodePoint.char?)
    mark :: (ps.flatMap (CodePoint.escape mark) ++ [mark])

/-- A text as it is printed where only characters can be. -/
def printed : RawText → String
  | .sound s => s
  | .broken ps => String.ofList (ps.flatMap CodePoint.printed)

/-- Whether a text comes before another or is equal to it, by the numbers of the code points. -/
def le (s t : RawText) : Bool :=
  !List.lex (t.points.map CodePoint.number) (s.points.map CodePoint.number) Nat.blt

theorem points_sound (s : String) : (RawText.sound s).points = s.toList.map .char := rfl

theorem ofPoints_char (c : Char) : ofPoints [.char c] = .sound (String.singleton c) := by
  simp [ofPoints, chars?, CodePoint.char?]

theorem points_ofPoints_singleton (p : CodePoint) : (ofPoints [p]).points = [p] := by
  cases p with
  | char c => rw [ofPoints_char, points_sound, String.toList_singleton, List.map_singleton]
  | half n => rfl

end RawText

end TapeMachine.Text
