import TapeMachine.Text.CodePoint
import TapeMachine.Text.Lower.Table
import TapeMachine.Text.Ranges

/-!
# Small letters

`RawText.lower` writes a text in small letters.  A capital letter gives way to
its small one; `İ` gives way to an `i` with a dot, and a capital sigma to the
small sigma that stands at the end of a word if it stands there: behind a letter
and not before one, with what is passed over set aside.
-/

namespace TapeMachine.Text

/-- The capital sigma. -/
def capitalSigma : Nat := 0x3a3

/-- The capital `I` with a dot, whose small letter takes two characters. -/
def dottedCapital : Nat := 0x130

/-- The number of the small letter of a code point. -/
def lowerNumber (n : Nat) : Nat :=
  match capitals.find? fun r => r.first ≤ n && n ≤ r.last && (n - r.first) % r.step = 0 with
  | some r => ((n : Int) + r.distance).toNat
  | none => n

/-- Whether the next of some code points that is not passed over is a letter with a case. -/
def meetsCased (ps : List Nat) : Bool :=
  match ps.dropWhile (inRanges caseIgnorable) with
  | n :: _ => inRanges cased n
  | [] => false

/-- Code points in small letters, given those before them, the last one first. -/
def lowerFrom (before : List Nat) : List Nat → List Nat
  | [] => []
  | n :: rest =>
    (if n = capitalSigma then
        [if meetsCased before && !meetsCased rest then 0x3c2 else 0x3c3]
      else if n = dottedCapital then [0x69, 0x307]
      else [lowerNumber n]) ++ lowerFrom (n :: before) rest

/-- A text in small letters. -/
def RawText.lower (t : RawText) : RawText :=
  .ofPoints ((lowerFrom [] (t.points.map CodePoint.number)).map CodePoint.ofNumber)

/-- Characters in small letters. -/
def lower (s : List Char) : List Char :=
  (lowerFrom [] (s.map Char.toNat)).map Char.ofNat

end TapeMachine.Text
