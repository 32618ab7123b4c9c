import TapeMachine.Text.CodePoint

/-!
# Code points without bytes

An encoding need not have bytes for every code point.  Where it has none for one,
the fault is about that one and those that follow it at once for which there are
none either (`Unencodable`).
-/

namespace TapeMachine.Text

/-- Code points for which an encoding has no bytes: where the first of them is, and all of them. -/
structure Unencodable where
  start : Nat
  points : List CodePoint
  deriving DecidableEq, Repr

namespace Unencodable

/-- Which code points have no bytes, and where they are. -/
def place (u : Unencodable) : String :=
  if u.points.length = 1 then
    "character '" ++ String.ofList (u.points.flatMap fun p => escapeNumber p.number) ++
      "' in position " ++ integer u.start
  else
    "characters in position " ++ integer u.start ++ "-" ++
      integer (u.start + u.points.length - 1 : Nat)

/-- What is said of code points that have no bytes in an encoding, for a reason. -/
def message (u : Unencodable) (encoding reason : String) : String :=
  "'" ++ encoding ++ "' codec can't encode " ++ u.place ++ ": " ++ reason

end Unencodable

/-- The first code points that are not encoded, the very first of all being at place `start`. -/
def firstUnencodable? (isEncoded : CodePoint → Bool) (start : Nat) :
    List CodePoint → Option Unencodable
  | [] => none
  | p :: rest =>
    if isEncoded p then firstUnencodable? isEncoded (start + 1) rest
    else some ⟨start, p :: rest.takeWhile fun q => !isEncoded q⟩

/-- Whether a code point is an ASCII character. -/
def CodePoint.isAscii (p : CodePoint) : Bool := p.number < 0x80

/-- What is said of code points that are not ASCII. -/
def asciiMessage (u : Unencodable) : String := u.message "ascii" "ordinal not in range(128)"

/-- What is said of halves of surrogate pairs in an encoding. -/
def surrogateMessage (encoding : String) (u : Unencodable) : String :=
  u.message encoding "surrogates not allowed"

end TapeMachine.Text
