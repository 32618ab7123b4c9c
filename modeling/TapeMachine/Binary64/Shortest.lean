import TapeMachine.Binary64.Basic
import TapeMachine.Text.Numeral

/-!
# Reading and writing doubles

`ofDecimal` reads a decimal number as the nearest double.  `shortest` is the
other way: the fewest decimal digits that read back as the double, and of those
the ones nearest to it.  The text has a point for exponents from -4 to 15 and
an exponent of at least two digits elsewhere.
-/

namespace TapeMachine.Binary64

open TapeMachine.Text

/-- A double: finite with its sign, infinite with its sign, or no number. -/
inductive Double
  | finite (negative : Bool) (magnitude : Rat)
  | infinite (negative : Bool)
  | undefined

/-- The number of decimal digits of a natural number; zero has one. -/
def digitCount (n : Nat) : Nat := (decimal n).length

/-- The double nearest to `digits * 10 ^ exponent`.  Far outside the range of doubles nothing is
computed. -/
def ofDecimal (negative : Bool) (digits : Nat) (exponent : Int) : Double :=
  let size : Int := digitCount digits + exponent
  if digits = 0 ∨ size < -400 then .finite negative 0
  else if 400 < size then .infinite negative
  else
    let x := nearest ((digits : Rat) * (10 : Rat) ^ exponent)
    if tooLarge ≤ x then .infinite negative else .finite negative x

/-- The two neighbours of a positive number on the grid of `n` significant digits, as digits and
exponent, given the exponent `size` of its first digit. -/
def gridNeighbours (x : Rat) (size : Int) (n : Nat) : List (Nat × Int) :=
  let e : Int := size - n
  let low := (x / (10 : Rat) ^ e).floor.toNat
  [(low, e), (low + 1, e)]

/-- The number on a decimal grid. -/
def gridValue (g : Nat × Int) : Rat := (g.1 : Rat) * (10 : Rat) ^ g.2

/-- Of two points of a grid the one nearer to `x`, and of two equally near ones the even one. -/
def nearer (x : Rat) (a b : Nat × Int) : Nat × Int :=
  let da := (gridValue a - x).abs
  let db := (gridValue b - x).abs
  if da < db then a else if db < da then b else if a.1 % 2 = 0 then a else b

/-- The exponent `s` with `10 ^ (s - 1) ≤ x < 10 ^ s` of a positive number. -/
def decimalSize (x : Rat) : Int :=
  let s : Int := digitCount x.num.natAbs - digitCount x.den
  if x < (10 : Rat) ^ s then s else s + 1

/-- The digits and exponent of the shortest decimal that reads back as a positive double; the
search runs over the number of digits. -/
def shortestFrom (x : Rat) (size : Int) : (fuel n : Nat) → Nat × Int
  | 0, n => ((x / (10 : Rat) ^ (size - n)).floor.toNat, size - n)
  | fuel + 1, n =>
    match (gridNeighbours x size n).filter fun g => nearest (gridValue g) == x with
    | [] => shortestFrom x size fuel (n + 1)
    | [g] => g
    | g :: h :: _ => nearer x g h

/-- The digits and exponent of the shortest decimal that reads back as a positive double. -/
def shortest (x : Rat) : Nat × Int := shortestFrom x (decimalSize x) 17 1

/-- Digits with a decimal point after the first `point` of them, or an exponent. -/
def layout (digits : List Char) (point : Int) : List Char :=
  let n : Int := digits.length
  if point ≤ -4 ∨ 16 < point then
    let e := point - 1
    let mantissa := match digits with
      | [d] => [d]
      | d :: rest => d :: '.' :: rest
      | [] => []
    let size := decimal e.natAbs
    mantissa ++ ['e', if e < 0 then '-' else '+'] ++
      (if size.length < 2 then '0' :: size else size)
  else if point ≤ 0 then '0' :: '.' :: (List.replicate point.natAbs '0' ++ digits)
  else if point < n then digits.take point.toNat ++ '.' :: digits.drop point.toNat
  else digits ++ List.replicate (point - n).toNat '0' ++ ['.', '0']

/-- The text of a double. -/
def Double.text : Double → List Char
  | .undefined => ['n', 'a', 'n']
  | .infinite negative => (if negative then ['-'] else []) ++ ['i', 'n', 'f']
  | .finite negative x =>
    (if negative then ['-'] else []) ++
      if x = 0 then ['0', '.', '0']
      else
        let (m, e) := shortest x
        let digits := decimal m
        let kept := (digits.reverse.dropWhile (· = '0')).reverse
        layout kept (digits.length + e)

end TapeMachine.Binary64
