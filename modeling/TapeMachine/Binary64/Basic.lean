/-!
# Rounding to double precision

A finite double is an integer of at most 53 bits times a power of two that is
at least `2 ^ minExponent`.  Its value is kept as a rational number, so an
operation is the exact one followed by `nearest`, which goes to the nearest
double and, half way between two, to the one whose last bit is zero.
-/

namespace TapeMachine.Binary64

/-- The bits of a double's integer factor. -/
def precision : Nat := 53

/-- The exponent of the smallest positive double. -/
def minExponent : Int := -1074

/-- The first power of two that no finite double reaches. -/
def tooLarge : Rat := ((1 <<< 1024 : Nat) : Rat)

/-- The quotient of two natural numbers, rounded to the nearest; a half goes to the even one. -/
def roundQuotient (num den : Nat) : Nat :=
  let q := num / den
  let r := num % den
  if 2 * r < den then q else if den < 2 * r then q + 1 else q + q % 2

/-- The integers `a`, `b` with `a / b = (num / den) / 2 ^ k`. -/
def scaled (num den : Nat) (k : Int) : Nat × Nat :=
  match k with
  | .ofNat k => (num, den <<< k)
  | .negSucc k => (num <<< (k + 1), den)

/-- The exponent at which a positive quotient has `precision` bits before the point, and
`minExponent` where it has fewer. -/
def exponent (num den : Nat) : Int :=
  let k : Int := (num.log2 : Int) - (den.log2 : Int) - precision
  let (a, b) := scaled num den k
  let k := if a < b <<< precision then k else k + 1
  if k < minExponent then minExponent else k

/-- The integer factor and the exponent of the double nearest to a positive quotient. -/
def factors (num den : Nat) : Nat × Int :=
  let k := exponent num den
  let (a, b) := scaled num den k
  (roundQuotient a b, k)

/-- The double nearest to a rational number. -/
def nearest (q : Rat) : Rat :=
  let (m, k) := factors q.num.natAbs q.den
  let x : Rat := m * (2 : Rat) ^ k
  if q.num < 0 then -x else if q.num = 0 then 0 else x

/-- The largest integer that is not above a number, its sign set aside. -/
def truncate (q : Rat) : Int := q.num.tdiv q.den

end TapeMachine.Binary64
