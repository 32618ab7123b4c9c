/-!
# Decimal numerals

Numbers are read from and written to decimal digits.  A numeral of more than
`maxDigits` digits is refused, leading zeros included.  `decimal` writes a
natural number with no leading zero, `signed` an integer, and `grouped` puts a
comma between groups of three digits.
-/

namespace TapeMachine.Text

/-- The most digits that a numeral may have. -/
def maxDigits : Nat := 4300

/-- The value of one of the ten digits `0` to `9`. -/
def digitValue (c : Char) : Nat := c.toNat - '0'.toNat

/-- The digit of a number below ten. -/
def digitChar (n : Nat) : Char := Char.ofNat ('0'.toNat + n)

/-- The digits `0` to `9`. -/
def isAsciiDigit (c : Char) : Bool := '0' ≤ c && c ≤ '9'

/-- The number that a row of digit values stands for, the first digit the most significant. -/
def ofDigitValues (ds : List Nat) : Nat := ds.foldl (fun n d => 10 * n + d) 0

/-- The number that a row of the digits `0` to `9` stands for. -/
def ofDigits (ds : List Char) : Nat := ofDigitValues (ds.map digitValue)

/-- The decimal digits of a number, most significant first; zero is `0`. -/
def decimal (n : Nat) : List Char :=
  if n < 10 then [digitChar n] else decimal (n / 10) ++ [digitChar (n % 10)]
termination_by n

/-- An integer in decimal, with `-` before a negative one. -/
def signed : Int → List Char
  | .ofNat n => decimal n
  | .negSucc n => '-' :: decimal (n + 1)

/-- Commas between groups of three, counted from the right: the text is given last digit first. -/
def groupThrees : List Char → List Char
  | a :: b :: c :: d :: rest => a :: b :: c :: ',' :: groupThrees (d :: rest)
  | ds => ds

/-- An integer in decimal with a comma between groups of three digits. -/
def grouped (n : Int) : List Char :=
  (if n < 0 then ['-'] else []) ++ (groupThrees (decimal n.natAbs).reverse).reverse

/-- The decimal text of an integer. -/
def integer (n : Int) : String := String.ofList (signed n)

/-- The decimal text of an integer with its digits in groups of three. -/
def integerGrouped (n : Int) : String := String.ofList (grouped n)

/-- What is said of a numeral with too many digits. -/
def tooManyDigits (count : Nat) : String :=
  "Exceeds the limit (" ++ integer maxDigits ++
    " digits) for integer string conversion: value has " ++ integer count ++
    " digits; use sys.set_int_max_str_digits() to increase the limit"

end TapeMachine.Text
