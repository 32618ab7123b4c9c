import TapeMachine.Text.Numeral
import TapeMachine.Text.Printable

/-!
# Quoted text

`quote` writes a text between quotation marks so that every character of it
can be told: single marks, or double ones if the text has a single mark and no
double one.  The mark in use, the backslash, line breaks, tabs and every
character that is not printable are written as escapes.
-/

namespace TapeMachine.Text

/-- The lower-case hexadecimal digit of a number below sixteen. -/
def hexDigit (n : Nat) : Char :=
  if n < 10 then Char.ofNat (0x30 + n) else Char.ofNat (0x57 + n)

/-- The value of a hexadecimal digit. -/
def hexValue? (c : Char) : Option Nat :=
  if isAsciiDigit c then some (digitValue c)
  else if 'a' ≤ c ∧ c ≤ 'f' then some (c.toNat - 'a'.toNat + 10)
  else if 'A' ≤ c ∧ c ≤ 'F' then some (c.toNat - 'A'.toNat + 10)
  else none

/-- The last `width` hexadecimal digits of a number. -/
def hex : Nat → Nat → List Char
  | 0, _ => []
  | width + 1, n => hex width (n / 16) ++ [hexDigit (n % 16)]

/-- The mark that goes around a text. -/
def quoteMark (s : List Char) : Char :=
  if s.contains '\'' && !s.contains '"' then '"' else '\''

/-- The escape of the character with a number: two, four or eight digits. -/
def escapeNumber (n : Nat) : List Char :=
  if n < 0x100 then '\\' :: 'x' :: hex 2 n
  else if n < 0x10000 then '\\' :: 'u' :: hex 4 n
  else '\\' :: 'U' :: hex 8 n

/-- A character as it is written between marks. -/
def escapeChar (mark c : Char) : List Char :=
  if c = mark || c = '\\' then ['\\', c]
  else if c = '\n' then ['\\', 'n']
  else if c = '\r' then ['\\', 'r']
  else if c = '\t' then ['\\', 't']
  else if isPrintable c then [c]
  else escapeNumber c.toNat

/-- A text between marks. -/
def quoteChars (s : List Char) : List Char :=
  let mark := quoteMark s
  mark :: (s.flatMap (escapeChar mark) ++ [mark])

/-- A text between marks, as a string. -/
def quote (s : String) : String := String.ofList (quoteChars s.toList)

end TapeMachine.Text
