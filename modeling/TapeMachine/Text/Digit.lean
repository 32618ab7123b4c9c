import TapeMachine.Text.Blank
import TapeMachine.Text.Numeral
import TapeMachine.Text.Ranges

/-!
# Digits of every script

A script's ten decimal digits stand in a row that starts at its zero
(`zeros`).  Some further characters, such as superscripts and circled digits,
count as digits without being decimal (`otherDigits`).  `readSigned?` reads an
integer written in decimal digits of any script.
-/

namespace TapeMachine.Text

/-- The code points of the digit zero in every script (Unicode 14). -/
def zeros : List Nat := [
  0x30, 0x660, 0x6f0, 0x7c0, 0x966, 0x9e6, 0xa66, 0xae6, 0xb66, 0xbe6, 0xc66, 0xce6, 0xd66, 0xde6,
  0xe50, 0xed0, 0xf20, 0x1040, 0x1090, 0x17e0, 0x1810, 0x1946, 0x19d0, 0x1a80, 0x1a90, 0x1b50,
  0x1bb0, 0x1c40, 0x1c50, 0xa620, 0xa8d0, 0xa900, 0xa9d0, 0xa9f0, 0xaa50, 0xabf0, 0xff10, 0x104a0,
  0x10d30, 0x11066, 0x110f0, 0x11136, 0x111d0, 0x112f0, 0x11450, 0x114d0, 0x11650, 0x116c0,
  0x11730, 0x118e0, 0x11950, 0x11c50, 0x11d50, 0x11da0, 0x16a60, 0x16ac0, 0x16b50, 0x1d7ce,
  0x1d7d8, 0x1d7e2, 0x1d7ec, 0x1d7f6, 0x1e140, 0x1e2f0, 0x1e950, 0x1fbf0]

/-- The ranges of the digits that are not decimal. -/
def otherDigits : List (Nat × Nat) := [
  (0xb2, 0xb3), (0xb9, 0xb9), (0x1369, 0x1371), (0x19da, 0x19da), (0x2070, 0x2070),
  (0x2074, 0x2079), (0x2080, 0x2089), (0x2460, 0x2468), (0x2474, 0x247c), (0x2488, 0x2490),
  (0x24ea, 0x24ea), (0x24f5, 0x24fd), (0x24ff, 0x24ff), (0x2776, 0x277e), (0x2780, 0x2788),
  (0x278a, 0x2792), (0x10a40, 0x10a43), (0x10e60, 0x10e68), (0x11052, 0x1105a), (0x1f100, 0x1f10a)]

/-- The value of a decimal digit of any script. -/
def decimalValue? (c : Char) : Option Nat :=
  let n := c.toNat
  (zeros.find? fun z => z ≤ n && n < z + 10).map (n - ·)

/-- Whether a character counts as a digit, decimal or not. -/
def isDigit (c : Char) : Bool :=
  (decimalValue? c).isSome || inRanges otherDigits c.toNat

/-- The blanks that may surround an integer: all but the information separators. -/
def isIntegerBlank (c : Char) : Bool :=
  isBlank c && !(0x1c ≤ c.toNat && c.toNat ≤ 0x1f)

/-- The digit values of a numeral; one underscore may stand between two digits. -/
def digitValues? : List Char → Option (List Nat)
  | [] => none
  | [c] => (decimalValue? c).map fun v => [v]
  | c :: d :: rest => do
    let v ← decimalValue? c
    let vs ← if d = '_' then digitValues? rest else digitValues? (d :: rest)
    return v :: vs

/-- Read an unsigned numeral of at most `maxDigits` digits. -/
def readNumeral? (s : List Char) : Option Nat :=
  match digitValues? s with
  | some ds => if ds.length ≤ maxDigits then some (ofDigitValues ds) else none
  | none => none

/-- Read an integer: blanks around it and a sign before it are allowed. -/
def readSigned? (s : List Char) : Option Int :=
  match ((s.dropWhile isIntegerBlank).reverse.dropWhile isIntegerBlank).reverse with
  | '+' :: rest => (readNumeral? rest).map Int.ofNat
  | '-' :: rest => (readNumeral? rest).map fun n => -Int.ofNat n
  | rest => (readNumeral? rest).map Int.ofNat

end TapeMachine.Text
