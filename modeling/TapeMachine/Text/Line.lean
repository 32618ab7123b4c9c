/-!
# Lines of a text

A line ends at any of the Unicode line breaks, or at the end of the text; a
carriage return followed by a line feed is one break.  `splitLines` gives the
lines without their breaks, and no empty line after a final break.
`unifyBreaks` writes each `\r\n` and each lone `\r` as `\n`, as text files are
read; it leaves the lines alone (`splitLines_unifyBreaks`).
-/

namespace TapeMachine.Text

/-- The characters that end a line. -/
def isBreak (c : Char) : Bool :=
  c = '\n' || c = '\r' || c = '\x0b' || c = '\x0c' || c = '\x1c' || c = '\x1d' || c = '\x1e' ||
    c = '\u0085' || c = '\u2028' || c = '\u2029'

/-- Lines one after another, each ended. -/
def joinLines (lines : List String) : String := String.join (lines.map fun line => line ++ "\n")

/-- Put a character in front of the first line. -/
def consLine (c : Char) : List (List Char) → List (List Char)
  | [] => [[c]]
  | line :: lines => (c :: line) :: lines

/-- The lines of a text, without their breaks. -/
def splitLines : List Char → List (List Char)
  | [] => []
  | [c] => if isBreak c then [[]] else [[c]]
  | c :: d :: rest =>
    if c = '\r' ∧ d = '\n' then [] :: splitLines rest
    else if isBreak c then [] :: splitLines (d :: rest)
    else consLine c (splitLines (d :: rest))

/-- The text with every `\r\n` and every lone `\r` written `\n`. -/
def unifyBreaks : List Char → List Char
  | [] => []
  | [c] => [if c = '\r' then '\n' else c]
  | c :: d :: rest =>
    if c = '\r' ∧ d = '\n' then '\n' :: unifyBreaks rest
    else (if c = '\r' then '\n' else c) :: unifyBreaks (d :: rest)

/-- A character that is no carriage return is looked at by itself. -/
theorem splitLines_cons_of_ne {c : Char} (h : c ≠ '\r') (rest : List Char) :
    splitLines (c :: rest)
      = if isBreak c then [] :: splitLines rest else consLine c (splitLines rest) := by
  cases rest with
  | nil => rfl
  | cons d rest => rw [splitLines, if_neg fun hc => h hc.1]

/-- **Reading a text file keeps its lines.** -/
theorem splitLines_unifyBreaks (s : List Char) : splitLines (unifyBreaks s) = splitLines s := by
  fun_induction unifyBreaks s with
  | case1 => rfl
  | case2 c =>
    by_cases hc : c = '\r'
    · subst hc
      rfl
    · rw [if_neg hc]
  | case3 c d rest h ih =>
    rw [splitLines_cons_of_ne (by decide), splitLines, if_pos h, ih]
    rfl
  | case4 c d rest h ih =>
    rw [splitLines, if_neg h]
    by_cases hc : c = '\r'
    · rw [if_pos hc, splitLines_cons_of_ne (by decide), ih, hc]
      rfl
    · rw [if_neg hc, splitLines_cons_of_ne hc, ih]

end TapeMachine.Text
