import TapeMachine.Text.CodePoint
import TapeMachine.Text.CellWidth.Table
import TapeMachine.Text.Ranges

/-!
# Widths on a terminal

`cellWidth` is the number of columns that a text takes on a terminal.  What a
joiner joins to the character before it takes no column of its own, and an emoji
selector makes the character before it wide if that is one of those it can widen.
-/

namespace TapeMachine.Text

/-- The joiner of characters. -/
def joiner : Nat := 0x200d

/-- The selector that asks for an emoji. -/
def emojiSelector : Nat := 0xfe0f

/-- The number of columns that a character takes by itself. -/
def columnsOf (n : Nat) : Nat :=
  if (n ≠ 0 && n < 0x20) || (0x7f ≤ n && n < 0xa0) then 0
  else if inRanges emptyRanges n then 0
  else if inRanges wideRanges n then 2
  else 1

/-- The columns of code points; `last` is the last one that took any, and `joined` says whether the
next one is joined to it. -/
def columnsFrom (last : Option Nat) (joined : Bool) : List Nat → Nat
  | [] => 0
  | n :: rest =>
    if joined then columnsFrom last false rest
    else if n = joiner then columnsFrom last true rest
    else if n = emojiSelector then
      match last with
      | some m => (if inRanges widenedRanges m then 1 else 0) + columnsFrom none false rest
      | none => columnsFrom none false rest
    else
      let w := columnsOf n
      w + columnsFrom (if w = 0 then last else some n) false rest

/-- The number of columns that code points take. -/
def cellWidth (ps : List CodePoint) : Nat := columnsFrom none false (ps.map CodePoint.number)

end TapeMachine.Text
