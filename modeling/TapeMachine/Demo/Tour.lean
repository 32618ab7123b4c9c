import TapeMachine.Machine.Run
import TapeMachine.Program.Bundled

/-!
# A tour of the bundled programs

Runs the bundled programs on a few words and shows their traces.
-/

namespace TapeMachine.Demo

open TapeMachine.Text

/-- The files of the bundled programs with their texts. -/
def bundled : List (String × String) :=
  [("unary_add.tm", Program.unaryAddText), ("binary_increment.tm", Program.binaryIncrementText)]

/-- The program in a bundled file. -/
def program? (file : String) : Option Program := do
  let text ← bundled.lookup file
  (Program.ofText text).toOption

namespace Tour

/-- The programs to run and their words. -/
def stops : List (String × String) :=
  [("unary_add.tm", "11011"), ("binary_increment.tm", "1011"), ("binary_increment.tm", "111")]

/-- The text for one run, if it halts within so many moments. -/
def stopText (file word : String) (moments : Nat) : Option String := do
  let p ← program? file
  let r := p.machine.run word none moments
  let c ← r.ending.bind Except.toOption
  return "\n" ++ file ++ " on " ++ quote word ++ ":\n" ++ r.trace ++ "  halted after " ++
    integer r.machine.stepCount ++ " steps with tape " ++ quote (String.ofList c.cells) ++ "\n"

/-- The text of the tour. -/
def text (moments : Nat) : Option String := do
  let parts ← stops.mapM fun s => stopText s.1 s.2 moments
  return String.join parts ++ "\n✅ Done!\n"

end Tour

end TapeMachine.Demo
