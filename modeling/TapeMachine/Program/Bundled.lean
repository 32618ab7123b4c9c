import TapeMachine.Program.Text

/-!
# Bundled programs

Two programs that come with the library: `unaryAdd` adds two numbers written
in ones with a zero between them, `binaryIncrement` adds one to a binary number.
-/

namespace TapeMachine

open TapeMachine.Text

namespace Program

/-- The text of the unary adder. -/
def unaryAddText : String :=
  joinLines
    ["3", "10", "10B", "0", "3",
      "0 1 0 1 R",
      "0 0 1 1 R",
      "1 1 1 1 R",
      "1 B 2 B L",
      "2 1 3 B N"]

/-- The text of the binary increment. -/
def binaryIncrementText : String :=
  joinLines
    ["3", "01", "01B", "0", "2",
      "# walk to the right end of the number",
      "0 0 0 0 R",
      "0 1 0 1 R",
      "0 B 1 B L",
      "# add one, carrying to the left",
      "1 1 1 0 L",
      "1 0 2 1 N",
      "1 B 2 1 N"]

/-- The unary adder. -/
def unaryAdd : Except Fault Program := ofText unaryAddText

/-- The binary increment. -/
def binaryIncrement : Except Fault Program := ofText binaryIncrementText

end Program

end TapeMachine
