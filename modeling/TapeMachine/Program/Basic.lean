import TapeMachine.Machine.Basic

/-!
# Programs

A program is a table of checked moves with a start state and a halting state.
It also names its alphabets, which no machine looks at.  A `LooseProgram` is one
made by hand, with parts that nothing has checked.
-/

namespace TapeMachine

open TapeMachine.Text

/-- A program for a machine. -/
structure Program where
  alphabetSize : Int
  inputAlphabet : String
  tapeAlphabet : String
  startState : Int
  endState : Int
  table : Table Key Move
  deriving DecidableEq, Repr

namespace Program

/-- A fresh machine for one run of the program. -/
def machine {σ : Type} (p : Program) : Machine σ :=
  Machine.new (.int p.startState) (.int p.endState) p.table.unchecked

/-- What is reported when a program has been read. -/
def note (p : Program) : Log.Event := .parsed p.table.length p.startState p.endState

/-- An entry of a table with its parts named. -/
def describeEntry (e : Key × Move) : String :=
  "((" ++ integer e.1.state ++ ", " ++ String.ofList (quoteChars [e.1.symbol]) ++
    "), Action(next_state=" ++ integer e.2.nextState ++ ", next_symbol=" ++
    String.ofList (quoteChars [e.2.nextSymbol]) ++ ", direction=<Direction." ++
    String.singleton e.2.direction.letter ++ ": " ++ integer e.2.direction.offset ++ ">))"

end Program

/-- A program made by hand, of which nothing has been checked. -/
structure LooseProgram where
  alphabetSize : Value
  inputAlphabet : Value
  tapeAlphabet : Value
  startState : Value
  endState : Value
  table : Table Situation Action

namespace LooseProgram

/-- A fresh machine for one run of the program. -/
def machine {σ : Type} (p : LooseProgram) : Machine σ :=
  Machine.new p.startState p.endState p.table

/-- The size of a program, for messages. -/
def describe (p : LooseProgram) : String :=
  "Program(start_state=" ++ p.startState.plain ++ ", end_state=" ++ p.endState.plain ++
    ", transitions=" ++ integer p.table.length ++ ")"

end LooseProgram

namespace Program

/-- A program with its parts as values. -/
def loose (p : Program) : LooseProgram :=
  { alphabetSize := .int p.alphabetSize
    inputAlphabet := .text p.inputAlphabet
    tapeAlphabet := .text p.tapeAlphabet
    startState := .int p.startState
    endState := .int p.endState
    table := p.table.unchecked }

/-- The size of a program, for messages. -/
def describe (p : Program) : String := p.loose.describe

theorem machine_loose {σ : Type} (p : Program) : (p.loose.machine : Machine σ) = p.machine := rfl

end Program

end TapeMachine
