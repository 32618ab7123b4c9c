import TapeMachine.Tape.Basic

/-!
# The log

What the tape, the machine and the readers of programs and settings report
while they work.  Every event has a level, a channel and a message.  An event
that counts a state cannot be told if the state is no number (`untold?`).
-/

namespace TapeMachine

open TapeMachine.Text

namespace Log

/-- How much an event matters, the least first. -/
inductive Level
  | debug | info | warning | error | critical
  deriving DecidableEq, Repr

namespace Level

/-- All levels, the least first. -/
def all : List Level := [.debug, .info, .warning, .error, .critical]

/-- The name of a level. -/
def name : Level → String
  | .debug => "DEBUG"
  | .info => "INFO"
  | .warning => "WARNING"
  | .error => "ERROR"
  | .critical => "CRITICAL"

/-- The weight by which levels are compared. -/
def weight : Level → Nat
  | .debug => 10
  | .info => 20
  | .warning => 30
  | .error => 40
  | .critical => 50

/-- The capital letter of a letter of a level's name: `ı` is a small `I`. -/
def capital (c : Char) : Char := if c = 'ı' then 'I' else c.toUpper

/-- The level with a name, in small or capital letters. -/
def ofName? (s : String) : Option Level :=
  all.find? fun l => l.name.toList = s.toList.map capital

end Level

/-- Something that is reported. -/
inductive Event
  | tape (e : Tape.Event)
  | started (state word : Value)
  | stepping (number : Nat) (state symbol nextState nextSymbol : Value) (direction : Direction)
  | halted (state : Value) (steps : Nat)
  | parsed (transitions : Nat) (start halt : Int)
  | settingsLoaded (path : String)
  | setting (name : RawText) (v : Value)
  | diagramWritten (path : RawText)

namespace Event

/-- The level of an event. -/
def level : Event → Level
  | .tape _ | .stepping .. | .settingsLoaded _ | .setting .. => .debug
  | .started .. | .halted .. | .parsed .. | .diagramWritten _ => .info

/-- The channel of an event. -/
def channel : Event → String
  | .tape _ => "turing_tape.tape"
  | .started .. | .stepping .. | .halted .. => "turing_tape.machine"
  | .parsed .. => "turing_tape.program"
  | .settingsLoaded _ | .setting .. => "turing_tape.config"
  | .diagramWritten _ => "turing_tape.cli"

/-- The message of an event. -/
def message : Event → String
  | .tape (.grewRight p) => "Extended tape to the right at " ++ integer p
  | .tape (.grewLeft p) => "Extended tape to the left at " ++ integer p
  | .tape (.dropped p) => "Dropped blank cell at " ++ integer p
  | .started state word => "Starting in state " ++ state.counted ++ " on " ++ word.shown
  | .stepping number state symbol nextState nextSymbol direction =>
    "Step " ++ integer number ++ ": (" ++ state.counted ++ ", " ++ symbol.shown ++ ") -> (" ++
      nextState.counted ++ ", " ++ nextSymbol.shown ++ ", " ++ String.singleton direction.letter ++
      ")"
  | .halted state steps =>
    "Halted in state " ++ state.counted ++ " after " ++ integer steps ++ " steps"
  | .parsed transitions start halt =>
    "Parsed program with " ++ integer transitions ++ " transitions, start " ++ integer start ++
      ", halt " ++ integer halt
  | .settingsLoaded path => "Loaded config from " ++ path ++ ":"
  | .setting name v => "  " ++ name.printed ++ ": " ++ v.shown
  | .diagramWritten path => "Wrote space-time diagram to " ++ path.printed

/-- Why an event cannot be told to somebody who listens: a state that it counts is no number. -/
def untold? : Event → Option Value.Misuse
  | .started state _ | .halted state _ => state.countFault?
  | .stepping _ state _ nextState _ _ => state.countFault? <|> nextState.countFault?
  | _ => none

/-- An event as a line of the log. -/
def line (e : Event) : String := e.level.name ++ " " ++ e.channel ++ " " ++ e.message

end Event

/-- The events that matter at least as much as a level. -/
def atLeast (level : Level) (events : List Event) : List Event :=
  events.filter fun e => level.weight ≤ e.level.weight

end Log

end TapeMachine
