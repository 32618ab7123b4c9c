import TapeMachine.Value.Operation

/-!
# Failures

The failures that loading and running a program report.  None is recoverable:
a malformed program is refused before any step, and a run ends at a pair
without a transition or at its step limit.

A failure holds the values that it is about.  `Failure.make` makes one of each
kind of unchecked values, if there are as many as the kind takes.
-/

namespace TapeMachine

open TapeMachine.Text

/-- A failure to load or run a program. -/
inductive Failure
  | general (about : List Value)
  | malformedProgram (about : List Value)
  | malformedLine (line reason number : Value)
  | unmapped (state symbol : Value)
  | stepLimit (steps : Value)

namespace Failure

/-- The kinds of failures. -/
inductive Kind
  | general | malformedProgram | malformedLine | unmapped | stepLimit
  deriving DecidableEq, Repr

namespace Kind

/-- All kinds of failures. -/
def all : List Kind := [.general, .malformedProgram, .malformedLine, .unmapped, .stepLimit]

/-- The name of a kind. -/
def name : Kind → String
  | .general => "TuringMachineError"
  | .malformedProgram => "MalformedProgram"
  | .malformedLine => "MalformedDeltaLine"
  | .unmapped => "UnmappedTransition"
  | .stepLimit => "StepLimitExceeded"

/-- The kind with a name. -/
def ofName? (s : String) : Option Kind := all.find? fun k => k.name = s

/-- The names of the values that a failure of a kind needs, and how many more it may have; any
number will do for the kinds without names. -/
def parts? : Kind → Option (List String × Nat)
  | .general | .malformedProgram => none
  | .malformedLine => some (["line", "reason"], 1)
  | .unmapped => some (["state", "symbol"], 0)
  | .stepLimit => some (["steps"], 0)

end Kind

/-- Why some values make no failure. -/
inductive MakeFault
  | missing (k : Kind) (names : List String)
  | tooMany (k : Kind) (given : Nat)
  | misuse (f : Value.Misuse)
  deriving DecidableEq, Repr

/-- Names with commas between them and `and` before the last. -/
def enumeration : List String → String
  | [] => ""
  | [a] => a
  | [a, b] => a ++ " and " ++ b
  | a :: rest => a ++ ", " ++ enumeration rest

/-- What is said of values that make no failure; the failure itself counts as one of them. -/
def MakeFault.message : MakeFault → String
  | .missing k names =>
    k.name ++ ".__init__() missing " ++ integer names.length ++ " required positional argument" ++
      (if names.length = 1 then "" else "s") ++ ": " ++
      enumeration (names.map fun s => "'" ++ s ++ "'")
  | .tooMany k given =>
    let (names, more) := k.parts?.getD ([], 0)
    let least := names.length + 1
    let most :=
      if more = 0 then integer least
      else "from " ++ integer least ++ " to " ++ integer (least + more : Nat)
    k.name ++ ".__init__() takes " ++ most ++ " positional arguments but " ++
      integer (given + 1 : Nat) ++ " were given"
  | .misuse f => f.message

/-- What a failure says about values of its own: one stands for itself, several are listed. -/
def aboutText : List Value → String
  | [] => ""
  | [v] => v.plain
  | vs => Value.tuple vs

/-- What a failure says. -/
def message : Failure → String
  | .general about => aboutText about
  | .malformedProgram about => aboutText about
  | .malformedLine line reason number =>
    let place := match number with
      | .null => "delta line"
      | n => "line " ++ n.plain
    "Malformed " ++ place ++ " " ++ line.shown ++ ": " ++ reason.plain
  | .unmapped state symbol =>
    "The machine reached a configuration it was not programmed for: no transition for state " ++
      state.plain ++ " reading " ++ symbol.shown
  | .stepLimit steps =>
    let count := match steps.grouped with
      | .ok digits => String.ofList digits
      | .error _ => steps.plain
    "Machine did not halt within " ++ count ++ " steps"

/-- The kind of a failure. -/
def kind : Failure → Kind
  | .general _ => .general
  | .malformedProgram _ => .malformedProgram
  | .malformedLine .. => .malformedLine
  | .unmapped .. => .unmapped
  | .stepLimit _ => .stepLimit

/-- Make a failure of a kind of as many values as it takes; the number of steps must be one that
can be written in groups of digits. -/
def make (k : Kind) (values : List Value) : Except MakeFault Failure :=
  match k, values with
  | .general, vs => .ok (.general vs)
  | .malformedProgram, vs => .ok (.malformedProgram vs)
  | .malformedLine, [line, reason] => .ok (.malformedLine line reason .null)
  | .malformedLine, [line, reason, number] => .ok (.malformedLine line reason number)
  | .unmapped, [state, symbol] => .ok (.unmapped state symbol)
  | .stepLimit, [steps] =>
    match steps.grouped with
    | .ok _ => .ok (.stepLimit steps)
    | .error f => .error (.misuse f)
  | k, vs =>
    let (names, _) := k.parts?.getD ([], 0)
    .error (if vs.length < names.length then .missing k (names.drop vs.length)
      else .tooMany k vs.length)

end Failure

end TapeMachine
