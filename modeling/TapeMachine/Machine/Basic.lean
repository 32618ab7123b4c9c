import TapeMachine.Configuration
import TapeMachine.Failure
import TapeMachine.Log
import TapeMachine.Table

/-!
# The machine

A machine has a state, a halting state, a table, and a tape once it is
started.  `step` makes one transition.  Everything that can be wrong with an
entry of the table is looked at before anything changes, so a step that fails
leaves the machine as it was.
-/

namespace TapeMachine

/-- A Turing machine with one tape. -/
structure Machine (σ : Type := Char) where
  state : Value
  endState : Value
  table : Table Situation Action
  tape : Option (Tape σ)
  stepCount : Nat

namespace Machine

/-- Why a machine does not do what it is asked to. -/
inductive Fault
  | notStarted
  | alreadyStarted
  | notADirection (v : Value)
  | tape (f : Tape.Fault)
  | misuse (f : Value.Misuse)
  | unmapped (state symbol : Value)
  | stepLimit (steps : Value)

/-- The failure that a fault is reported as, if it is one. -/
def Fault.failure? : Fault → Option Failure
  | .unmapped state symbol => some (.unmapped state symbol)
  | .stepLimit steps => some (.stepLimit steps)
  | _ => none

/-- What is said of a fault. -/
def Fault.message : Fault → String
  | .notStarted => "Machine has not been started; call start(word) first"
  | .alreadyStarted => "Machine has already run; create a new Machine per run"
  | .notADirection v => v.shown ++ " is not a valid Direction"
  | .tape f => f.message
  | .misuse f => f.message
  | .unmapped state symbol => (Failure.unmapped state symbol).message
  | .stepLimit steps => (Failure.stepLimit steps).message

/-- Where a machine is after a step. -/
inductive Progress
  | running
  | halted
  | unmapped
  deriving DecidableEq, Repr

/-- The word for where a machine is. -/
def Progress.word : Progress → String
  | .running => "continue"
  | .halted => "halted"
  | .unmapped => "unmapped"

/-- What comes of an operation on a machine: its result, the machine after it and what was
reported meanwhile. -/
structure Outcome (α : Type) (σ : Type := Char) where
  result : Except Fault α
  machine : Machine σ
  events : List Log.Event

section

variable {σ : Type}

/-- A machine that has not been started. -/
def new (startState endState : Value) (table : Table Situation Action) : Machine σ :=
  ⟨startState, endState, table, none, 0⟩

/-- Whether the machine is in its halting state. -/
def isHalted (m : Machine σ) : Bool := m.state.same m.endState

variable [Symbol σ]

/-- Start the machine on an unchecked word. -/
def startOn (m : Machine σ) (word : Value) : Outcome Unit σ :=
  match m.tape with
  | some _ => ⟨.error .alreadyStarted, m, []⟩
  | none =>
    match Tape.ofValue word with
    | .error f => ⟨.error (.tape f), m, []⟩
    | .ok t => ⟨.ok (), { m with tape := some t }, [.started m.state word]⟩

/-- What is reported of the transition of a table entry that moves the head in a direction. -/
@[inline] def note (m : Machine σ) (t : Tape σ) (a : Action) (d : Direction) : Log.Event :=
  .stepping (m.stepCount + 1) m.state (Symbol.value t.read) a.nextState a.nextSymbol d

/-- Make the transition of a table entry. -/
def take (m : Machine σ) (t : Tape σ) (a : Action) : Outcome Progress σ :=
  match Direction.ofValue? a.direction with
  | none => ⟨.error (.notADirection a.direction), m, []⟩
  | some d =>
    let note := m.note t a d
    match Symbol.written? a.nextSymbol with
    | none => ⟨.error (.tape (.notASymbol a.nextSymbol)), m, [note]⟩
    | some s =>
      let (moved, changes) := (t.write s).move d
      let next : Machine σ :=
        { m with state := a.nextState, tape := some moved, stepCount := m.stepCount + 1 }
      ⟨.ok (if next.isHalted then .halted else .running), next, note :: changes.map .tape⟩

/-- What the machine looks up in its table: its state and the symbol under the head, both of which
must be values that can be keys. -/
def situation (m : Machine σ) (t : Tape σ) : Except Value.Misuse Situation := do
  return ⟨← m.state.asKey, ← (Symbol.value t.read).asKey⟩

/-- Make one transition, unless the machine has halted or has no transition to make. -/
def step (m : Machine σ) : Outcome Progress σ :=
  match m.tape with
  | none => ⟨.error .notStarted, m, []⟩
  | some t =>
    if m.isHalted then ⟨.ok .halted, m, []⟩
    else match m.situation t with
      | .error f => ⟨.error (.misuse f), m, []⟩
      | .ok s =>
        match m.table.lookup? s with
        | none => ⟨.ok .unmapped, m, []⟩
        | some a => m.take t a

/-- The configuration of a machine in a state with a tape. -/
def snapshot (m : Machine σ) (t : Tape σ) : Configuration σ :=
  ⟨m.state, t.symbols, t.headIndex, t.firstPosition, m.stepCount⟩

/-- The configuration of a machine. -/
def configuration (m : Machine σ) : Except Fault (Configuration σ) :=
  match m.tape with
  | none => .error .notStarted
  | some t => .ok (m.snapshot t)

/-- The number of live cells that are not blank. -/
def countNonblanks (m : Machine σ) : Except Fault Nat :=
  match m.tape with
  | none => .error .notStarted
  | some t => .ok t.countNonblanks

/-- The fault of a machine that has no transition to make. -/
def stuckFault (m : Machine σ) : Fault :=
  match m.tape with
  | none => .notStarted
  | some t => .unmapped m.state (Symbol.value t.read)

end

/-- Start the machine on a word. -/
def start (m : Machine) (word : String) : Outcome Unit := m.startOn (.text word)

theorem start_of_tape {m : Machine} {t : Tape} (h : m.tape = some t) (word : String) :
    m.start word = ⟨.error .alreadyStarted, m, []⟩ := by
  simp [start, startOn, h]

theorem start_of_fresh {m : Machine} (h : m.tape = none) (word : String) :
    m.start word
      = ⟨.ok (), { m with tape := some (Tape.ofWord word.toList) },
          [.started m.state (.text word)]⟩ := by
  simp [start, startOn, h]

end Machine

end TapeMachine
