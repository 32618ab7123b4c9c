import TapeMachine.Machine.Run

/-!
# The live display

A live display steps a machine and shows its configuration in place instead of
printing a line for every step.  It redraws when enough time has gone by since
the last redraw, and always at the start, when the machine halts, when it is
stuck, and when the user interrupts.

`Session.advance` does the next thing, so a session is known at every moment,
whether or not it ever ends.
-/

namespace TapeMachine.Live

open TapeMachine.Text

/-- What the display does to the notebook. -/
inductive Event
  | clear
  | print (text : String)
  | display (text : String)
  deriving DecidableEq, Repr

/-- Events with texts that are printed one right after another put together. -/
def joinPrints : List Event → List Event
  | [] => []
  | e :: rest =>
    match e, joinPrints rest with
    | .print s, .print t :: more => .print (s ++ t) :: more
    | e, es => e :: es

/-- How a display is asked to behave: after how many steps it stops, which is never if it is `null`,
the seconds between two redraws, the caption, and whether numbers are shown. -/
structure Options where
  earlyStop : Value
  interval : Value
  caption : Value
  showStats : Bool

/-- The world around a session: the reading of the clock each time it is looked at, in seconds, and
whether the user interrupts the step that follows after a number of steps. -/
structure Surroundings where
  clock : Nat → Value
  interrupts : Nat → Bool

/-- A session under way: how often the clock was read, the time of the last redraw, what was done to
the notebook, latest first, how many frames were shown, and how it ended if it has. -/
structure Session (σ : Type := Char) where
  machine : Machine σ
  readings : Nat
  lastUpdate : Value
  progress : Machine.Progress
  events : List Event
  frames : Nat
  ending : Option (Except Machine.Fault Machine.Progress)

variable {σ : Type}

/-- The line of numbers above a configuration. -/
def statsLine (o : Options) (m : Machine σ) (nonblanks : Nat) : String :=
  "Step " ++ integerGrouped m.stepCount ++ " | Nonblanks: " ++ integerGrouped nonblanks ++
    (if o.caption.isTruthy then " | " ++ o.caption.plain else "") ++
    (if m.isHalted then " [HALTED]" else "") ++ "\n"

namespace Session

/-- Do something to the notebook. -/
def emit (s : Session σ) (e : Event) : Session σ := { s with events := e :: s.events }

/-- Print a closing remark if numbers are shown, unless the session has ended before. -/
def remark (o : Options) (text : String) (s : Session σ) : Session σ :=
  if o.showStats ∧ s.ending.isNone then
    s.emit (.print ("\n" ++ text ++ " at step " ++ integerGrouped s.machine.stepCount ++ "\n"))
  else s

/-- End a session, unless it has ended before. -/
def finish (r : Except Machine.Fault Machine.Progress) (s : Session σ) : Session σ :=
  match s.ending with
  | some _ => s
  | none => { s with ending := some r }

/-- Whether so much time has gone by that the display is to be redrawn. -/
def isDue (o : Options) (now : Value) (s : Session σ) : Except Value.Misuse Bool := do
  (← now.minus s.lastUpdate).atLeast o.interval

/-- Whether the session is to stop before the machine does. -/
def stopsEarly (o : Options) (s : Session σ) : Except Value.Misuse Bool :=
  Machine.Run.limitReached o.earlyStop s.machine.stepCount

/-- What was done to the notebook, in order. -/
def shown (s : Session σ) : List Event := s.events.reverse

variable [Symbol σ]

/-- Redraw the display.  A machine that has not been started fails after the display is cleared, and
a configuration without a line after the numbers are shown. -/
def redraw (o : Options) (s : Session σ) : Session σ :=
  let s := s.emit .clear
  match s.machine.tape with
  | none => { s with ending := some (.error .notStarted) }
  | some t =>
    let s := if o.showStats then s.emit (.print (statsLine o s.machine t.countNonblanks)) else s
    match (s.machine.snapshot t).loose.line with
    | .error f => { s with ending := some (.error (.misuse f)) }
    | .ok line => { s.emit (.display line) with frames := s.frames + 1 }

/-- A session that has just begun. -/
def begin (o : Options) (w : Surroundings) (m : Machine σ) : Session σ :=
  redraw o
    { machine := m
      readings := 1
      lastUpdate := w.clock 0
      progress := if m.isHalted then .halted else .running
      events := []
      frames := 0
      ending := none }

/-- Look at the clock after a step, and redraw if it is time or the machine has halted. -/
def tick (o : Options) (w : Surroundings) (s : Session σ) : Session σ :=
  let now := w.clock s.readings
  let s := { s with readings := s.readings + 1 }
  match s.isDue o now with
  | .error f => s.finish (.error (.misuse f))
  | .ok due =>
    if due ∨ s.progress = .halted then { redraw o s with lastUpdate := now } else s

/-- Make a step and show what is to be shown of it. -/
def stepOnce (o : Options) (w : Surroundings) (s : Session σ) : Session σ :=
  let outcome := s.machine.step
  let s := { s with machine := outcome.machine }
  match outcome.result with
  | .error f => s.finish (.error f)
  | .ok .unmapped => (redraw o s).finish (.error s.machine.stuckFault)
  | .ok p => tick o w { s with progress := p }

/-- Do the next thing. -/
def advance (o : Options) (w : Surroundings) (s : Session σ) : Session σ :=
  match s.ending with
  | some _ => s
  | none =>
    match s.progress with
    | .halted => (s.remark o "✓ Halted").finish (.ok .halted)
    | p =>
      match s.stopsEarly o with
      | .error f => s.finish (.error (.misuse f))
      | .ok true => (s.remark o "✓ Reached early_stop").finish (.ok p)
      | .ok false =>
        if w.interrupts s.machine.stepCount then
          ((redraw o s).remark o "⏹ Stopped by user").finish (.ok p)
        else stepOnce o w s

/-- Advance a session until it ends, at most `moments` times. -/
def drive (o : Options) (w : Surroundings) : (moments : Nat) → Session σ → Session σ
  | 0, s => s
  | moments + 1, s => if s.ending.isSome then s else drive o w moments (advance o w s)

end Session

/-- Show a machine live, for at most so many moments. -/
def run [Symbol σ] (o : Options) (w : Surroundings) (m : Machine σ) (moments : Nat) : Session σ :=
  (Session.begin o w m).drive o w moments

end TapeMachine.Live
