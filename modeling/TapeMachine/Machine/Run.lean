import TapeMachine.Machine.Heard

/-!
# Runs

A run starts a machine on a word and steps it until it halts, is stuck, or has
used up its step limit; every configuration on the way is emitted.  A traced run
prints the line of each and fails at the first that has none; a run to which
somebody listens fails at the first report that cannot be told.  `Run.advance`
does the next thing, so a run is known at every moment, whether or not it ever
ends; `Run.drive` goes on for a given number of moments.

`Machine.next` is the other way to step a machine: it gives the configuration
after each step until the machine halts.
-/

namespace TapeMachine

namespace Machine

/-- A run under way: its limit, which is none if it is `null`, whether it is traced, whether
somebody listens to its reports, what it has emitted and reported, latest first, and how it ended if
it has. -/
structure Run (σ : Type := Char) where
  machine : Machine σ
  limit : Value
  traced : Bool
  heard : Bool
  emitted : List (Configuration σ)
  events : List Log.Event
  ending : Option (Except Fault (Configuration σ))

namespace Run

section

variable {σ : Type}

/-- A run that has just started, or failed to. -/
def ofStart (o : Outcome Unit σ) (limit : Value) (traced heard : Bool) : Run σ :=
  { machine := o.machine
    limit := limit
    traced := traced
    heard := heard
    emitted := []
    events := o.events.reverse
    ending := match o.result with
      | .ok _ => none
      | .error f => some (.error f) }

/-- The emitted configurations in order. -/
def configurations (r : Run σ) : List (Configuration σ) := r.emitted.reverse

/-- What was reported, in order. -/
def log (r : Run σ) : List Log.Event := r.events.reverse

/-- Whether a limit is used up after some steps; one that is no number cannot be compared. -/
def limitReached (limit : Value) (steps : Nat) : Except Value.Misuse Bool :=
  match limit with
  | .null => .ok false
  | v => (Value.int steps).atLeast v

/-- Why something cannot be reported: somebody listens and it cannot be told. -/
def reportFault? (r : Run σ) (e : Log.Event) : Option Value.Misuse :=
  if r.heard then e.untold? else none

/-- End a run that has halted at a configuration. -/
def halt (r : Run σ) (c : Configuration σ) : Run σ :=
  let note := Log.Event.halted r.machine.state r.machine.stepCount
  match r.reportFault? note with
  | some f => { r with ending := some (.error (.misuse f)) }
  | none => { r with events := note :: r.events, ending := some (.ok c) }

variable [Symbol σ]

/-- Why a configuration cannot be emitted: it is to be printed and has no line. -/
def emitFault? (r : Run σ) (c : Configuration σ) : Option Value.Misuse :=
  if r.traced then c.loose.lineFault? else none

/-- End the run at a configuration that has been emitted, or make a step. -/
def proceed (r : Run σ) (c : Configuration σ) : Run σ :=
  if r.machine.isHalted then r.halt c
  else match limitReached r.limit r.machine.stepCount with
    | .error f => { r with ending := some (.error (.misuse f)) }
    | .ok true => { r with ending := some (.error (.stepLimit r.limit)) }
    | .ok false =>
      let o := r.machine.stepTo r.heard
      { r with
        machine := o.machine
        events := o.events.reverse ++ r.events
        ending := match o.result with
          | .error f => some (.error f)
          | .ok .unmapped => some (.error o.machine.stuckFault)
          | .ok _ => none }

/-- Emit the present configuration, and end the run or make a step. -/
def advance (r : Run σ) : Run σ :=
  match r.ending with
  | some _ => r
  | none =>
    match r.machine.configuration with
    | .error f => { r with ending := some (.error f) }
    | .ok c =>
      match r.emitFault? c with
      | some f => { r with ending := some (.error (.misuse f)) }
      | none => proceed { r with emitted := c :: r.emitted } c

/-- Advance a run until it ends, at most `moments` times. -/
def drive : (moments : Nat) → Run σ → Run σ
  | 0, r => r
  | moments + 1, r => if r.ending.isSome then r else drive moments r.advance

/-- What a run prints of its configurations. -/
def trace (r : Run) : String := String.join (r.configurations.map fun c => c.line ++ "\n")

theorem emitFault?_char (r : Run) (c : Configuration) : r.emitFault? c = none := by
  simp [emitFault?, c.lineFault?_loose]

theorem advance_of_ending {r : Run σ} (h : r.ending.isSome) : r.advance = r := by
  obtain ⟨e, he⟩ := Option.isSome_iff_exists.1 h
  simp [advance, he]

theorem drive_of_ending {r : Run σ} (h : r.ending.isSome) (n : Nat) : drive n r = r := by
  cases n <;> simp [drive, h]

theorem drive_succ (n : Nat) (r : Run σ) : drive (n + 1) r = drive n r.advance := by
  by_cases h : r.ending.isSome
  · rw [advance_of_ending h, drive_of_ending h, drive_of_ending h]
  · simp [drive, h]

end

end Run

/-- A step limit as a value. -/
def limitValue : Option Int → Value
  | none => .null
  | some n => .int n

/-- Start the machine on a word and advance the run, which is traced and to which nobody listens, at
most `moments` times. -/
def run (m : Machine) (word : String) (limit : Option Int) (moments : Nat) : Run :=
  (Run.ofStart (m.start word) (limitValue limit) true false).drive moments

@[simp] theorem Run.limitReached_none (steps : Nat) :
    Run.limitReached (limitValue none) steps = .ok false := rfl

@[simp] theorem Run.limitReached_some (n : Int) (steps : Nat) :
    Run.limitReached (limitValue (some n)) steps = .ok (decide (n ≤ steps)) := by
  simp [Run.limitReached, limitValue]

section

variable {σ : Type} [Symbol σ]

/-- Make steps until none is left to make or one fails; what the steps said and what was reported
comes before in reverse. -/
def stepsFrom (heard : Bool) : (count : Nat) → Machine σ → List Progress → List Log.Event →
    Outcome (List Progress) σ
  | 0, m, said, events => ⟨.ok said.reverse, m, events.reverse⟩
  | count + 1, m, said, events =>
    let o := m.stepTo heard
    let events := o.events.reverse ++ events
    match o.result with
    | .ok p => stepsFrom heard count o.machine (p :: said) events
    | .error f => ⟨.error f, o.machine, events.reverse⟩

/-- Make so many steps one after another, which somebody hears of or nobody: where the machine was
after each. -/
def stepTimes (heard : Bool) (m : Machine σ) (count : Nat) : Outcome (List Progress) σ :=
  stepsFrom heard count m [] []

/-- What comes next when a machine is iterated. -/
inductive Next (σ : Type := Char)
  | stop
  | shown (c : Configuration σ)

/-- The configuration after one more step, which somebody hears of or nobody, unless the machine has
halted. -/
def nextTo (heard : Bool) (m : Machine σ) : Outcome (Next σ) σ :=
  if m.isHalted then ⟨.ok .stop, m, []⟩
  else
    let o := m.stepTo heard
    match o.result with
    | .error f => ⟨.error f, o.machine, o.events⟩
    | .ok .unmapped => ⟨.error o.machine.stuckFault, o.machine, o.events⟩
    | .ok _ => ⟨o.machine.configuration.map .shown, o.machine, o.events⟩

/-- The configuration after one more step, unless the machine has halted. -/
def next (m : Machine σ) : Outcome (Next σ) σ := m.nextTo false

/-- The lines of the configurations of an iterated machine until it stops, one has no line, or
`count` of them are taken; the result says how it ended. -/
def iterate (heard : Bool) (m : Machine σ) : (count : Nat) → List String × Outcome Unit σ
  | 0 => ([], ⟨.ok (), m, []⟩)
  | count + 1 =>
    let o := m.nextTo heard
    match o.result with
    | .error f => ([], ⟨.error f, o.machine, o.events⟩)
    | .ok .stop => ([], ⟨.ok (), o.machine, o.events⟩)
    | .ok (.shown c) =>
      match c.loose.line with
      | .error f => ([], ⟨.error (.misuse f), o.machine, o.events⟩)
      | .ok line =>
        let (lines, rest) := iterate heard o.machine count
        (line :: lines, { rest with events := o.events ++ rest.events })

end

end Machine

end TapeMachine
