import TapeMachine.Demo.Tour

/-!
# Snapshots of a run

Steps the unary adder on a long word within a budget of steps, and shows how far
it has come after every ten of them.
-/

namespace TapeMachine.Demo.Snapshots

open TapeMachine.Text

/-- The word: two numbers in ones. -/
def word : String :=
  String.ofList (List.replicate 40 '1' ++ '0' :: List.replicate 25 '1')

/-- The most steps to make. -/
def budget : Nat := 1000

/-- The number of steps from one snapshot to the next. -/
def interval : Nat := 10

/-- The line for a snapshot of a machine with a tape. -/
def snapshotLine (m : Machine) (t : Tape) : String :=
  "✓ Step " ++ integerGrouped m.stepCount ++ ": Nonblanks=" ++ integerGrouped t.countNonblanks ++
    ", Head at " ++ integer t.position ++ "\n"

/-- Step a machine within a budget: the snapshots on the way, where the machine got to, and the
result of the last step. -/
def steps : (left : Nat) → Machine → Machine.Progress → String × Machine × Machine.Progress
  | 0, m, p => ("", m, p)
  | left + 1, m, p =>
    if p ≠ .running ∨ budget ≤ m.stepCount then ("", m, p)
    else
      let o := m.step
      let line := match o.machine.tape with
        | some t => if o.machine.stepCount % interval = 0 then snapshotLine o.machine t else ""
        | none => ""
      match o.result with
      | .error _ => (line, o.machine, .unmapped)
      | .ok p =>
        let (rest, m, p) := steps left o.machine p
        (line ++ rest, m, p)

/-- The closing lines for a machine with a tape. -/
def closing (m : Machine) (t : Tape) (p : Machine.Progress) : String :=
  "\n✓ Final state at step " ++ integerGrouped m.stepCount ++ ":\n" ++
    "  - Result: " ++ p.word ++ "\n" ++
    "  - Nonblanks: " ++ integerGrouped t.countNonblanks ++ "\n" ++
    "  - Halted: " ++ (Value.bool m.isHalted).shown ++ "\n" ++
    "  - " ++ (m.snapshot t).line ++ "\n"

/-- The text of the demonstration. -/
def text : Option String := do
  let p ← program? "unary_add.tm"
  let (lines, m, progress) := steps budget (p.machine.start word).machine .running
  let t ← m.tape
  return "Loading the unary adder...\n" ++
    "Running for at most " ++ integerGrouped budget ++ " steps with periodic snapshots...\n" ++
    "(Press Ctrl+C to stop early)\n\n" ++ lines ++ closing m t progress

end TapeMachine.Demo.Snapshots
