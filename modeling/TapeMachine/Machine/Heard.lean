import TapeMachine.Machine.Basic

/-!
# Machines that somebody listens to

Reports are told only if somebody listens, and a report that cannot be told then
fails the operation that makes it.  A step makes its report before it changes
anything (`announcement?`), so such a step leaves the machine as it was; a start
makes it when the word is on the tape.  Where nobody listens (`stepTo_false`,
`startTo_false`) or everything can be told (`stepTo_of_told`, `startTo_of_told`),
these are the operations of the machine.
-/

namespace TapeMachine.Machine

variable {σ : Type} [Symbol σ]

/-- What the next step reports first, if it makes a transition. -/
def announcement? (m : Machine σ) : Option Log.Event := do
  let t ← m.tape
  if m.isHalted then none
  else
    let s ← (m.situation t).toOption
    let a ← m.table.lookup? s
    let d ← Direction.ofValue? a.direction
    return m.note t a d

/-- Why the next step cannot be told of. -/
def untold? (m : Machine σ) : Option Value.Misuse := m.announcement?.bind Log.Event.untold?

/-- Make one transition, which somebody hears of or nobody. -/
def stepTo (heard : Bool) (m : Machine σ) : Outcome Progress σ :=
  match if heard then m.untold? else none with
  | some f => ⟨.error (.misuse f), m, []⟩
  | none => m.step

/-- Start the machine on an unchecked word, which somebody hears of or nobody. -/
def startTo (heard : Bool) (m : Machine σ) (word : Value) : Outcome Unit σ :=
  let untold := if heard then (Log.Event.started m.state word).untold? else none
  let o := m.startOn word
  match o.result, untold with
  | .ok _, some f => ⟨.error (.misuse f), o.machine, []⟩
  | _, _ => o

@[simp] theorem stepTo_false (m : Machine σ) : m.stepTo false = m.step := rfl

@[simp] theorem startTo_false (m : Machine σ) (word : Value) :
    m.startTo false word = m.startOn word := by
  simp [startTo]

theorem stepTo_of_told {m : Machine σ} (h : m.untold? = none) (heard : Bool) :
    m.stepTo heard = m.step := by
  simp [stepTo, h]

theorem startTo_of_told {m : Machine σ} (h : m.state.countFault? = none) (heard : Bool)
    (word : Value) : m.startTo heard word = m.startOn word := by
  simp [startTo, Log.Event.untold?, h]

end TapeMachine.Machine
