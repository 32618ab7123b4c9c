import Mathlib.Logic.Function.Iterate
import TapeMachine.Machine.Basic
import TapeMachine.Proofs.Tape.Simulation

/-!
# Machines with unbounded tapes

A machine as textbooks have it works on an unbounded tape.  It stops in its halting
state, which is looked at first, and where its table has no action for its state and the
symbol under its head; `UnboundedMachine.after` gives its configurations in order, the
last one again and again once it has stopped.

`Machine.Follows m i` says that the machine `m` is where the unbounded one `i` is.  A step
of a machine keeps that (`Follows.step_of_running`), and where the unbounded machine is
stuck it changes nothing (`Follows.step_of_stuck`).
-/

namespace TapeMachine

/-- A value that can be looked up in a table, as lists and objects cannot. -/
def Value.IsKey (v : Value) : Prop := v.asKey = .ok v

/-- An action that can be taken: it goes in a direction and writes a single character, and the state
that it leads to can be looked up. -/
structure Action.IsValid (a : Action) : Prop where
  effect : a.effect?.isSome
  nextState : a.nextState.IsKey

/-- A Turing machine with an unbounded tape. -/
structure UnboundedMachine where
  state : Value
  endState : Value
  table : Table Situation Action
  tape : UnboundedTape

namespace UnboundedMachine

/-- The machine at the start of a run on a word. -/
def new (startState endState : Value) (table : Table Situation Action) (word : List Char) :
    UnboundedMachine :=
  ⟨startState, endState, table, .ofWord word⟩

/-- Whether the machine is in its halting state. -/
def isHalted (m : UnboundedMachine) : Bool := m.state.same m.endState

/-- What the table says of the state and the symbol under the head. -/
def action? (m : UnboundedMachine) : Option Action :=
  m.table.lookup? ⟨m.state, .ofSymbol m.tape.read⟩

/-- The machine has halted, or its table says nothing of where it is. -/
def Stopped (m : UnboundedMachine) : Prop := m.isHalted ∨ m.action? = none

/-- Take an action: write, change the state and move. -/
def take (m : UnboundedMachine) (a : Action) : UnboundedMachine :=
  match a.effect? with
  | some (c, d) => { m with state := a.nextState, tape := (m.tape.write c).move d }
  | none => m

/-- Make a step, unless the machine has stopped. -/
def step (m : UnboundedMachine) : UnboundedMachine :=
  if m.isHalted then m else (m.action?.map m.take).getD m

/-- The machine after so many steps. -/
def after (m : UnboundedMachine) (k : Nat) : UnboundedMachine := step^[k] m

/-- The machine stops after so many steps and not before. -/
def StopsAt (m : UnboundedMachine) (k : Nat) : Prop :=
  (m.after k).Stopped ∧ ∀ j < k, ¬ (m.after j).Stopped

/-- The machine can go on from where it is as long as its table has actions. -/
structure Sound (m : UnboundedMachine) : Prop where
  state : m.state.IsKey
  table : ∀ e ∈ m.table, e.2.IsValid

variable {m : UnboundedMachine}

theorem after_succ (m : UnboundedMachine) (k : Nat) : m.after (k + 1) = (m.after k).step :=
  Function.iterate_succ_apply' ..

/-- A machine that has stopped has stopped for the first time then or earlier. -/
theorem exists_stopsAt {k : Nat} (h : (m.after k).Stopped) : ∃ j ≤ k, m.StopsAt j := by
  induction k using Nat.strong_induction_on with
  | _ k ih =>
    by_cases hfirst : ∀ j < k, ¬ (m.after j).Stopped
    · exact ⟨k, le_rfl, h, hfirst⟩
    · simp only [not_forall, not_not] at hfirst
      obtain ⟨j, hj, hs⟩ := hfirst
      obtain ⟨l, hl, hstop⟩ := ih j hj hs
      exact ⟨l, hl.trans hj.le, hstop⟩

theorem not_stopped_of_lt {j k : Nat} (h : ∀ l < k, ¬ m.StopsAt l) (hj : j < k) :
    ¬ (m.after j).Stopped := by
  intro hs
  obtain ⟨l, hl, hstop⟩ := exists_stopsAt hs
  exact h l (hl.trans_lt hj) hstop

theorem action?_isValid (h : m.Sound) {a : Action} (ha : m.action? = some a) : a.IsValid := by
  obtain ⟨e, he, rfl⟩ := Option.map_eq_some_iff.1 ha
  exact h.table e (List.mem_of_find?_eq_some he)

/-- A machine that has not stopped takes the action of its table. -/
theorem exists_step_eq (h : m.Sound) (hm : ¬ m.Stopped) : ∃ a c d,
    m.action? = some a ∧ Direction.ofValue? a.direction = some d ∧ a.nextSymbol.symbol? = some c ∧
      m.step = { m with state := a.nextState, tape := (m.tape.write c).move d } := by
  obtain ⟨hh, ha⟩ := not_or.1 hm
  obtain ⟨a, ha⟩ := Option.ne_none_iff_exists'.1 ha
  obtain ⟨⟨c, d⟩, he⟩ := Option.isSome_iff_exists.1 (action?_isValid h ha).effect
  have hparts : Direction.ofValue? a.direction = some d ∧ a.nextSymbol.symbol? = some c := by
    simp only [Action.effect?, Option.bind_eq_bind, Option.bind_eq_some_iff, Option.pure_def,
      Option.some.injEq, Prod.mk.injEq] at he
    obtain ⟨d', hd, c', hc, rfl, rfl⟩ := he
    exact ⟨hd, hc⟩
  refine ⟨a, c, d, ha, hparts.1, hparts.2, ?_⟩
  rw [step, if_neg hh, ha]
  simp only [Option.map_some, Option.getD_some, take, he]

theorem Sound.step (h : m.Sound) : m.step.Sound := by
  by_cases hm : m.Stopped
  · have hs : m.step = m := by
      rw [UnboundedMachine.step]
      rcases hm with hh | ha
      · rw [if_pos hh]
      · rw [ha]
        exact ite_self _
    rwa [hs]
  · obtain ⟨a, c, d, ha, -, -, he⟩ := exists_step_eq h hm
    rw [he]
    exact ⟨(action?_isValid h ha).nextState, h.table⟩

theorem Sound.after (h : m.Sound) (k : Nat) : (m.after k).Sound := by
  induction k with
  | zero => exact h
  | succ k ih => rw [after_succ]; exact ih.step

end UnboundedMachine

namespace Machine

/-- **A machine is where an unbounded one is.** -/
structure Follows (m : Machine) (i : UnboundedMachine) : Prop where
  state : m.state = i.state
  endState : m.endState = i.endState
  table : m.table = i.table
  tape : ∃ t f, m.tape = some t ∧ t.Shows f i.tape

namespace Follows

variable {m : Machine} {i : UnboundedMachine}

theorem isHalted_eq (h : m.Follows i) : m.isHalted = i.isHalted := by
  rw [isHalted, h.state, h.endState, UnboundedMachine.isHalted]

/-- What a machine that has not halted looks up is what the unbounded one does. -/
theorem situation_eq (h : m.Follows i) (hi : i.Sound) {t : Tape} {f : Int → Nat}
    (ht : t.Shows f i.tape) : m.situation t = .ok ⟨i.state, .ofSymbol i.tape.read⟩ := by
  have hstate : i.state.asKey = .ok i.state := hi.state
  rw [situation, h.state, hstate, ht.read_eq]
  rfl

theorem step_of_stuck (h : m.Follows i) (hi : i.Sound) (hh : ¬ i.isHalted)
    (ha : i.action? = none) : m.step = ⟨.ok .unmapped, m, []⟩ := by
  obtain ⟨t, f, ht, hs⟩ := h.tape
  rw [UnboundedMachine.action?] at ha
  rw [step, ht]
  simp only [h.isHalted_eq, hh, h.situation_eq hi hs, h.table, ha]
  rfl

/-- **A step of a machine is a step of the unbounded one.** -/
theorem step_of_running (h : m.Follows i) (hi : i.Sound) (hr : ¬ i.Stopped) :
    m.step.result = .ok (if i.step.isHalted then .halted else .running) ∧
      m.step.machine.Follows i.step ∧ m.step.machine.stepCount = m.stepCount + 1 := by
  obtain ⟨t, f, ht, hs⟩ := h.tape
  obtain ⟨a, c, d, ha, hd, hc, hstep⟩ := UnboundedMachine.exists_step_eq hi hr
  have hh : ¬ i.isHalted := (not_or.1 hr).1
  rw [UnboundedMachine.action?] at ha
  have hm : m.step = m.take t a := by
    rw [step, ht]
    simp only [h.isHalted_eq, hh, h.situation_eq hi hs, h.table, ha]
    rfl
  obtain ⟨g, hg⟩ := (hs.write c).move d
  have hfollows : Follows { m with
      state := a.nextState
      tape := some ((t.write c).move d).1
      stepCount := m.stepCount + 1 } i.step := by
    rw [hstep]
    exact ⟨rfl, h.endState, h.table, _, g, rfl, hg⟩
  rw [hm, take, hd, ← hfollows.isHalted_eq]
  dsimp only [Symbol.written?_char]
  rw [hc]
  exact ⟨rfl, hfollows, rfl⟩

end Follows

end Machine

end TapeMachine
