import TapeMachine.Program.Basic
import TapeMachine.Proofs.Machine.Path

/-!
# Machines that can tell everything

What is reported of a step counts the state before it and the one after.  A machine that is in a
state that can be counted, and whose table leads to such states only (`Machine.TellsAll`), can tell
every report and stays so along its path (`TellsAll.step`).  Its run is then the same at every
moment whether somebody listens or nobody (`Run.drive_heardBy`).

The states of a program are numbers, so it makes no difference who listens to a run of its machine:
`Program.drive_heard`.
-/

namespace TapeMachine

namespace Machine

variable {σ : Type} {m : Machine σ}

/-- **A machine can tell everything**: its state and the states of its table can be counted. -/
structure TellsAll (m : Machine σ) : Prop where
  state : m.state.countFault? = none
  table : ∀ {s a}, m.table.lookup? s = some a → a.nextState.countFault? = none

variable [Symbol σ]

theorem TellsAll.untold? (h : m.TellsAll) : m.untold? = none := by
  rw [Machine.untold?, Option.bind_eq_none_iff]
  intro event hevent
  unfold announcement? at hevent
  obtain ⟨t, -, hevent⟩ := Option.bind_eq_some_iff.1 hevent
  split at hevent
  · cases hevent
  obtain ⟨s, -, hevent⟩ := Option.bind_eq_some_iff.1 hevent
  obtain ⟨a, ha, hevent⟩ := Option.bind_eq_some_iff.1 hevent
  obtain ⟨d, -, hevent⟩ := Option.bind_eq_some_iff.1 hevent
  obtain rfl := Option.some.inj hevent
  rw [note, Log.Event.untold?, h.state, h.table ha]
  rfl

/-- A step leads to a state of the table, or to none. -/
theorem TellsAll.step (h : m.TellsAll) : m.step.machine.TellsAll := by
  cases ht : m.tape with
  | none =>
    rw [Machine.step, ht]
    exact h
  | some t =>
    obtain ⟨-, -, hs⟩ | ⟨-, -, hs⟩ | ⟨-, f, events, -, -, hs⟩ |
      ⟨-, -, s, a, c, d, events, -, ha, -, -, hs⟩ := step_cases ht
    · rw [hs]
      exact h
    · rw [hs]
      exact h
    · rw [hs]
      exact h
    · rw [hs]
      exact ⟨h.table ha, h.table⟩

theorem TellsAll.startOn (h : m.TellsAll) (word : Value) : (m.startOn word).machine.TellsAll := by
  unfold Machine.startOn
  split
  · exact h
  · split
    · exact h
    · exact ⟨h.state, h.table⟩

namespace Run

variable {r : Run σ}

/-- The run with somebody who listens, or nobody. -/
def heardBy (r : Run σ) (heard : Bool) : Run σ := { r with heard := heard }

omit [Symbol σ] in
theorem halt_of_tellsAll (h : r.machine.TellsAll) (c : Configuration σ) :
    r.halt c = { r with
      events := .halted r.machine.state r.machine.stepCount :: r.events
      ending := some (.ok c) } := by
  have hreport : r.reportFault? (.halted r.machine.state r.machine.stepCount) = none := by
    unfold reportFault?
    split
    · exact h.state
    · rfl
  rw [halt]
  simp only [hreport]

theorem tellsAll_proceed (h : r.machine.TellsAll) (c : Configuration σ) :
    (r.proceed c).machine.TellsAll := by
  unfold proceed
  split
  · rw [halt_of_tellsAll h]
    exact h
  split
  · exact h
  · exact h
  · dsimp only
    rw [stepTo_of_told h.untold?]
    exact h.step

theorem tellsAll_advance (h : r.machine.TellsAll) : r.advance.machine.TellsAll := by
  unfold advance
  split
  · exact h
  split
  · exact h
  next c _ =>
    split
    · exact h
    · exact tellsAll_proceed (r := { r with emitted := c :: r.emitted }) h c

theorem proceed_heardBy (h : r.machine.TellsAll) (heard : Bool) (c : Configuration σ) :
    (r.heardBy heard).proceed c = (r.proceed c).heardBy heard := by
  have hh : (r.heardBy heard).machine.isHalted = r.machine.isHalted := rfl
  have hlimit : limitReached (r.heardBy heard).limit (r.heardBy heard).machine.stepCount
      = limitReached r.limit r.machine.stepCount := rfl
  have hstep : (r.heardBy heard).machine.stepTo (r.heardBy heard).heard
      = r.machine.stepTo r.heard := by
    rw [stepTo_of_told h.untold? r.heard]
    exact stepTo_of_told h.untold? heard
  have hhalt : (r.heardBy heard).halt c = (r.halt c).heardBy heard := by
    have hkept : (r.heardBy heard).machine.TellsAll := h
    rw [halt_of_tellsAll h, halt_of_tellsAll hkept]
    rfl
  rw [proceed, proceed, hh, hlimit, hstep, hhalt]
  split
  · rfl
  · split <;> rfl

/-- **What a run does next is the same whoever listens**, if its machine can tell everything. -/
theorem advance_heardBy (h : r.machine.TellsAll) (heard : Bool) :
    (r.heardBy heard).advance = r.advance.heardBy heard := by
  have hending : (r.heardBy heard).ending = r.ending := rfl
  have hconfiguration : (r.heardBy heard).machine.configuration = r.machine.configuration := rfl
  rw [advance, advance, hending, hconfiguration]
  cases r.ending with
  | some e => rfl
  | none =>
    cases r.machine.configuration with
    | error f => rfl
    | ok c =>
      have hemit : (r.heardBy heard).emitFault? c = r.emitFault? c := rfl
      dsimp only
      rw [hemit]
      cases r.emitFault? c with
      | some f => rfl
      | none =>
        exact proceed_heardBy (r := { r with emitted := c :: r.emitted, ending := none }) h heard c

/-- **A run is the same whoever listens**, at every moment. -/
theorem drive_heardBy (h : r.machine.TellsAll) (heard : Bool) (moments : Nat) :
    drive moments (r.heardBy heard) = (drive moments r).heardBy heard := by
  induction moments generalizing r with
  | zero => rfl
  | succ n ih => rw [drive_succ, drive_succ, advance_heardBy h, ih (tellsAll_advance h)]

end Run

end Machine

namespace Program

variable {σ : Type} (p : Program)

theorem tellsAll_machine : (p.machine : Machine σ).TellsAll where
  state := rfl
  table := by
    intro s a ha
    obtain ⟨e, he, rfl⟩ := Option.map_eq_some_iff.1 ha
    obtain ⟨move, -, rfl⟩ := List.mem_map.1 (List.mem_of_find?_eq_some he)
    rfl

/-- **It makes no difference who listens to a run of a program**: whether somebody or nobody does,
it starts on any word and goes on in the same way, whatever its limit and whether it is traced. -/
theorem drive_heard [Symbol σ] (word limit : Value) (traced heard : Bool) (moments : Nat) :
    Machine.Run.drive moments
        (.ofStart ((p.machine : Machine σ).startTo heard word) limit traced heard)
      = (Machine.Run.drive moments
          (.ofStart ((p.machine : Machine σ).startOn word) limit traced false)).heardBy heard := by
  have htells : (p.machine : Machine σ).TellsAll := p.tellsAll_machine
  rw [Machine.startTo_of_told htells.state]
  exact Machine.Run.drive_heardBy (r := .ofStart _ limit traced false) (htells.startOn word) heard
    moments

end Program

end TapeMachine
