import TapeMachine.Proofs.Machine.Path
import TapeMachine.Proofs.Tape.Padding

/-!
# Blanks behind the word

A machine pads another if it is in the same state and its tape is the other's with blank cells
more at the right end (`Machine.Pads`).  Both make the same step then, which keeps the padding if
the head stays and drops it if the head goes (`Pads.step`).  So two runs one of which pads the
other go on and end alike (`Run.Pads.advance`), and blanks behind the word of a run make no
difference but for such cells until the head goes for the first time: `run_append_blanks`.
-/

namespace TapeMachine

/-- A configuration with blank cells more at its right end. -/
def Configuration.pad (c : Configuration) (n : Nat) : Configuration :=
  { c with cells := c.cells ++ List.replicate n blank }

@[simp] theorem Configuration.pad_zero (c : Configuration) : c.pad 0 = c := by
  simp [Configuration.pad]

namespace Machine

variable {m m' : Machine} {n : Nat}

/-- **A machine pads another**: it is the same but for blank cells at the right end of its tape. -/
structure Pads (m m' : Machine) (n : Nat) : Prop where
  state : m'.state = m.state
  endState : m'.endState = m.endState
  table : m'.table = m.table
  stepCount : m'.stepCount = m.stepCount
  tape : ∃ t t', m.tape = some t ∧ m'.tape = some t' ∧ t.Pads t' n

/-- Where the head of a machine is, if there is a tape. -/
def position? (m : Machine) : Option Int := m.tape.map Tape.position

/-- What two machines come to from where one pads the other: the results are the same, and the
padding is kept where the head is still at its place. -/
structure PadsNext (m : Machine) (n : Nat) (o o' : Outcome Progress) : Prop where
  result : o'.result = o.result
  machine : o.machine.Pads o'.machine (if o.machine.position? = m.position? then n else 0)

/-- **The head has stayed** where it was at the start, at each of so many steps. -/
def Stays (m : Machine) (k : Nat) : Prop :=
  ∀ j < k, (m.afterSteps (j + 1)).position? = (m.afterSteps j).position?

theorem stays_zero (m : Machine) : m.Stays 0 := fun _ hj => absurd hj (Nat.not_lt_zero _)

theorem stays_succ_iff {k : Nat} : m.Stays (k + 1) ↔
    m.Stays k ∧ (m.afterSteps (k + 1)).position? = (m.afterSteps k).position? :=
  Nat.forall_lt_succ_right

theorem position?_afterSteps {t : Tape} {f : Int → Nat} {u : UnboundedTape} {k : Nat}
    (ht : m.tape = some t) (h : t.Shows f u) {c : Configuration}
    (hc : (m.afterSteps k).configuration = .ok c) :
    (m.afterSteps k).position? = some c.headPosition := by
  obtain ⟨t', f', u', ht', h'⟩ := exists_shows_afterSteps ht h k
  obtain rfl := Except.ok.inj ((configuration_of_tape ht').symm.trans hc)
  rw [position?, ht', h'.headPosition_snapshot]
  rfl

namespace Pads

theorem isHalted_eq (h : m.Pads m' n) : m'.isHalted = m.isHalted := by
  rw [isHalted, h.state, h.endState, isHalted]

theorem stuckFault_eq (h : m.Pads m' n) : m'.stuckFault = m.stuckFault := by
  obtain ⟨t, t', ht, ht', htt⟩ := h.tape
  rw [stuckFault, stuckFault, ht, ht', h.state]
  dsimp only
  rw [htt.read_eq]

theorem countNonblanks_eq (h : m.Pads m' n) : m'.countNonblanks = m.countNonblanks := by
  obtain ⟨t, t', ht, ht', htt⟩ := h.tape
  rw [countNonblanks, countNonblanks, ht, ht']
  dsimp only
  rw [htt.countNonblanks_eq]

theorem configuration_eq (h : m.Pads m' n) {c : Configuration} (hc : m.configuration = .ok c) :
    m'.configuration = .ok (c.pad n) := by
  obtain ⟨t, t', ht, ht', htt⟩ := h.tape
  obtain rfl := Except.ok.inj ((configuration_of_tape ht).symm.trans hc)
  rw [configuration_of_tape ht', snapshot, h.state, h.stepCount, htt.symbols_eq, htt.headIndex_eq,
    htt.firstPosition]
  rfl

/-- Machines that are left as they are keep the padding. -/
theorem same (h : m.Pads m' n) (result : Except Fault Progress) (events events' : List Log.Event) :
    m.PadsNext n ⟨result, m, events⟩ ⟨result, m', events'⟩ :=
  ⟨rfl, by rwa [if_pos rfl]⟩

/-- Both machines take an action alike. -/
theorem take (h : m.Pads m' n) {t t' : Tape} (ht : m.tape = some t) (htt : t.Pads t' n)
    (a : Action) : m.PadsNext n (m.take t a) (m'.take t' a) := by
  rw [Machine.take, Machine.take]
  cases hd : Direction.ofValue? a.direction with
  | none => exact h.same ..
  | some d =>
    dsimp only
    cases hc : (Symbol.written? a.nextSymbol : Option Char) with
    | none => exact h.same ..
    | some c =>
      have hnext : Pads (m.moved t a.nextState c d) (m'.moved t' a.nextState c d)
          (if d = .stay then n else 0) :=
        { state := rfl
          endState := h.endState
          table := h.table
          stepCount := congrArg (· + 1) h.stepCount
          tape := ⟨_, _, rfl, rfl, (htt.write c).move d⟩ }
      have hposition : (m.moved t a.nextState c d).position? = m.position? ↔ d = .stay := by
        obtain ⟨f, -, u, hs, -⟩ := htt.shows
        obtain ⟨g, hg⟩ := (hs.write c).move d
        have hp : ((t.write c).move d).1.position = t.position + d.offset := by
          rw [hg.position_eq, hs.position_eq]
          rfl
        rw [position?, position?, ht]
        show some ((t.write c).move d).1.position = some t.position ↔ d = .stay
        rw [hp, Option.some.injEq]
        cases d <;> simp [Direction.offset]
      simp only [← hposition] at hnext
      refine ⟨?_, hnext⟩
      exact congrArg (fun b : Bool => Except.ok (if b then Progress.halted else .running))
        hnext.isHalted_eq

/-- **Both machines make the same step**, which keeps the padding if the head stays and drops it if
the head goes. -/
theorem step (h : m.Pads m' n) : m.PadsNext n m.step m'.step := by
  obtain ⟨t, t', ht, ht', htt⟩ := h.tape
  have hsituation : m'.situation t' = m.situation t := by
    rw [situation, situation, h.state, htt.read_eq]
  rw [Machine.step, Machine.step, ht, ht']
  dsimp only
  rw [h.isHalted_eq, hsituation, h.table]
  by_cases hh : m.isHalted
  · rw [if_pos hh, if_pos hh]
    exact h.same ..
  rw [if_neg hh, if_neg hh]
  cases m.situation t with
  | error f => exact h.same ..
  | ok s =>
    dsimp only
    cases m.table.lookup? s with
    | none => exact h.same ..
    | some a => exact h.take ht htt a

/-- **Along their paths machines stay padded** up to where the head goes for the first time, and
from there on they are the same. -/
theorem afterSteps (h : m.Pads m' n) (k : Nat) : ∃ n', (m.afterSteps k).Pads (m'.afterSteps k) n' ∧
    (m.Stays k → n' = n) ∧ (¬ m.Stays k → n' = 0) := by
  induction k with
  | zero => exact ⟨n, h, fun _ => rfl, fun hs => absurd m.stays_zero hs⟩
  | succ k ih =>
    obtain ⟨n₁, h₁, hstays, hgone⟩ := ih
    rw [stays_succ_iff, afterSteps_succ, afterSteps_succ]
    refine ⟨_, h₁.step.machine, fun ⟨hs, hlast⟩ => (if_pos hlast).trans (hstays hs), fun hs => ?_⟩
    by_cases hlast : (m.afterSteps k).step.machine.position? = (m.afterSteps k).position?
    · exact (if_pos hlast).trans (hgone fun hs' => hs ⟨hs', hlast⟩)
    · exact if_neg hlast

end Pads

/-- Blanks behind the word pad a machine that is started on it. -/
theorem pads_start (startState endState : Value) (table : Table Situation Action) (word : String)
    (k : Nat) :
    ((new startState endState table : Machine).start word).machine.Pads
      ((new startState endState table).start
        (word ++ String.ofList (List.replicate k blank))).machine
      (if word = "" then k - 1 else k) := by
  have hword : word = "" ↔ word.toList = [] := by rw [String.toList_eq_nil_iff]
  rw [start_of_fresh rfl, start_of_fresh rfl, String.toList_append, String.toList_ofList]
  simp only [hword]
  exact ⟨rfl, rfl, rfl, rfl, _, _, rfl, rfl, Tape.pads_ofWord word.toList k⟩

/-! ### Runs -/

namespace Run

/-- How a run has ended if it has: the fault, or that it has halted. -/
def outcome? (r : Run) : Option (Except Fault Unit) := r.ending.map fun e => e.map fun _ => ()

/-- **A run pads another**: its machine does, it has emitted as many configurations, and it has
ended alike if at all. -/
structure Pads (r r' : Run) : Prop where
  heard : r.heard = false
  heard' : r'.heard = false
  limit : r'.limit = r.limit
  machine : ∃ n, r.machine.Pads r'.machine n
  length : r'.emitted.length = r.emitted.length
  outcome? : r'.outcome? = r.outcome?

namespace Pads

variable {r r' : Run}

/-- Once the present configurations have been emitted, both runs do the same. -/
theorem proceed (h : r.Pads r') (c c' : Configuration) : (r.proceed c).Pads (r'.proceed c') := by
  obtain ⟨n, hm⟩ := h.machine
  have hlimit : limitReached r'.limit r'.machine.stepCount
      = limitReached r.limit r.machine.stepCount := by rw [h.limit, hm.stepCount]
  rw [Run.proceed, Run.proceed, hm.isHalted_eq, hlimit]
  by_cases hh : r.machine.isHalted
  · rw [if_pos hh, if_pos hh, halt_of_unheard h.heard, halt_of_unheard h.heard']
    exact ⟨h.heard, h.heard', h.limit, h.machine, h.length, rfl⟩
  rw [if_neg hh, if_neg hh]
  cases limitReached r.limit r.machine.stepCount with
  | error f => exact ⟨h.heard, h.heard', h.limit, h.machine, h.length, rfl⟩
  | ok reached =>
    cases reached with
    | true =>
      refine ⟨h.heard, h.heard', h.limit, h.machine, h.length, ?_⟩
      exact congrArg (fun v => some (Except.error (Fault.stepLimit v))) h.limit
    | false =>
      obtain ⟨hresult, hn⟩ := hm.step
      have hstep : r.machine.stepTo r.heard = r.machine.step := by rw [h.heard, stepTo_false]
      have hstep' : r'.machine.stepTo r'.heard = r'.machine.step := by rw [h.heard', stepTo_false]
      rw [hstep, hstep']
      refine ⟨h.heard, h.heard', h.limit, ⟨_, hn⟩, h.length, ?_⟩
      dsimp only [outcome?]
      rw [hresult, hn.stuckFault_eq]
      cases r.machine.step.result with
      | error f => rfl
      | ok p => cases p <;> rfl

theorem isSome_ending (h : r.Pads r') : r'.ending.isSome = r.ending.isSome := by
  simpa [Run.outcome?] using congrArg Option.isSome h.outcome?

/-- **A moment of both runs** keeps the padding. -/
theorem advance (h : r.Pads r') : r.advance.Pads r'.advance := by
  by_cases hsome : r.ending.isSome
  · rw [advance_of_ending hsome, advance_of_ending (h.isSome_ending.trans hsome)]
    exact h
  have hnone : r.ending = none := Option.not_isSome_iff_eq_none.1 hsome
  have hnone' : r'.ending = none := Option.not_isSome_iff_eq_none.1 (h.isSome_ending ▸ hsome)
  obtain ⟨n, hm⟩ := h.machine
  obtain ⟨t, t', ht, ht', -⟩ := hm.tape
  rw [advance_of_configuration hnone (configuration_of_tape ht),
    advance_of_configuration hnone' (configuration_of_tape ht')]
  have hemitted : Pads { r with emitted := r.machine.snapshot t :: r.emitted }
      { r' with emitted := r'.machine.snapshot t' :: r'.emitted } :=
    ⟨h.heard, h.heard', h.limit, h.machine, congrArg (· + 1) h.length, h.outcome?⟩
  exact hemitted.proceed _ _

theorem drive (h : r.Pads r') (moments : Nat) :
    (Run.drive moments r).Pads (Run.drive moments r') := by
  induction moments generalizing r r' with
  | zero => exact h
  | succ k ih =>
    rw [drive_succ, drive_succ]
    exact ih h.advance

end Pads

/-- Blanks behind the word pad the machine that is started on it. -/
theorem pads_ofStart (startState endState : Value) (table : Table Situation Action) (word : String)
    (k : Nat) (limit : Value) (traced : Bool) :
    (ofStart ((new startState endState table).start word) limit traced false).Pads
      (ofStart ((new startState endState table).start
        (word ++ String.ofList (List.replicate k blank))) limit traced false) := by
  have h := pads_start startState endState table word k
  rw [start_of_fresh rfl, start_of_fresh rfl] at h ⊢
  exact ⟨rfl, rfl, rfl, ⟨_, h⟩, rfl, rfl⟩

end Run

/-- **Blanks behind the word make no difference.**  Whatever is in the table, a run on the word
with blanks behind it ends as the run on the word does, if at all: it halts, or there is the same
fault, be it a missing transition with its state and symbol or the step limit.  It makes as many
steps through the same states and leaves as many symbols but blanks.  From the first step at which
the head goes on the configurations are equal, and before there are blank cells more at their right
end, as many as were added; the empty word has one without them. -/
theorem run_append_blanks (startState endState : Value) (table : Table Situation Action)
    (word : String) (k : Nat) (limit : Option Int) (traced : Bool) (moments : Nat) :
    let run := fun word => Run.drive moments
      (.ofStart ((new startState endState table : Machine).start word) (limitValue limit) traced
        false)
    let r := run word
    let r' := run (word ++ String.ofList (List.replicate k blank))
    r'.outcome? = r.outcome? ∧ r'.machine.stepCount = r.machine.stepCount ∧
      r'.machine.countNonblanks = r.machine.countNonblanks ∧
      r'.configurations.length = r.configurations.length ∧
      ∀ (j : Nat) (c c' : Configuration),
        r.configurations[j]? = some c → r'.configurations[j]? = some c' →
          ((∃ i < j, ∃ a b : Configuration, r.configurations[i]? = some a ∧
            r.configurations[i + 1]? = some b ∧ a.headPosition ≠ b.headPosition) → c' = c) ∧
          ((∀ i < j, ∀ a b : Configuration, r.configurations[i]? = some a →
            r.configurations[i + 1]? = some b → a.headPosition = b.headPosition) →
              c' = c.pad (if word = "" then k - 1 else k)) := by
  intro run r r'
  have hpads : r.Pads r' := (Run.pads_ofStart ..).drive moments
  obtain ⟨n, hm⟩ := hpads.machine
  have hlength : r'.configurations.length = r.configurations.length := by
    rw [Run.configurations, Run.configurations, List.length_reverse, List.length_reverse,
      hpads.length]
  refine ⟨hpads.outcome?, hm.stepCount, hm.countNonblanks_eq, hlength, fun j c c' hc hc' => ?_⟩
  have ht := tape_start startState endState table word
  have hpath := fun word => Run.onPath_ofStart startState endState table word limit traced
  have along := fun {i a} (ha : r.configurations[i]? = some a) =>
    ((hpath word).goesOn_of_emitted ht ha).2
  have hposition := fun {i a} (ha : r.configurations[i]? = some a) =>
    position?_afterSteps ht (Tape.shows_ofWord word.toList) (along ha)
  obtain ⟨-, hj'⟩ := (hpath _).goesOn_of_emitted (tape_start ..) hc'
  obtain ⟨n, hn, hstays, hgone⟩ := (pads_start startState endState table word k).afterSteps j
  obtain rfl : c' = c.pad n := Except.ok.inj (hj'.symm.trans (hn.configuration_eq (along hc)))
  refine ⟨?_, fun hsame => ?_⟩
  · rintro ⟨i, hi, a, b, ha, hb, hne⟩
    have hgoes : ¬ ((new startState endState table).start word).machine.Stays j := fun hs => by
      have he := hs i hi
      rw [hposition ha, hposition hb] at he
      exact hne (Option.some.inj he).symm
    rw [hgone hgoes, Configuration.pad_zero]
  · have hs : ((new startState endState table).start word).machine.Stays j := fun i hi => by
      have hlength : j < r.configurations.length := (List.getElem?_eq_some_iff.1 hc).1
      have ha := List.getElem?_eq_getElem (l := r.configurations) (i := i) (by omega)
      have hb := List.getElem?_eq_getElem (l := r.configurations) (i := i + 1) (by omega)
      rw [hposition ha, hposition hb, hsame i hi _ _ ha hb]
    rw [hstays hs]

end Machine

end TapeMachine
