import Mathlib.Logic.Function.Iterate
import TapeMachine.Proofs.Machine.Run

/-!
# The path of a machine

A machine that is stepped again and again passes along a path (`Machine.afterSteps`), up to
where no step leads on: it has halted, its table says nothing of where it is, or an entry of
the table is refused.  `Machine.ending?` is how that is reported, and `Machine.GoesOn` says for
how long it is not.  `step_cases` says all that a step can do, whatever is in the table: it
leads on, or it leaves the machine as it was.

A run goes along the path of its machine (`Run.OnPath`) and emits the configuration of every
machine on it, until the path or the limit ends (`Run.EndedAt`, `OnPath.drive`).
-/

namespace TapeMachine.Machine

section

variable {σ : Type} [Symbol σ] {m : Machine σ} {t : Tape σ} {k : Nat}

/-- The machine after so many steps. -/
def afterSteps (m : Machine σ) (k : Nat) : Machine σ := (fun m : Machine σ => m.step.machine)^[k] m

/-- How it is reported that no step leads on: the machine has halted, or there is a fault. -/
def ending? (m : Machine σ) : Option (Except Fault Unit) :=
  if m.isHalted then some (.ok ())
  else match m.step.result with
    | .error f => some (.error f)
    | .ok .unmapped => some (.error m.stuckFault)
    | .ok _ => none

/-- **The path goes on** for so many steps. -/
def GoesOn (m : Machine σ) (k : Nat) : Prop := ∀ j < k, (m.afterSteps j).ending? = none

/-- The machine when it has written, changed its state and moved. -/
def moved (m : Machine σ) (t : Tape σ) (state : Value) (c : σ) (d : Direction) : Machine σ :=
  { m with state := state, tape := some ((t.write c).move d).1, stepCount := m.stepCount + 1 }

@[simp] theorem afterSteps_zero (m : Machine σ) : m.afterSteps 0 = m := rfl

theorem afterSteps_succ (m : Machine σ) (k : Nat) :
    m.afterSteps (k + 1) = (m.afterSteps k).step.machine :=
  Function.iterate_succ_apply' ..

theorem goesOn_zero (m : Machine σ) : m.GoesOn 0 := fun _ hj => absurd hj (Nat.not_lt_zero _)

theorem goesOn_succ_iff : m.GoesOn (k + 1) ↔ m.GoesOn k ∧ (m.afterSteps k).ending? = none :=
  Nat.forall_lt_succ_right

/-! ### What a step can do -/

/-- **What taking an action does**: nothing if its direction is none, nothing either if its symbol
is none, and otherwise all that it says. -/
theorem take_cases (m : Machine σ) (t : Tape σ) (a : Action) :
    (Direction.ofValue? a.direction = none ∧
      m.take t a = ⟨.error (.notADirection a.direction), m, []⟩) ∨
    ∃ d, Direction.ofValue? a.direction = some d ∧
      (((Symbol.written? a.nextSymbol : Option σ) = none ∧
        m.take t a = ⟨.error (.tape (.notASymbol a.nextSymbol)), m, [m.note t a d]⟩) ∨
      ∃ c events, Symbol.written? a.nextSymbol = some c ∧
        m.take t a = ⟨.ok (if (m.moved t a.nextState c d).isHalted then .halted else .running),
          m.moved t a.nextState c d, events⟩) := by
  rw [take]
  cases hd : Direction.ofValue? a.direction with
  | none => exact .inl ⟨rfl, rfl⟩
  | some d =>
    refine .inr ⟨d, rfl, ?_⟩
    cases hc : (Symbol.written? a.nextSymbol : Option σ) with
    | none => exact .inl ⟨rfl, rfl⟩
    | some c => exact .inr ⟨c, _, rfl, rfl⟩

/-- A step with an action that can be taken leads on. -/
theorem step_of_action (ht : m.tape = some t) (hh : ¬ m.isHalted) {s : Situation} {a : Action}
    {c : σ} {d : Direction} (hs : m.situation t = .ok s) (ha : m.table.lookup? s = some a)
    (hd : Direction.ofValue? a.direction = some d) (hc : Symbol.written? a.nextSymbol = some c) :
    m.ending? = none ∧ ∃ events,
      m.step = ⟨.ok (if (m.moved t a.nextState c d).isHalted then .halted else .running),
        m.moved t a.nextState c d, events⟩ := by
  have he : m.step
      = ⟨.ok (if (m.moved t a.nextState c d).isHalted then .halted else .running),
        m.moved t a.nextState c d, m.note t a d :: ((t.write c).move d).2.map .tape⟩ := by
    have htake : m.step = m.take t a := by
      rw [step, ht]
      simp only [hh, hs, ha, Bool.false_eq_true, if_false]
    rw [htake, take, hd]
    simp only [hc]
    rfl
  refine ⟨?_, _, he⟩
  rw [ending?, if_neg hh, he]
  by_cases hn : (m.moved t a.nextState c d).isHalted <;> simp [hn]

/-- **A step leads on, or it leaves the machine as it was.**  It leads on if the table has an action
for where the machine is, and the action goes in a direction and writes a single character. -/
theorem step_cases (ht : m.tape = some t) :
    (m.isHalted ∧ m.ending? = some (.ok ()) ∧ m.step = ⟨.ok .halted, m, []⟩) ∨
    (¬ m.isHalted ∧ m.ending? = some (.error m.stuckFault) ∧ m.step = ⟨.ok .unmapped, m, []⟩) ∨
    (¬ m.isHalted ∧ ∃ f events, (∀ state symbol, f ≠ .unmapped state symbol) ∧
      m.ending? = some (.error f) ∧ m.step = ⟨.error f, m, events⟩) ∨
    (¬ m.isHalted ∧ m.ending? = none ∧ ∃ s a c d events, m.situation t = .ok s ∧
      m.table.lookup? s = some a ∧ Direction.ofValue? a.direction = some d ∧
      Symbol.written? a.nextSymbol = some c ∧
      m.step = ⟨.ok (if (m.moved t a.nextState c d).isHalted then .halted else .running),
        m.moved t a.nextState c d, events⟩) := by
  by_cases hh : m.isHalted
  · exact .inl ⟨hh, by rw [ending?, if_pos hh], by rw [step, ht]; exact if_pos hh⟩
  refine .inr ?_
  -- A refused step is the same whatever it is refused for.
  have refused : ∀ f events, (∀ state symbol, f ≠ .unmapped state symbol) →
      m.step = ⟨.error f, m, events⟩ → ∃ f events, (∀ state symbol, f ≠ .unmapped state symbol) ∧
        m.ending? = some (.error f) ∧ m.step = ⟨.error f, m, events⟩ := by
    intro f events hf hs
    exact ⟨f, events, hf, by rw [ending?, if_neg hh, hs], hs⟩
  cases hsit : m.situation t with
  | error f =>
    refine .inr (.inl ⟨hh, refused (.misuse f) [] (by simp) ?_⟩)
    rw [step, ht]
    simp only [hh, hsit, Bool.false_eq_true, if_false]
  | ok s =>
    cases ha : m.table.lookup? s with
    | none =>
      have hs : m.step = ⟨.ok .unmapped, m, []⟩ := by
        rw [step, ht]
        simp only [hh, hsit, ha, Bool.false_eq_true, if_false]
      exact .inl ⟨hh, by rw [ending?, if_neg hh, hs], hs⟩
    | some a =>
      have htake : m.step = m.take t a := by
        rw [step, ht]
        simp only [hh, hsit, ha, Bool.false_eq_true, if_false]
      rcases m.take_cases t a with ⟨-, hs⟩ | ⟨d, hd, ⟨-, hs⟩ | ⟨c, -, hc, -⟩⟩
      · exact .inr (.inl ⟨hh, refused _ _ (by simp) (htake.trans hs)⟩)
      · exact .inr (.inl ⟨hh, refused _ _ (by simp) (htake.trans hs)⟩)
      · obtain ⟨he, events, hs⟩ := step_of_action ht hh hsit ha hd hc
        exact .inr (.inr ⟨hh, he, s, a, c, d, events, rfl, ha, hd, hc, hs⟩)

/-- Where the path ends, a step leaves the machine as it was. -/
theorem step_machine_of_ending (ht : m.tape = some t) {e : Except Fault Unit}
    (he : m.ending? = some e) : m.step.machine = m := by
  rcases step_cases ht with ⟨-, -, hs⟩ | ⟨-, -, hs⟩ | ⟨-, f, events, -, -, hs⟩ | ⟨-, hn, -⟩
  · rw [hs]
  · rw [hs]
  · rw [hs]
  · rw [hn] at he
    contradiction

/-- Where the path goes on, a step makes a move. -/
theorem exists_step_of_goesOn (ht : m.tape = some t) (he : m.ending? = none) :
    ¬ m.isHalted ∧ ∃ s a c d events, m.situation t = .ok s ∧ m.table.lookup? s = some a ∧
      Direction.ofValue? a.direction = some d ∧ Symbol.written? a.nextSymbol = some c ∧
      m.step = ⟨.ok (if (m.moved t a.nextState c d).isHalted then .halted else .running),
        m.moved t a.nextState c d, events⟩ := by
  rcases step_cases ht with ⟨-, hn, -⟩ | ⟨-, hn, -⟩ | ⟨-, f, events, -, hn, -⟩ | ⟨hh, -, hs⟩
  · rw [hn] at he; contradiction
  · rw [hn] at he; contradiction
  · rw [hn] at he; contradiction
  · exact ⟨hh, hs⟩

theorem ending?_eq_ok_iff : m.ending? = some (.ok ()) ↔ m.isHalted := by
  constructor
  · intro h
    by_contra hh
    rw [ending?, if_neg hh] at h
    split at h <;> simp at h
  · intro hh
    rw [ending?, if_pos hh]

/-! ### What is the same all along the path -/

theorem table_step (ht : m.tape = some t) :
    m.step.machine.endState = m.endState ∧ m.step.machine.table = m.table := by
  rcases step_cases ht with ⟨-, -, hs⟩ | ⟨-, -, hs⟩ | ⟨-, f, events, -, -, hs⟩ |
    ⟨-, -, s, a, c, d, events, -, -, -, -, hs⟩ <;> rw [hs] <;> exact ⟨rfl, rfl⟩

/-- What writing and moving keep, a step keeps. -/
theorem exists_tape_step {P : Tape σ → Prop}
    (hP : ∀ t c d, P t → P ((Tape.write t c).move d).1)
    (ht : m.tape = some t) (h : P t) : ∃ t', m.step.machine.tape = some t' ∧ P t' := by
  rcases step_cases ht with ⟨-, -, hs⟩ | ⟨-, -, hs⟩ | ⟨-, f, events, -, -, hs⟩ |
    ⟨-, -, s, a, c, d, events, -, -, -, -, hs⟩
  · exact ⟨t, by rw [hs, ht], h⟩
  · exact ⟨t, by rw [hs, ht], h⟩
  · exact ⟨t, by rw [hs, ht], h⟩
  · exact ⟨_, by rw [hs]; rfl, hP t c d h⟩

/-- **What writing and moving keep holds all along the path.** -/
theorem exists_tape_of_keeps {P : Tape σ → Prop}
    (hP : ∀ t c d, P t → P ((Tape.write t c).move d).1)
    (ht : m.tape = some t) (h : P t) (k : Nat) : ∃ t', (m.afterSteps k).tape = some t' ∧ P t' := by
  induction k with
  | zero => exact ⟨t, ht, h⟩
  | succ k ih =>
    obtain ⟨t', ht', h'⟩ := ih
    rw [afterSteps_succ]
    exact exists_tape_step hP ht' h'

theorem exists_tape_afterSteps (ht : m.tape = some t) (k : Nat) :
    ∃ t', (m.afterSteps k).tape = some t' := by
  obtain ⟨t', ht', -⟩ :=
    exists_tape_of_keeps (P := fun _ => True) (fun _ _ _ _ => trivial) ht trivial k
  exact ⟨t', ht'⟩

theorem configuration_of_tape (ht : m.tape = some t) : m.configuration = .ok (m.snapshot t) := by
  rw [configuration, ht]

theorem exists_configuration (ht : m.tape = some t) (k : Nat) :
    ∃ c, (m.afterSteps k).configuration = .ok c := by
  obtain ⟨t', ht'⟩ := exists_tape_afterSteps ht k
  exact ⟨_, configuration_of_tape ht'⟩

/-- All along the path the tape shows an unbounded one. -/
theorem exists_shows_afterSteps [LawfulBEq σ] (ht : m.tape = some t) {f : Int → Nat}
    {u : UnboundedTape σ} (h : t.Shows f u) (k : Nat) :
    ∃ t' f' u', (m.afterSteps k).tape = some t' ∧ t'.Shows f' u' := by
  obtain ⟨t', ht', f', u', h'⟩ := exists_tape_of_keeps (P := fun t => ∃ f u, t.Shows f u)
    (fun t c d ⟨f, u, h⟩ => by
      obtain ⟨g, hg⟩ := (h.write c).move d
      exact ⟨g, _, hg⟩) ht ⟨f, u, h⟩ k
  exact ⟨t', f', u', ht', h'⟩

theorem table_afterSteps (ht : m.tape = some t) (k : Nat) :
    (m.afterSteps k).endState = m.endState ∧ (m.afterSteps k).table = m.table := by
  induction k with
  | zero => exact ⟨rfl, rfl⟩
  | succ k ih =>
    obtain ⟨t', ht'⟩ := exists_tape_afterSteps ht k
    rw [afterSteps_succ]
    obtain ⟨hend, htable⟩ := table_step ht'
    exact ⟨hend.trans ih.1, htable.trans ih.2⟩

/-- Each step on the path counts as one. -/
theorem stepCount_afterSteps (ht : m.tape = some t)
    (hk : m.GoesOn k) :
    (m.afterSteps k).stepCount = m.stepCount + k := by
  induction k with
  | zero => rfl
  | succ k ih =>
    obtain ⟨hk, he⟩ := goesOn_succ_iff.1 hk
    obtain ⟨t', ht'⟩ := exists_tape_afterSteps ht k
    obtain ⟨-, s, a, c, d, events, -, -, -, -, hs⟩ := exists_step_of_goesOn ht' he
    rw [afterSteps_succ, hs, ← Nat.add_assoc, ← ih hk]
    rfl

end

variable {m : Machine} {t : Tape} {k : Nat}

/-- The cells of a configuration are as many blank and other ones as the machine counts. -/
theorem countNonblanks_of_configuration {c : Configuration} (h : m.configuration = .ok c) :
    m.countNonblanks = .ok (c.cells.countP fun s => s ≠ blank) := by
  cases ht : m.tape with
  | none =>
    rw [configuration, ht] at h
    contradiction
  | some t =>
    rw [configuration_of_tape ht] at h
    obtain rfl := Except.ok.inj h
    have hcount : t.countNonblanks = t.symbols.countP fun s => s ≠ blank := by
      rw [Tape.countNonblanks, Tape.symbols, List.countP_map]
      exact List.countP_congr fun i _ => by simp [Tape.blankAt_char]
    rw [countNonblanks, ht]
    exact congrArg Except.ok hcount

theorem tape_start (startState endState : Value) (table : Table Situation Action) (word : String) :
    ((new startState endState table : Machine).start word).machine.tape
      = some (Tape.ofWord word.toList) := by
  rw [start_of_fresh rfl]

/-! ### Runs along the path -/

/-- How a run with a limit ends at a machine. -/
inductive EndsAs (m : Machine) (limit : Option Int) : Except Fault Configuration → Prop
  | halted {c : Configuration} (h : m.ending? = some (.ok ())) (hc : m.configuration = .ok c) :
      EndsAs m limit (.ok c)
  | fault {f : Fault} (h : m.ending? = some (.error f)) (hl : Run.Allows limit m.stepCount) :
      EndsAs m limit (.error f)
  | limit {n : Int} (hh : ¬ m.isHalted) (hn : limit = some n) (hle : n ≤ m.stepCount) :
      EndsAs m limit (.error (.stepLimit (.int n)))

namespace Run

variable {r : Run} {limit : Option Int}

/-- A run has emitted the configurations of the first machines on a path. -/
def EmittedAlong (r : Run) (m : Machine) (k : Nat) : Prop :=
  r.configurations.map .ok = (List.range k).map fun j => (m.afterSteps j).configuration

/-- **A run that has not ended** has gone so far along the path of its machine. -/
structure OnPath (r : Run) (m : Machine) (limit : Option Int) (k : Nat) : Prop where
  ending : r.ending = none
  heard : r.heard = false
  allows : ∀ j < k, Allows limit (m.afterSteps j).stepCount
  limit : r.limit = limitValue limit
  machine : r.machine = m.afterSteps k
  goesOn : m.GoesOn k
  emitted : r.EmittedAlong m k

/-- **A run that has ended** at a machine on the path, which is where its machine stays. -/
structure EndedAt (r : Run) (m : Machine) (limit : Option Int) (k : Nat) : Prop where
  ending : ∃ e, r.ending = some e ∧ (m.afterSteps k).EndsAs limit e
  machine : r.machine = m.afterSteps k
  goesOn : m.GoesOn k
  allows : ∀ j < k, Allows limit (m.afterSteps j).stepCount
  emitted : r.EmittedAlong m (k + 1)

theorem EmittedAlong.length_eq (h : r.EmittedAlong m k) : r.configurations.length = k := by
  simpa using congrArg List.length h

theorem EmittedAlong.getElem? (h : r.EmittedAlong m k) {j : Nat} {c : Configuration} :
    r.configurations[j]? = some c ↔ j < k ∧ (m.afterSteps j).configuration = .ok c := by
  have hj := congrArg (·[j]?) h
  simp only [List.getElem?_map] at hj
  by_cases hlt : j < k
  · obtain ⟨d, hd⟩ : ∃ d, r.configurations[j]? = some d :=
      ⟨_, List.getElem?_eq_getElem (h.length_eq ▸ hlt)⟩
    rw [hd, List.getElem?_range hlt] at hj
    have hc : .ok d = (m.afterSteps j).configuration := Option.some.inj hj
    rw [hd, ← hc]
    simp [hlt]
  · rw [List.getElem?_eq_none (by rw [h.length_eq]; omega)]
    simp [hlt]

theorem EmittedAlong.cons (h : r.EmittedAlong m k) {c : Configuration}
    (hc : (m.afterSteps k).configuration = .ok c) :
    EmittedAlong { r with emitted := c :: r.emitted } m (k + 1) := by
  rw [EmittedAlong, configurations, List.reverse_cons, List.map_append, List.range_succ,
    List.map_append, List.map_singleton, List.map_singleton, hc]
  exact congrArg (· ++ [.ok c]) h

/-- What a moment does once the present configuration is emitted. -/
theorem proceed_cases (ht : r.machine.tape = some t) (hheard : r.heard = false)
    (hlimit : r.limit = limitValue limit) {c : Configuration}
    (hc : r.machine.configuration = .ok c) (hnone : r.ending = none) :
    (∃ e, (r.proceed c).ending = some e ∧ r.machine.EndsAs limit e ∧
      (r.proceed c).machine = r.machine ∧ (r.proceed c).emitted = r.emitted) ∨
    (r.machine.ending? = none ∧ Allows limit r.machine.stepCount ∧ ∃ events, r.proceed c
      = { r with machine := r.machine.step.machine, events := events }) := by
  by_cases hh : r.machine.isHalted
  · have hp : r.proceed c
        = { r with
            events := .halted r.machine.state r.machine.stepCount :: r.events
            ending := some (.ok c) } := by
      rw [proceed, if_pos hh, halt_of_unheard hheard]
    rw [hp]
    exact .inl ⟨_, rfl, .halted (ending?_eq_ok_iff.2 hh) hc, rfl, rfl⟩
  by_cases hl : Allows limit r.machine.stepCount
  · have hp : r.proceed c
        = { r with
            machine := r.machine.step.machine
            events := r.machine.step.events.reverse ++ r.events
            ending := match r.machine.step.result with
              | .error f => some (.error f)
              | .ok .unmapped => some (.error r.machine.step.machine.stuckFault)
              | .ok _ => none } := by
      have hgoes : limitReached r.limit r.machine.stepCount = .ok false := by
        rw [hlimit, limitReached_of_allows hl]
      have hstep : r.machine.stepTo r.heard = r.machine.step := by rw [hheard, stepTo_false]
      rewrite [proceed, if_neg hh, hgoes, hstep]
      rfl
    rw [hp]
    rcases step_cases ht with ⟨hh', -, -⟩ | ⟨-, he, hs⟩ | ⟨-, f, events, -, he, hs⟩ |
      ⟨-, he, s, a, x, d, events, -, -, -, -, hs⟩
    · exact absurd hh' hh
    · rw [hs]
      exact .inl ⟨_, rfl, .fault he hl, rfl, rfl⟩
    · rw [hs]
      exact .inl ⟨_, rfl, .fault he hl, rfl, rfl⟩
    · refine .inr ⟨he, hl, events.reverse ++ r.events, ?_⟩
      rw [hs, hnone]
      by_cases hn : (r.machine.moved t a.nextState x d).isHalted <;> simp [hn]
  · simp only [Allows, not_forall, not_lt] at hl
    obtain ⟨n, hn, hle⟩ := hl
    have hp : r.proceed c = { r with ending := some (.error (.stepLimit r.limit)) } := by
      have hreached : limitReached r.limit r.machine.stepCount = .ok true := by
        rw [hlimit, hn, limitReached_of_le hle]
      rewrite [proceed, if_neg hh, hreached]
      rfl
    rw [hp]
    refine .inl ⟨_, rfl, ?_, rfl, rfl⟩
    have hvalue : r.limit = .int n := hlimit.trans (congrArg limitValue hn)
    rw [hvalue]
    exact .limit hh hn hle

/-- **A moment of a run** ends it, or takes it one step along the path. -/
theorem OnPath.advance (h : r.OnPath m limit k) (ht : m.tape = some t) :
    r.advance.OnPath m limit (k + 1) ∨ r.advance.EndedAt m limit k := by
  obtain ⟨t', ht'⟩ := exists_tape_afterSteps ht k
  rw [← h.machine] at ht'
  have hc := configuration_of_tape ht'
  generalize r.machine.snapshot t' = c at hc
  have ha := advance_of_configuration h.ending hc
  have hemit := h.emitted.cons (h.machine ▸ hc)
  rcases proceed_cases (r := { r with emitted := c :: r.emitted }) ht' h.heard h.limit hc h.ending
    with ⟨e, he, hends, hmachine, hemitted⟩ | ⟨he, hl, events, hp⟩
  · refine .inr ⟨⟨e, ha ▸ he, h.machine ▸ hends⟩, ha ▸ hmachine.trans h.machine, h.goesOn,
      h.allows, ?_⟩
    rw [EmittedAlong, configurations, ha, hemitted]
    exact hemit
  · left
    rw [ha, hp]
    refine ⟨h.ending, h.heard, Nat.forall_lt_succ_right.2 ⟨h.allows, ?_⟩, h.limit, ?_,
      goesOn_succ_iff.2 ⟨h.goesOn, ?_⟩, hemit⟩
    · rw [← h.machine]
      exact hl
    · rw [afterSteps_succ, ← h.machine]
    · rw [← h.machine]
      exact he

/-- **A run at any moment** is still on the path, or it has ended before. -/
theorem OnPath.drive (h : r.OnPath m limit 0) (ht : m.tape = some t) (moments : Nat) :
    (Run.drive moments r).OnPath m limit moments ∨
      ∃ k < moments, (Run.drive moments r).EndedAt m limit k := by
  induction moments with
  | zero => exact .inl h
  | succ n ih =>
    rw [drive_add, drive_succ]
    show (Run.drive n r).advance.OnPath m limit (n + 1) ∨
      ∃ k < n + 1, (Run.drive n r).advance.EndedAt m limit k
    rcases ih with ih | ⟨k, hk, ih⟩
    · rcases ih.advance ht with ha | ha
      · exact .inl ha
      · exact .inr ⟨n, by omega, ha⟩
    · obtain ⟨e, he, -⟩ := ih.ending
      rw [advance_of_ending (by rw [he]; rfl)]
      exact .inr ⟨k, by omega, ih⟩

/-- A run that has just started is at the beginning of the path of its machine. -/
theorem onPath_of_started {o : Outcome Unit} (h : o.result = .ok ()) (limit : Option Int)
    (traced : Bool) : OnPath (ofStart o (limitValue limit) traced false) o.machine limit 0 where
  ending := by rw [ofStart, h]
  heard := rfl
  allows := fun _ hj => absurd hj (Nat.not_lt_zero _)
  limit := rfl
  machine := rfl
  goesOn := goesOn_zero _
  emitted := rfl

theorem onPath_ofStart (startState endState : Value) (table : Table Situation Action)
    (word : String) (limit : Option Int) (traced : Bool) :
    OnPath (ofStart ((new startState endState table).start word) (limitValue limit) traced false)
      ((new startState endState table : Machine).start word).machine limit 0 :=
  onPath_of_started (by rw [start_of_fresh rfl]) limit traced

/-- What a run has emitted so far is the beginning of what it emits if nothing but the path ends
it. -/
theorem OnPath.goesOn_of_emitted (h : r.OnPath m limit 0) (ht : m.tape = some t) {moments j : Nat}
    {c : Configuration} (hc : (Run.drive moments r).configurations[j]? = some c) :
    m.GoesOn j ∧ (m.afterSteps j).configuration = .ok c := by
  rcases h.drive ht moments with hr | ⟨k, -, hr⟩
  · obtain ⟨hj, hc⟩ := hr.emitted.getElem?.1 hc
    exact ⟨fun l hl => hr.goesOn l (by omega), hc⟩
  · obtain ⟨hj, hc⟩ := hr.emitted.getElem?.1 hc
    exact ⟨fun l hl => hr.goesOn l (by omega), hc⟩

end Run

/-- What a run without limit ends with at a machine with a configuration. -/
def endingAt {σ : Type} [Symbol σ] (m : Machine σ) (c : Configuration σ) :
    Option (Except Fault (Configuration σ)) :=
  m.ending?.map fun e => e.map fun _ => c

theorem EndsAs.eq_endingAt {e : Except Fault Configuration} (h : m.EndsAs none e)
    {c : Configuration} (hc : m.configuration = .ok c) : some e = m.endingAt c := by
  cases h with
  | halted h hc' =>
    rw [hc] at hc'
    rw [endingAt, h, Except.ok.inj hc']
    rfl
  | fault h _ => rw [endingAt, h]; rfl
  | limit _ hn _ => contradiction

theorem Run.EndedAt.ending?_ne_none {r : Run} (h : r.EndedAt m none k) :
    (m.afterSteps k).ending? ≠ none := by
  obtain ⟨e, -, hends⟩ := h.ending
  cases hends with
  | halted h _ => simp [h]
  | fault h _ => simp [h]
  | limit _ hn _ => contradiction

/-- **A run without limit** is on the path as long as that goes on, and ends where it does. -/
theorem Run.OnPath.drive_unlimited {r : Run} (h : r.OnPath m none 0) (ht : m.tape = some t)
    (hk : m.GoesOn k) :
    (Run.drive (k + 1) r).OnPath m none (k + 1) ∨ (Run.drive (k + 1) r).EndedAt m none k := by
  rcases h.drive ht (k + 1) with hr | ⟨j, hj, hr⟩
  · exact .inl hr
  · obtain rfl : j = k := by
      by_contra hne
      exact hr.ending?_ne_none (hk j (by omega))
    exact .inr hr

theorem Run.OnPath.emittedAlong_unlimited {r : Run} (h : r.OnPath m none 0) (ht : m.tape = some t)
    (hk : m.GoesOn k) : (Run.drive (k + 1) r).EmittedAlong m (k + 1) := by
  rcases h.drive_unlimited ht hk with hr | hr
  · exact hr.emitted
  · exact hr.emitted

/-- **A run without limit emits the configurations of the path**, each at its moment, and ends where
the path does. -/
theorem Run.OnPath.unlimited {r : Run} (h : r.OnPath m none 0) (ht : m.tape = some t)
    {c : Configuration} (hk : m.GoesOn k)
    (hc : (m.afterSteps k).configuration = .ok c) :
    (Run.drive (k + 1) r).configurations[k]? = some c ∧
      (Run.drive (k + 1) r).ending = (m.afterSteps k).endingAt c := by
  refine ⟨(h.emittedAlong_unlimited ht hk).getElem?.2 ⟨by omega, hc⟩, ?_⟩
  rcases h.drive_unlimited ht hk with hr | hr
  · rw [hr.ending, endingAt, hr.goesOn k (by omega)]
    rfl
  · obtain ⟨e, he, hends⟩ := hr.ending
    exact he.trans (hends.eq_endingAt hc)

/-- **A run without limit ends when the path does**, neither before nor after it. -/
theorem Run.OnPath.ending_unlimited {r : Run} (h : r.OnPath m none 0) (ht : m.tape = some t)
    (hk : m.GoesOn k) {e : Except Fault Unit} (he : (m.afterSteps k).ending? = some e)
    {c : Configuration} (hc : (m.afterSteps k).configuration = .ok c) (moments : Nat) :
    (moments ≤ k → (Run.drive moments r).ending = none) ∧
      (k < moments → (Run.drive moments r).ending = some (e.map fun _ => c) ∧
        (Run.drive moments r).machine = m.afterSteps k) := by
  rcases h.drive ht moments with hr | ⟨j, hj, hr⟩
  · refine ⟨fun _ => hr.ending, fun hlt => ?_⟩
    rw [hr.goesOn k hlt] at he
    contradiction
  · obtain rfl : j = k := by
      by_contra hne
      rcases Nat.lt_or_gt_of_ne hne with hlt | hgt
      · exact hr.ending?_ne_none (hk j hlt)
      · rw [hr.goesOn k hgt] at he
        contradiction
    obtain ⟨e', he', hends⟩ := hr.ending
    refine ⟨fun hle => absurd hj (by omega), fun _ => ⟨he'.trans ?_, hr.machine⟩⟩
    rw [hends.eq_endingAt hc, endingAt, he]
    rfl

end TapeMachine.Machine
