import TapeMachine.Proofs.Live.Clock

/-!
# A live display does not interfere

A machine can be stepped by hand until it has halted, has made as many steps as it may, or is
stuck: `Machine.stepOn` does so.  A live display that nobody interrupts does the same to its
machine, and ends for the same reason, whatever the clock says and however it is asked to behave
(`Live.run_does_not_interfere`).  All that these decide is which of the machines on the path it
shows, in order.
-/

namespace TapeMachine

namespace Machine

variable {m : Machine} {t : Tape} {limit : Option Int} {k : Nat}

/-- **Step a machine by hand**, at most so many times: until it has halted, has made as many steps
as it may, or makes no step.  What is asked first decides, so one that halts with its last step has
halted, and one that may make no more steps is not found to be stuck. -/
def stepOn (limit : Option Int) :
    (times : Nat) → Machine → Machine × Option (Except Fault Progress)
  | 0, m => (m, none)
  | times + 1, m =>
    if m.isHalted then (m, some (.ok .halted))
    else if limit.any fun n => n ≤ (m.stepCount : Int) then (m, some (.ok .running))
    else
      let outcome := m.step
      match outcome.result with
      | .error f => (outcome.machine, some (.error f))
      | .ok .unmapped => (outcome.machine, some (.error outcome.machine.stuckFault))
      | .ok _ => stepOn limit times outcome.machine

theorem stepOn_succ (ht : m.tape = some t) (times : Nat) :
    m.stepOn limit (times + 1) = match m.stopping? limit with
      | some e => (m, some e)
      | none => m.step.machine.stepOn limit times := by
  rw [stepOn]
  by_cases hh : m.isHalted
  · rw [if_pos hh, stopping?, if_pos hh]
  rw [if_neg hh]
  cases hl : limit.any fun n => n ≤ (m.stepCount : Int) with
  | true => rw [if_pos rfl, stopping?, if_neg hh, hl, if_pos rfl]
  | false =>
    rw [if_neg Bool.false_ne_true, stopping?_of_running hh hl]
    rcases step_cases ht with ⟨hh', -⟩ | ⟨-, he, hstep⟩ | ⟨-, f, events, -, he, hstep⟩ |
      ⟨-, he, _, a, c, d, events, -, -, -, -, hstep⟩
    · exact absurd hh' hh
    · rw [he, hstep]
    · rw [he, hstep]
    · rw [he, hstep]
      by_cases hn : (m.moved t a.nextState c d).isHalted
      · rw [if_pos hn]
      · rw [if_neg hn]

theorem stepOn_add (ht : m.tape = some t) (hgo : ∀ j < k, (m.afterSteps j).stopping? limit = none)
    (times : Nat) : m.stepOn limit (k + times) = (m.afterSteps k).stepOn limit times := by
  induction k generalizing times with
  | zero => rw [Nat.zero_add, afterSteps_zero]
  | succ k ih =>
    obtain ⟨hbefore, hk⟩ := Nat.forall_lt_succ_right.1 hgo
    obtain ⟨t', ht'⟩ := exists_tape_afterSteps ht k
    rw [Nat.add_assoc, Nat.add_comm 1 times, ih hbefore, stepOn_succ ht', hk, afterSteps_succ]

theorem ending?_of_stopping? (h : m.stopping? limit = none) : m.ending? = none := by
  have hh : ¬ m.isHalted := by
    intro hh
    rw [stopping?, if_pos hh] at h
    contradiction
  rw [stopping?, if_neg hh] at h
  split at h
  · contradiction
  · cases he : m.ending? with
    | none => rfl
    | some e =>
      cases e with
      | ok => exact absurd (ending?_eq_ok_iff.1 he) hh
      | error f =>
        rw [he] at h
        contradiction

end Machine

namespace Live

variable {o o' : Options} {w w' : Surroundings} {m : Machine} {t : Tape} {limit : Option Int}
  {e : Except Machine.Fault Machine.Progress} {again : Bool}

namespace Session

/-- The machine that a session shows once more because it found it stuck, by its number of steps. -/
def onceMore (s : Session) (k : Nat) : List Nat :=
  match s.ending with
  | some (.error (.unmapped _ _)) => [k]
  | _ => []

theorem Exit.of_uninterrupted (h : Exit w limit m e again) (hw : ∀ n, w.interrupts n = false) :
    m.stopping? limit = some e ∧
      ∀ (s : Session) (k : Nat), s.ending = some e →
        s.onceMore k = if again then [k] else [] := by
  unfold onceMore
  cases h with
  | halted h => exact ⟨h, fun s k hs => by rw [hs]; rfl⟩
  | early h => exact ⟨h, fun s k hs => by rw [hs]; rfl⟩
  | stuck h => exact ⟨h, fun s k hs => by rw [hs]; rfl⟩
  | fault h hf =>
    refine ⟨h, fun s k hs => ?_⟩
    rw [hs]
    split
    · next heq => exact absurd (Except.error.inj (Option.some.inj heq)) (hf _ _)
    · rfl
  | interrupted _ hi =>
    rw [hw] at hi
    contradiction

end Session

/-- **What a display does that nobody interrupts.**  It takes its machine as far as stepping it by
hand does and reports the same; on the way it shows some of the machines in order, and a machine
that is stuck once more. -/
theorem run_eq_stepOn (hs : SetUp o w limit) (hw : ∀ n, w.interrupts n = false)
    (ht : m.tape = some t) (moments : Nat) :
    let s := run o w m moments
    (s.machine, s.ending) = m.stepOn limit moments ∧
    ∃ k, (∀ j < k, (m.afterSteps j).stopping? limit = none) ∧
      ∃ later, s.Shows o w m k later (s.onceMore k) := by
  intro s
  rcases run_shows hs ht moments with ⟨hgo, hnone, later, h⟩ | ⟨k, hk, hgo, e, later, again, h⟩
  · have hsteps := Machine.stepOn_add ht hgo 0
    refine ⟨?_, moments, hgo, later, ?_⟩
    · rw [h.machine, hnone]
      exact hsteps.symm
    · rw [Session.onceMore, hnone]
      exact h
  · obtain ⟨hstop, honce⟩ := h.exit.of_uninterrupted hw
    obtain ⟨n, rfl⟩ := Nat.exists_eq_add_of_lt hk
    obtain ⟨t', ht'⟩ := Machine.exists_tape_afterSteps ht k
    have hsteps := Machine.stepOn_add ht hgo (n + 1)
    rw [Machine.stepOn_succ ht', hstop] at hsteps
    refine ⟨?_, k, hgo, later, ?_⟩
    · rw [h.shows.machine, h.ending]
      exact hsteps.symm
    · rw [honce s k h.ending]
      exact h.shows

/-- **A live display does not interfere with its machine.**  Two displays of a machine that nobody
interrupts, with whatever clocks, pauses, captions and numbers, leave the machine alike and end
alike: as stepping it by hand does.  A display shows the machine that it is given first and then, in
order and none twice, machines that it passes through; one that it finds stuck it shows once more.
With no pause between two redraws and a clock that never goes back it shows all of them. -/
theorem run_does_not_interfere (hs : SetUp o w limit) (hs' : SetUp o' w' limit)
    (hw : ∀ n, w.interrupts n = false) (hw' : ∀ n, w'.interrupts n = false)
    (ht : m.tape = some t) (moments : Nat) :
    let s := run o w m moments
    let s' := run o' w' m moments
    s.machine = s'.machine ∧ s.ending = s'.ending ∧
    (s.machine, s.ending) = m.stepOn limit moments ∧
    ∃ k, s.machine = m.afterSteps k ∧ s.machine.stepCount = m.stepCount + k ∧
      ∃ later, later.Sublist (List.range' 1 k) ∧ s.HasShown m (0 :: later ++ s.onceMore k) ∧
        (o.interval.amount? = some (.finite 0) → w.NeverGoesBack → later = List.range' 1 k) := by
  intro s s'
  obtain ⟨hsteps, k, hgo, later, h⟩ := run_eq_stepOn hs hw ht moments
  obtain ⟨hsteps', -⟩ := run_eq_stepOn hs' hw' ht moments
  have hsame := hsteps.trans hsteps'.symm
  have hpath : m.GoesOn k := fun j hj => Machine.ending?_of_stopping? (hgo j hj)
  refine ⟨congrArg Prod.fst hsame, congrArg Prod.snd hsame, hsteps, k, h.machine, ?_, later,
    h.inOrder, h.lines, fun hzero hback => ?_⟩
  · rw [h.machine]
    exact Machine.stepCount_afterSteps ht hpath
  · exact h.all (Session.alwaysDue_of_neverGoesBack hs hzero hback)

/-- A clock that goes on by a second from each reading to the next, and a user who lets the display
run. -/
def ticking : Surroundings := ⟨fun i => .double (.finite false i), fun _ => false⟩

/-- A display of the walker with two seconds between two redraws, and one that shows every step,
with numbers and a caption. -/
theorem run_does_not_interfere_with_walker :
    let s := run ⟨.null, .int 2, .text "", false⟩ ticking walker 4
    let s' := run ⟨.null, .int 0, .text "walker", true⟩ standstill walker 4
    s.machine = s'.machine ∧ s.ending = s'.ending ∧ s.ending = some (.ok .halted) ∧
    s.displayed = ["...B[0]aaB...", "...Baa[0]BB...", "...Baa[1]BB..."] ∧
    s'.displayed
      = ["...B[0]aaB...", "...Ba[0]aB...", "...Baa[0]BB...", "...Baa[1]BB..."] := by
  have hs : SetUp ⟨.null, .int 2, .text "", false⟩ ticking none :=
    ⟨rfl, ⟨_, rfl⟩, fun _ => ⟨_, rfl⟩⟩
  have hs' : SetUp ⟨.null, .int 0, .text "walker", true⟩ standstill none :=
    ⟨rfl, ⟨_, rfl⟩, fun _ => ⟨_, rfl⟩⟩
  obtain ⟨t, ht⟩ : ∃ t, walker.tape = some t := ⟨_, rfl⟩
  obtain ⟨hmachine, hending, -⟩ :=
    run_does_not_interfere hs hs' (fun _ => rfl) (fun _ => rfl) ht 4
  exact ⟨hmachine, hending, hending.trans (by rfl), by decide +kernel, by decide +kernel⟩

end Live

end TapeMachine
