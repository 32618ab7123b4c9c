import TapeMachine.Live
import TapeMachine.Proofs.Machine.Path

/-!
# Live displays along the path

A live display steps its machine itself.  At every moment its machine is on the path of the
one it was given, whatever the clock says, however it is asked to behave and whether or not
the user interrupts (`Session.OnPath`): a moment leaves the machine where it is or takes it
one step further (`OnPath.advance`).  All that a moment can do is listed in `Session.Moment`, and
`Live.EndsAs` says how a display can end at a machine.
-/

namespace TapeMachine.Live

variable {σ : Type} {o : Options} {w : Surroundings} {s : Session σ} {m : Machine σ} {t : Tape σ}
  {k : Nat}

/-- How a live display ends at a machine: it has halted, it is to go no further although it could,
the machine has a fault, or numbers that the display was given cannot be compared. -/
inductive EndsAs [Symbol σ] (m : Machine σ) : Except Machine.Fault Machine.Progress → Prop
  | halted (h : m.ending? = some (.ok ())) : EndsAs m (.ok .halted)
  | stopped (h : ¬ m.isHalted) : EndsAs m (.ok .running)
  | fault {f : Machine.Fault} (h : m.ending? = some (.error f)) : EndsAs m (.error f)
  | misuse {f : Value.Misuse} : EndsAs m (.error (.misuse f))

/-- Where a machine is said to be after a step that leads on. -/
def progressOf (m : Machine σ) : Machine.Progress := if m.isHalted then .halted else .running

theorem progressOf_eq_halted_iff : progressOf m = .halted ↔ m.isHalted := by
  unfold progressOf
  split <;> simp [*]

namespace Session

theorem exists_remark_eq (s : Session σ) (text : String) :
    ∃ events, s.remark o text = { s with events := events } := by
  rw [remark]
  split
  · exact ⟨_, rfl⟩
  · exact ⟨_, rfl⟩

variable [Symbol σ]

/-- **A live display** has gone so far along the path of a machine. -/
structure OnPath (s : Session σ) (m : Machine σ) (k : Nat) : Prop where
  machine : s.machine = m.afterSteps k
  goesOn : m.GoesOn k
  progress : s.progress = progressOf (m.afterSteps k)
  ending : ∀ e, s.ending = some e → EndsAs (m.afterSteps k) e

theorem OnPath.congr {s' : Session σ} (h : s.OnPath m k) (hm : s'.machine = s.machine)
    (hp : s'.progress = s.progress) (he : s'.ending = s.ending) : s'.OnPath m k where
  machine := hm.trans h.machine
  goesOn := h.goesOn
  progress := hp.trans h.progress
  ending := he ▸ h.ending

/-- Ending a display where it is keeps it on the path. -/
theorem OnPath.finish (h : s.OnPath m k) {e : Except Machine.Fault Machine.Progress}
    (he : EndsAs (m.afterSteps k) e) : (s.finish e).OnPath m k := by
  rw [Session.finish]
  split
  · exact h
  · refine ⟨h.machine, h.goesOn, h.progress, fun e' he' => ?_⟩
    obtain rfl := Option.some.inj he'
    exact he

/-- A redraw only shows something. -/
theorem exists_redraw_eq [LawfulSymbol σ] (ht : s.machine.tape = some t) :
    ∃ events, s.redraw o = { s with events := events, frames := s.frames + 1 } := by
  obtain ⟨line, hline⟩ := (s.machine.snapshot t).exists_line
  rw [redraw]
  cases o.showStats <;> simp [emit, ht, hline]

/-- The session when its machine has made a step. -/
def stepped (s : Session σ) : Session σ :=
  { s with machine := s.machine.step.machine, progress := progressOf s.machine.step.machine }

/-- **What a moment of a session does.**  It leaves a session alone that has ended; otherwise it
ends the session for one of six reasons, or the machine makes a step and the clock is looked at. -/
inductive Moment (o : Options) (w : Surroundings) (s : Session σ) : Session σ → Prop
  | ended (h : s.ending.isSome) : Moment o w s s
  | halted (hnone : s.ending = none) (hh : s.machine.isHalted) :
      Moment o w s ((s.remark o "✓ Halted").finish (.ok .halted))
  | misuse {f : Value.Misuse} (hnone : s.ending = none) (hl : s.stopsEarly o = .error f) :
      Moment o w s (s.finish (.error (.misuse f)))
  | early (hnone : s.ending = none) (hh : ¬ s.machine.isHalted) (hl : s.stopsEarly o = .ok true) :
      Moment o w s ((s.remark o "✓ Reached early_stop").finish (.ok .running))
  | interrupted (hnone : s.ending = none) (hh : ¬ s.machine.isHalted)
      (hi : w.interrupts s.machine.stepCount) :
      Moment o w s (((s.redraw o).remark o "⏹ Stopped by user").finish (.ok .running))
  | stuck {state symbol : Value} (hnone : s.ending = none) (hh : ¬ s.machine.isHalted)
      (hl : s.stopsEarly o = .ok false)
      (he : s.machine.ending? = some (.error (.unmapped state symbol))) :
      Moment o w s ((s.redraw o).finish (.error (.unmapped state symbol)))
  | fault {f : Machine.Fault} (hnone : s.ending = none) (hh : ¬ s.machine.isHalted)
      (hl : s.stopsEarly o = .ok false) (he : s.machine.ending? = some (.error f))
      (hf : ∀ state symbol, f ≠ .unmapped state symbol) : Moment o w s (s.finish (.error f))
  | goesOn (hnone : s.ending = none) (hh : ¬ s.machine.isHalted) (hl : s.stopsEarly o = .ok false)
      (he : s.machine.ending? = none) : Moment o w s (s.stepped.tick o w)

/-- A session whose machine has a tape does nothing else. -/
theorem moment_advance (ht : s.machine.tape = some t) (hp : s.progress = progressOf s.machine) :
    Moment o w s (s.advance o w) := by
  unfold Session.advance
  cases hnone : s.ending with
  | some e => exact .ended (by rw [hnone]; rfl)
  | none =>
    by_cases hh : s.machine.isHalted
    · rw [progressOf, if_pos hh] at hp
      rw [hp]
      exact .halted hnone hh
    rw [progressOf, if_neg hh] at hp
    rw [hp]
    dsimp only
    split
    · next hl => exact .misuse hnone hl
    · next hl => exact .early hnone hh hl
    · next hl =>
      by_cases hi : w.interrupts s.machine.stepCount
      · rw [if_pos hi]
        exact .interrupted hnone hh hi
      rw [if_neg hi, Session.stepOnce]
      rcases Machine.step_cases ht with ⟨hh', -⟩ | ⟨-, he, hs⟩ | ⟨-, f, events, hf, he, hs⟩ |
        ⟨-, he, _, a, c, d, events, -, -, -, -, hs⟩
      · exact absurd hh' hh
      · have hfault : s.machine.stuckFault = .unmapped s.machine.state (Symbol.value t.read) := by
          rw [Machine.stuckFault, ht]
        rw [hfault] at he
        rw [hs]
        dsimp only
        rw [hfault]
        exact .stuck hnone hh hl he
      · rw [hs]
        exact .fault hnone hh hl he hf
      · have hgo : Moment o w s (s.stepped.tick o w) := .goesOn hnone hh hl he
        rw [stepped, hs] at hgo
        rw [hs]
        by_cases hn : (s.machine.moved t a.nextState c d).isHalted
        · rw [progressOf, if_pos hn] at hgo
          rw [if_pos hn]
          exact hgo
        · rw [progressOf, if_neg hn] at hgo
          rw [if_neg hn]
          exact hgo

theorem OnPath.redraw [LawfulSymbol σ] (h : s.OnPath m k) (ht : s.machine.tape = some t) :
    (s.redraw o).OnPath m k := by
  obtain ⟨events, he⟩ := exists_redraw_eq (o := o) ht
  rw [he]
  exact h.congr rfl rfl rfl

theorem OnPath.remark (h : s.OnPath m k) (text : String) : (s.remark o text).OnPath m k := by
  obtain ⟨events, he⟩ := exists_remark_eq (o := o) s text
  rw [he]
  exact h.congr rfl rfl rfl

theorem OnPath.tick [LawfulSymbol σ] (h : s.OnPath m k) (ht : s.machine.tape = some t) :
    (s.tick o w).OnPath m k := by
  have h' : OnPath { s with readings := s.readings + 1 } m k := h.congr rfl rfl rfl
  rw [Session.tick]
  dsimp only
  split
  · exact h'.finish .misuse
  · split_ifs
    · exact (h'.redraw ht).congr rfl rfl rfl
    · exact h'

/-- **A moment of a live display** leaves its machine where it is, or takes it one step further
along the path. -/
theorem OnPath.advance [LawfulSymbol σ] (h : s.OnPath m k) (ht : m.tape = some t) :
    (s.advance o w).OnPath m k ∨
      ((m.afterSteps k).ending? = none ∧ (s.advance o w).OnPath m (k + 1)) := by
  obtain ⟨t', ht'⟩ := Machine.exists_tape_afterSteps ht k
  rw [← h.machine] at ht'
  have hmoment := moment_advance (o := o) (w := w) ht' (h.machine ▸ h.progress)
  generalize s.advance o w = s' at hmoment ⊢
  cases hmoment with
  | ended => exact .inl h
  | halted _ hh =>
    exact .inl ((h.remark _).finish (.halted (Machine.ending?_eq_ok_iff.2 (h.machine ▸ hh))))
  | misuse => exact .inl (h.finish .misuse)
  | early _ hh => exact .inl ((h.remark _).finish (.stopped (h.machine ▸ hh)))
  | interrupted _ hh =>
    exact .inl (((h.redraw ht').remark _).finish (.stopped (h.machine ▸ hh)))
  | stuck _ _ _ he => exact .inl ((h.redraw ht').finish (.fault (h.machine ▸ he)))
  | fault _ _ _ he => exact .inl (h.finish (.fault (h.machine ▸ he)))
  | goesOn hnone _ _ he =>
    right
    obtain ⟨t'', ht''⟩ := Machine.exists_tape_afterSteps ht (k + 1)
    have hmachine : s.stepped.machine = m.afterSteps (k + 1) := by
      rw [Machine.afterSteps_succ, ← h.machine]
      rfl
    have hnext : s.stepped.OnPath m (k + 1) := by
      refine ⟨hmachine, Machine.goesOn_succ_iff.2 ⟨h.goesOn, h.machine ▸ he⟩,
        congrArg progressOf hmachine, fun e hsome => ?_⟩
      rw [show s.stepped.ending = none from hnone] at hsome
      contradiction
    exact ⟨h.machine ▸ he, hnext.tick (hmachine ▸ ht'')⟩

theorem advance_of_ending (h : s.ending.isSome) : s.advance o w = s := by
  obtain ⟨e, he⟩ := Option.isSome_iff_exists.1 h
  rw [advance, he]

theorem drive_of_ending (h : s.ending.isSome) (n : Nat) : s.drive o w n = s := by
  cases n <;> simp [drive, h]

theorem drive_succ (n : Nat) (s : Session σ) :
    s.drive o w (n + 1) = (s.advance o w).drive o w n := by
  by_cases h : s.ending.isSome
  · rw [advance_of_ending h, drive_of_ending h, drive_of_ending h]
  · simp [drive, h]

theorem advance_drive (n : Nat) (s : Session σ) :
    (s.drive o w n).advance o w = s.drive o w (n + 1) := by
  induction n generalizing s with
  | zero => exact (drive_succ 0 s).symm
  | succ n ih => rw [drive_succ, ih, ← drive_succ]

/-- A live display begins where its machine is. -/
theorem onPath_begin [LawfulSymbol σ] (ht : m.tape = some t) (hk : m.GoesOn k) :
    (begin o w (m.afterSteps k)).OnPath m k := by
  obtain ⟨t', ht'⟩ := Machine.exists_tape_afterSteps ht k
  refine OnPath.redraw ?_ ht'
  exact ⟨rfl, hk, rfl, nofun⟩

end Session

theorem run_succ [Symbol σ] (o : Options) (w : Surroundings) (m : Machine σ) (n : Nat) :
    run o w m (n + 1) = (run o w m n).advance o w := (Session.advance_drive n _).symm

end TapeMachine.Live
