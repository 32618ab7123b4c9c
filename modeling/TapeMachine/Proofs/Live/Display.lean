import TapeMachine.Proofs.Live.Session

/-!
# What a live display shows

A display shows the machine that it is given before anything else, and later on those machines on
the path for which it is time, the one that has halted among them.  `Session.Shows` says this of a
session under way, by the numbers of steps after which the machines shown come.

A session ends at a machine for one of the reasons in `Session.Exit`, and each of them decides for
itself whether the machine is shown once more.  `last_frame` draws the conclusion: a display that
ends because its machine has halted or is stuck shows the machine as it is, and so does one that
the user interrupts.  One that has made as many steps as it may does not look at the clock again:
it leaves what it has shown last, which is an earlier machine if it was not yet time for another
(`early_stop_leaves_stale_frame`).
-/

namespace TapeMachine

namespace Machine

variable {m : Machine} {limit : Option Int}

/-- **How it is that a machine is stepped no further**: it has halted, it has made as many steps as
it may, or no step leads on.  They are looked at in this order. -/
def stopping? (limit : Option Int) (m : Machine) : Option (Except Fault Progress) :=
  if m.isHalted then some (.ok .halted)
  else if limit.any fun n => n ≤ (m.stepCount : Int) then some (.ok .running)
  else match m.ending? with
    | some (.error f) => some (.error f)
    | _ => none

theorem isHalted_of_stopping? (h : m.stopping? limit = some (.ok .halted)) : m.isHalted := by
  unfold stopping? at h
  by_contra hh
  rw [if_neg hh] at h
  split at h
  · simp at h
  · split at h <;> simp at h

theorem stopping?_of_running (hh : ¬ m.isHalted)
    (hl : (limit.any fun n => n ≤ (m.stepCount : Int)) = false) :
    m.stopping? limit = match m.ending? with
      | some (.error f) => some (.error f)
      | _ => none := by
  unfold stopping?
  rw [if_neg hh, hl]
  rfl

end Machine

namespace Live

variable {o : Options} {w : Surroundings} {s s' : Session} {m : Machine} {t : Tape} {k : Nat}
  {js : List Nat} {limit : Option Int}

/-- **A display is set up** with numbers: those of steps and of seconds that it is given, and what
the clock shows, which are doubles. -/
structure SetUp (o : Options) (w : Surroundings) (limit : Option Int) : Prop where
  earlyStop : o.earlyStop = Machine.limitValue limit
  interval : ∃ a, o.interval.amount? = some a
  clock : ∀ i, ∃ x, w.clock i = .double x

/-- The text that an event displays, if it is one that does. -/
def Event.displayed? : Event → Option String
  | .display text => some text
  | _ => none

namespace Session

/-! ### Lines -/

/-- The lines that were displayed, in order. -/
def displayed (s : Session) : List String := s.shown.filterMap Event.displayed?

/-- A session has displayed the configurations of a machine after so many steps each. -/
def HasShown (s : Session) (m : Machine) (js : List Nat) : Prop :=
  s.displayed.map .ok = js.map fun j => (m.afterSteps j).configuration.map Configuration.line

theorem displayed_emit (s : Session) (e : Event) :
    (s.emit e).displayed = s.displayed ++ e.displayed?.toList := by
  unfold displayed shown emit
  rw [List.reverse_cons, List.filterMap_append]
  cases h : e.displayed? <;> simp [h]

theorem displayed_remark (o : Options) (text : String) (s : Session) :
    (s.remark o text).displayed = s.displayed := by
  unfold remark
  split
  · rw [displayed_emit]
    exact List.append_nil _
  · rfl

theorem displayed_redraw (ht : s.machine.tape = some t) :
    (s.redraw o).displayed = s.displayed ++ [(s.machine.snapshot t).line] := by
  have hline (s' : Session) (n : Nat) (h : s'.displayed = s.displayed) :
      ({ s'.emit (.display (s.machine.snapshot t).line) with frames := n } : Session).displayed
        = s.displayed ++ [(s.machine.snapshot t).line] := by
    rw [← h]
    exact displayed_emit s' _
  have hclear : (s.emit .clear).displayed = s.displayed := by
    rw [displayed_emit]
    exact List.append_nil _
  have hprint (text : String) : ((s.emit .clear).emit (.print text)).displayed = s.displayed := by
    rw [displayed_emit, hclear]
    exact List.append_nil _
  unfold redraw
  simp only [emit, ht, Configuration.line_loose]
  cases o.showStats
  · exact hline _ _ hclear
  · exact hline _ _ (hprint _)

theorem HasShown.redraw (h : s.HasShown m js) (hm : s.machine = m.afterSteps k)
    (ht : s.machine.tape = some t) : (s.redraw o).HasShown m (js ++ [k]) := by
  have hline : (m.afterSteps k).configuration.map Configuration.line
      = .ok (s.machine.snapshot t).line := by
    rw [← hm, Machine.configuration_of_tape ht]
    rfl
  unfold HasShown at h ⊢
  rw [displayed_redraw ht, List.map_append, List.map_append, h, List.map_singleton,
    List.map_singleton, hline]

/-! ### Sessions under way -/

/-- Whether it is time for a redraw at every reading of the clock. -/
def AlwaysDue (o : Options) (w : Surroundings) : Prop :=
  ∀ (s : Session) (i j : Nat), i ≤ j → s.lastUpdate = w.clock i → s.isDue o (w.clock j) = .ok true

/-- **What a session has shown** when its machine is so many steps along the path of the given
one: that one, then those of the path after the numbers of steps in `later`, and those in `extra`
when its end was near.  If the last of `later` is not the one at hand, that one has not halted, and
the last look at the clock was too early for a redraw. -/
structure Shows (s : Session) (o : Options) (w : Surroundings) (m : Machine) (k : Nat)
    (later extra : List Nat) : Prop where
  machine : s.machine = m.afterSteps k
  progress : s.progress = progressOf (m.afterSteps k)
  lines : s.HasShown m (0 :: later ++ extra)
  inOrder : later.Sublist (List.range' 1 k)
  lastUpdate : ∃ i < s.readings, s.lastUpdate = w.clock i
  current : (0 :: later).getLast? = some k ∨
    ¬ (m.afterSteps k).isHalted ∧ s.isDue o (w.clock (s.readings - 1)) = .ok false
  all : AlwaysDue o w → later = List.range' 1 k

namespace Shows

variable {later extra : List Nat}

theorem remark (h : s.Shows o w m k later extra) (text : String) :
    (s.remark o text).Shows o w m k later extra := by
  have hlines : (s.remark o text).HasShown m (0 :: later ++ extra) := by
    unfold HasShown
    rw [displayed_remark]
    exact h.lines
  obtain ⟨events, he⟩ := exists_remark_eq (o := o) s text
  rw [he] at hlines ⊢
  exact ⟨h.machine, h.progress, hlines, h.inOrder, h.lastUpdate, h.current, h.all⟩

theorem finish (h : s.Shows o w m k later extra) (e : Except Machine.Fault Machine.Progress) :
    (s.finish e).Shows o w m k later extra := by
  unfold Session.finish
  split
  · exact h
  · exact ⟨h.machine, h.progress, h.lines, h.inOrder, h.lastUpdate, h.current, h.all⟩

theorem redraw (h : s.Shows o w m k later extra) (ht : s.machine.tape = some t) :
    (s.redraw o).Shows o w m k later (extra ++ [k]) := by
  have hlines := h.lines.redraw (o := o) h.machine ht
  rw [List.append_assoc] at hlines
  obtain ⟨events, he⟩ := exists_redraw_eq (o := o) ht
  rw [he] at hlines ⊢
  exact ⟨h.machine, h.progress, hlines, h.inOrder, h.lastUpdate, h.current, h.all⟩

end Shows

theorem exists_isDue (hs : SetUp o w limit) (hlast : ∃ i < s.readings, s.lastUpdate = w.clock i)
    (j : Nat) : ∃ due, s.isDue o (w.clock j) = .ok due := by
  obtain ⟨i, -, hi⟩ := hlast
  obtain ⟨x, hx⟩ := hs.clock i
  obtain ⟨y, hy⟩ := hs.clock j
  obtain ⟨a, ha⟩ := hs.interval
  have hminus : (Value.double y).minus (.double x) = .ok (.double (Value.subtract y x)) := rfl
  obtain ⟨b, hb⟩ : ∃ b, (Value.double (Value.subtract y x)).amount? = some b := by
    cases Value.subtract y x <;> exact ⟨_, rfl⟩
  refine ⟨a.le b, ?_⟩
  unfold isDue
  rw [hi, hx, hy, hminus]
  show Value.atLeast _ _ = _
  unfold Value.atLeast
  rw [ha, hb]

/-- A step of the machine is shown if it is time, or if the machine has halted. -/
theorem Shows.tick (hs : SetUp o w limit) {later : List Nat} (h : s.Shows o w m k later [])
    (ht : s.stepped.machine.tape = some t) :
    (s.stepped.tick o w).ending = s.ending ∧
      ∃ later', (s.stepped.tick o w).Shows o w m (k + 1) later' [] := by
  obtain ⟨due, hdue⟩ := exists_isDue hs h.lastUpdate s.readings
  obtain ⟨i, hi, hlast⟩ := h.lastUpdate
  have hrange : List.range' 1 (k + 1) = List.range' 1 k ++ [k + 1] := by
    rw [List.range'_concat, Nat.one_mul, Nat.add_comm 1 k]
  -- The session when the clock has been looked at.
  let s₁ : Session := { s.stepped with readings := s.readings + 1 }
  have hmachine : s₁.machine = m.afterSteps (k + 1) := by
    rw [Machine.afterSteps_succ, ← h.machine]
    rfl
  have hprogress : s₁.progress = .halted ↔ (m.afterSteps (k + 1)).isHalted := by
    rw [← hmachine]
    exact progressOf_eq_halted_iff
  have htick : s.stepped.tick o w = if due ∨ s₁.progress = .halted
      then { s₁.redraw o with lastUpdate := w.clock s.readings } else s₁ := by
    have hdue' : isDue o (w.clock s.stepped.readings)
        { s.stepped with readings := s.stepped.readings + 1 } = .ok due := hdue
    unfold Session.tick
    simp only [hdue']
    rfl
  by_cases hredraw : due ∨ s₁.progress = .halted
  · have hshown : s₁.HasShown m (0 :: later ++ []) := h.lines
    have hlines := hshown.redraw (o := o) hmachine ht
    obtain ⟨events, he⟩ := exists_redraw_eq (o := o) (s := s₁) ht
    rw [List.append_nil] at hlines
    rw [if_pos hredraw, he] at htick
    rw [he] at hlines
    rw [htick]
    refine ⟨rfl, later ++ [k + 1], ?_⟩
    exact
      { machine := hmachine
        progress := congrArg progressOf hmachine
        lines := by
          rw [List.append_nil]
          exact hlines
        inOrder := by
          rw [hrange]
          exact h.inOrder.append (List.Sublist.refl _)
        lastUpdate := ⟨s.readings, Nat.lt_succ_self _, rfl⟩
        current := by
          left
          rw [← List.cons_append, List.getLast?_concat]
        all := by
          intro hall
          rw [h.all hall, hrange] }
  · rw [if_neg hredraw] at htick
    rw [htick]
    obtain ⟨hnot, hh⟩ := not_or.1 hredraw
    obtain rfl : due = false := by simpa using hnot
    refine ⟨rfl, later, ?_⟩
    exact
      { machine := hmachine
        progress := congrArg progressOf hmachine
        lines := h.lines
        inOrder := by
          rw [hrange]
          exact h.inOrder.trans (List.sublist_append_left ..)
        lastUpdate := ⟨i, Nat.lt_succ_of_lt hi, hlast⟩
        current := .inr ⟨mt hprogress.2 hh, hdue⟩
        all := by
          intro hall
          rw [hall s i s.readings (Nat.le_of_lt hi) hlast] at hdue
          contradiction }

/-! ### How a session ends -/

/-- **How a session ends at a machine**, and whether the machine is shown once more because of
that. -/
inductive Exit (w : Surroundings) (limit : Option Int) (m : Machine) :
    Except Machine.Fault Machine.Progress → (again : Bool) → Prop
  | halted (h : m.stopping? limit = some (.ok .halted)) : Exit w limit m (.ok .halted) false
  | early (h : m.stopping? limit = some (.ok .running)) : Exit w limit m (.ok .running) false
  | stuck {state symbol : Value}
      (h : m.stopping? limit = some (.error (.unmapped state symbol))) :
      Exit w limit m (.error (.unmapped state symbol)) true
  | fault {f : Machine.Fault} (h : m.stopping? limit = some (.error f))
      (hf : ∀ state symbol, f ≠ .unmapped state symbol) : Exit w limit m (.error f) false
  | interrupted (h : ¬ m.isHalted) (hi : w.interrupts m.stepCount) :
      Exit w limit m (.ok .running) true

/-- **A session that has ended** at a machine on the path. -/
structure EndedAt (s : Session) (o : Options) (w : Surroundings) (limit : Option Int) (m : Machine)
    (k : Nat) (e : Except Machine.Fault Machine.Progress) (later : List Nat) (again : Bool) :
    Prop where
  ending : s.ending = some e
  exit : Exit w limit (m.afterSteps k) e again
  shows : s.Shows o w m k later (if again then [k] else [])

theorem ending_finish (h : s.ending = none) (e : Except Machine.Fault Machine.Progress) :
    (s.finish e).ending = some e := by
  unfold finish
  rw [h]

theorem ending_remark (o : Options) (text : String) (s : Session) :
    (s.remark o text).ending = s.ending := by
  obtain ⟨events, he⟩ := exists_remark_eq (o := o) s text
  rw [he]

theorem ending_redraw (ht : s.machine.tape = some t) : (s.redraw o).ending = s.ending := by
  obtain ⟨events, he⟩ := exists_redraw_eq (o := o) ht
  rw [he]

theorem stopsEarly_eq (hs : SetUp o w limit) (s : Session) :
    s.stopsEarly o = .ok (limit.any fun n => n ≤ (s.machine.stepCount : Int)) := by
  unfold stopsEarly
  rw [hs.earlyStop]
  cases limit with
  | none => rfl
  | some n =>
    rw [Machine.Run.limitReached_some]
    rfl

/-- **A moment of a session** ends it, or takes it one step along the path. -/
theorem Shows.advance (hs : SetUp o w limit) {later : List Nat} (h : s.Shows o w m k later [])
    (hnone : s.ending = none) (ht : m.tape = some t) :
    (∃ e again, (s.advance o w).EndedAt o w limit m k e later again) ∨
    ((m.afterSteps k).stopping? limit = none ∧ (s.advance o w).ending = none ∧
      ∃ later', (s.advance o w).Shows o w m (k + 1) later' []) := by
  obtain ⟨t', ht'⟩ : ∃ t', s.machine.tape = some t' :=
    h.machine ▸ Machine.exists_tape_afterSteps ht k
  have hredraw := (ending_redraw (o := o) ht').trans hnone
  have hlimit := stopsEarly_eq hs s
  have hmoment := moment_advance (o := o) (w := w) ht' (h.machine ▸ h.progress)
  generalize s.advance o w = s' at hmoment ⊢
  cases hmoment with
  | ended hended =>
    rw [hnone] at hended
    contradiction
  | halted _ hh =>
    left
    refine ⟨_, false, ending_finish ((ending_remark ..).trans hnone) _, ?_, (h.remark _).finish _⟩
    rw [← h.machine]
    exact .halted (if_pos hh)
  | misuse _ hl =>
    rw [hlimit] at hl
    contradiction
  | early _ hh hl =>
    left
    refine ⟨_, false, ending_finish ((ending_remark ..).trans hnone) _, ?_, (h.remark _).finish _⟩
    rw [← h.machine]
    refine .early ?_
    rw [Machine.stopping?, if_neg hh, if_pos (Except.ok.inj (hlimit.symm.trans hl))]
  | interrupted _ hh hi =>
    left
    refine ⟨_, true, ending_finish ((ending_remark ..).trans hredraw) _, ?_,
      ((h.redraw ht').remark _).finish _⟩
    rw [← h.machine]
    exact .interrupted hh hi
  | stuck _ hh hl he =>
    left
    refine ⟨_, true, ending_finish hredraw _, ?_, (h.redraw ht').finish _⟩
    rw [← h.machine]
    refine .stuck ?_
    rw [Machine.stopping?_of_running hh (Except.ok.inj (hlimit.symm.trans hl)), he]
  | fault _ hh hl he hf =>
    left
    refine ⟨_, false, ending_finish hnone _, ?_, h.finish _⟩
    rw [← h.machine]
    refine .fault ?_ hf
    rw [Machine.stopping?_of_running hh (Except.ok.inj (hlimit.symm.trans hl)), he]
  | goesOn _ hh hl he =>
    right
    obtain ⟨t'', ht''⟩ : ∃ t'', s.stepped.machine.tape = some t'' :=
      Machine.exists_tape_afterSteps ht' 1
    obtain ⟨hending, hshows⟩ := h.tick hs ht''
    refine ⟨?_, hending.trans hnone, hshows⟩
    rw [← h.machine, Machine.stopping?_of_running hh (Except.ok.inj (hlimit.symm.trans hl)), he]

theorem shows_begin (ht : m.tape = some t) :
    (begin o w m).ending = none ∧ (begin o w m).Shows o w m 0 [] [] := by
  let s₀ : Session := ⟨m, 1, w.clock 0, if m.isHalted then .halted else .running, [], 0, none⟩
  have hshown : s₀.HasShown m [] := rfl
  have hlines := hshown.redraw (o := o) (k := 0) rfl ht
  obtain ⟨events, he⟩ := exists_redraw_eq (o := o) (s := s₀) ht
  have hbegin : begin o w m = s₀.redraw o := rfl
  rw [hbegin]
  rw [he] at hlines ⊢
  exact ⟨rfl, rfl, rfl, hlines, .slnil, ⟨0, Nat.one_pos, rfl⟩, .inl rfl, fun _ => rfl⟩

end Session

/-- **A display at any moment** is under way, with a step made at each moment, or it has ended where
the machine was to be stepped no further or the user interrupted. -/
theorem run_shows (hs : SetUp o w limit) (ht : m.tape = some t) (moments : Nat) :
    ((∀ j < moments, (m.afterSteps j).stopping? limit = none) ∧ (run o w m moments).ending = none ∧
      ∃ later, (run o w m moments).Shows o w m moments later []) ∨
    ∃ k < moments, (∀ j < k, (m.afterSteps j).stopping? limit = none) ∧
      ∃ e later again, (run o w m moments).EndedAt o w limit m k e later again := by
  induction moments with
  | zero =>
    obtain ⟨hnone, h⟩ := Session.shows_begin (o := o) (w := w) ht
    exact .inl ⟨fun j hj => absurd hj (Nat.not_lt_zero j), hnone, [], h⟩
  | succ n ih =>
    rw [run_succ]
    rcases ih with ⟨hgo, hnone, later, h⟩ | ⟨k, hk, hgo, e, later, again, h⟩
    · rcases h.advance hs hnone ht with ⟨e, again, hend⟩ | ⟨hstop, hnone', later', h'⟩
      · exact .inr ⟨n, Nat.lt_succ_self n, hgo, e, later, again, hend⟩
      · exact .inl ⟨Nat.forall_lt_succ_right.2 ⟨hgo, hstop⟩, hnone', later', h'⟩
    · right
      refine ⟨k, Nat.lt_succ_of_lt hk, hgo, e, later, again, ?_⟩
      rw [Session.advance_of_ending (by rw [h.ending]; rfl)]
      exact h

/-! ### The last frame -/

/-- What a session has displayed last is its machine as it is. -/
def Session.IsCurrent (s : Session) : Prop :=
  ∃ c, s.machine.configuration = .ok c ∧ s.displayed.getLast? = some c.line

theorem Session.HasShown.isCurrent (h : s.HasShown m js) (hm : s.machine = m.afterSteps k)
    (hk : js.getLast? = some k) (ht : m.tape = some t) : s.IsCurrent := by
  obtain ⟨c, hc⟩ := Machine.exists_configuration ht k
  have hlast := congrArg List.getLast? h
  rw [List.getLast?_map, List.getLast?_map, hk, Option.map_some, hc] at hlast
  obtain ⟨line, hline, heq⟩ := Option.map_eq_some_iff.1 hlast
  obtain rfl : line = c.line := Except.ok.inj heq
  exact ⟨c, hm ▸ hc, hline⟩

/-- **The last frame of a display.**  A display that ends because its machine has halted or is stuck
has displayed the machine as it is.  One that goes no further although the machine could has done so
too, unless it has made as many steps as it may and found its last look at the clock too early. -/
theorem last_frame (hs : SetUp o w limit) (ht : m.tape = some t) (moments : Nat) :
    let s := run o w m moments
    (s.ending = some (.ok .halted) → s.IsCurrent) ∧
    (∀ state symbol, s.ending = some (.error (.unmapped state symbol)) → s.IsCurrent) ∧
    (s.ending = some (.ok .running) → s.IsCurrent ∨
      s.machine.stopping? limit = some (.ok .running) ∧
        s.isDue o (w.clock (s.readings - 1)) = .ok false) := by
  intro s
  rcases run_shows hs ht moments with ⟨-, hnone, -⟩ | ⟨k, -, -, e, later, again, h⟩
  · have hnever : ∀ e, s.ending ≠ some e := by
      intro e he
      rw [hnone] at he
      contradiction
    exact ⟨fun he => absurd he (hnever _), fun _ _ he => absurd he (hnever _),
      fun he => absurd he (hnever _)⟩
  -- What was shown last, if the machine was shown when the session ended and if it was not.
  have hagain : again = true → s.IsCurrent := by
    intro ha
    refine h.shows.lines.isCurrent h.shows.machine ?_ ht
    rw [if_pos ha, List.getLast?_concat]
  have honce : again = false → s.IsCurrent ∨
      ¬ (m.afterSteps k).isHalted ∧ s.isDue o (w.clock (s.readings - 1)) = .ok false := by
    intro ha
    rcases h.shows.current with hk | hlate
    · left
      refine h.shows.lines.isCurrent h.shows.machine ?_ ht
      rw [ha, if_neg (by decide), List.append_nil, hk]
    · exact .inr hlate
  have hending : s.ending = some e := h.ending
  rw [hending]
  obtain ⟨-, hexit, hshows⟩ := h
  cases hexit with
  | halted hstop =>
    refine ⟨fun _ => ?_, by simp, by simp⟩
    rcases honce rfl with hcurrent | ⟨hh, -⟩
    · exact hcurrent
    · exact absurd (Machine.isHalted_of_stopping? hstop) hh
  | early hstop =>
    refine ⟨by simp, by simp, fun _ => ?_⟩
    rw [show s.machine = m.afterSteps k from hshows.machine]
    exact (honce rfl).imp_right fun hlate => ⟨hstop, hlate.2⟩
  | stuck hstop => exact ⟨by simp, fun _ _ _ => hagain rfl, by simp⟩
  | fault hstop hf =>
    refine ⟨by simp, fun state symbol he => ?_, by simp⟩
    exact absurd (Except.error.inj (Option.some.inj he)) (hf state symbol)
  | interrupted hh hi => exact ⟨by simp, by simp, fun _ => .inl (hagain rfl)⟩

/-- A clock that stands still, and a user who lets the display run. -/
def standstill : Surroundings := ⟨fun _ => .double (.finite false 0), fun _ => false⟩

/-- A machine with two `a`s before it, which halts at the blank behind them. -/
def walker : Machine :=
  ((Machine.new (.int 0) (.int 1)
    [(⟨.int 0, .ofSymbol 'a'⟩, ⟨.int 0, .ofSymbol 'a', .int 1⟩),
      (⟨.int 0, .ofSymbol 'B'⟩, ⟨.int 1, .ofSymbol 'B', .int 0⟩)] : Machine).start "aa").machine

/-- With a second between two redraws and a clock that stands still, the walker is shown at the
beginning and when it has halted. -/
theorem last_frame_of_walker :
    (run ⟨.null, .int 1, .text "", false⟩ standstill walker 4).ending = some (.ok .halted) ∧
    (run ⟨.null, .int 1, .text "", false⟩ standstill walker 4).displayed
      = ["...B[0]aaB...", "...Baa[1]BB..."] ∧
    (run ⟨.null, .int 1, .text "", false⟩ standstill walker 4).IsCurrent := by
  have hhalted : (run ⟨.null, .int 1, .text "", false⟩ standstill walker 4).ending
      = some (.ok .halted) := by rfl
  have hs : SetUp ⟨.null, .int 1, .text "", false⟩ standstill none :=
    ⟨rfl, ⟨_, rfl⟩, fun _ => ⟨_, rfl⟩⟩
  obtain ⟨t, ht⟩ : ∃ t, walker.tape = some t := ⟨_, rfl⟩
  have hlast := (last_frame hs ht 4).1
  exact ⟨hhalted, by decide +kernel, hlast hhalted⟩

/-- **A display that stops early leaves a stale frame**: it displays the walker at the beginning,
and no more of it when the walker has made the one step that it may. -/
theorem early_stop_leaves_stale_frame :
    SetUp ⟨.int 1, .int 1, .text "", false⟩ standstill (some 1) ∧
    (run ⟨.int 1, .int 1, .text "", false⟩ standstill walker 2).ending = some (.ok .running) ∧
    (run ⟨.int 1, .int 1, .text "", false⟩ standstill walker 2).machine.configuration
      = .ok ⟨.int 0, ['a', 'a'], 1, 0, 1⟩ ∧
    (⟨.int 0, ['a', 'a'], 1, 0, 1⟩ : Configuration).line = "...Ba[0]aB..." ∧
    (run ⟨.int 1, .int 1, .text "", false⟩ standstill walker 2).displayed = ["...B[0]aaB..."] ∧
    ¬ (run ⟨.int 1, .int 1, .text "", false⟩ standstill walker 2).IsCurrent := by
  have hs : SetUp ⟨.int 1, .int 1, .text "", false⟩ standstill (some 1) :=
    ⟨rfl, ⟨_, rfl⟩, fun _ => ⟨_, rfl⟩⟩
  have hc : (run ⟨.int 1, .int 1, .text "", false⟩ standstill walker 2).machine.configuration
      = .ok ⟨.int 0, ['a', 'a'], 1, 0, 1⟩ := by rfl
  have hline : (⟨.int 0, ['a', 'a'], 1, 0, 1⟩ : Configuration).line = "...Ba[0]aB..." := by
    decide +kernel
  have hdisplayed : (run ⟨.int 1, .int 1, .text "", false⟩ standstill walker 2).displayed
      = ["...B[0]aaB..."] := by
    decide +kernel
  refine ⟨hs, by rfl, hc, hline, hdisplayed, ?_⟩
  rintro ⟨c, hc', hlast⟩
  rw [hc] at hc'
  obtain rfl := Except.ok.inj hc'
  rw [hdisplayed, hline] at hlast
  exact absurd (Option.some.inj hlast) (by decide)

end Live

end TapeMachine
