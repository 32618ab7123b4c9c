import Mathlib.Data.List.Forall2
import TapeMachine.Machine.Run
import TapeMachine.Proofs.Machine.Unbounded
import TapeMachine.Proofs.Tape.Links

/-!
# Runs are textbook runs

A configuration depicts a machine with an unbounded tape after a number of steps
(`Configuration.Depicts`) if it has its state, the head at its position, its symbols in
the live cells, and if the tape is blank everywhere else.

`Run.Underway` is what holds of a run that has not ended after `k` moments: it has
emitted the first `k` configurations of the unbounded machine and is at the next one.
One more moment ends the run or goes on (`Underway.advance_of_halted` and its kin), and as
long as nothing ends it the run is under way (`Underway.drive`).  `run_eq_textbook` puts
the moments together: how a run ends, and what it has emitted by then.
-/

namespace TapeMachine

/-- **A configuration depicts an unbounded machine** after so many steps. -/
structure Configuration.Depicts (c : Configuration) (i : UnboundedMachine) (steps : Nat) :
    Prop where
  state : c.state = i.state
  step : c.step = steps
  headPosition : c.headPosition = i.tape.head
  head_nonneg : 0 ≤ c.head
  head_lt : c.head < c.cells.length
  cells : c.cells
    = (List.range c.cells.length).map fun k : Nat => i.tape.symbol (c.firstPosition + k)
  blank : ∀ p, p < c.firstPosition ∨ c.firstPosition + c.cells.length ≤ p →
    i.tape.symbol p = blank

namespace Machine

variable {m : Machine} {i : UnboundedMachine}

theorem depicts_snapshot {t : Tape} {f : Int → Nat} (hstate : m.state = i.state)
    (h : t.Shows f i.tape) : (m.snapshot t).Depicts i m.stepCount := by
  have hlength : t.symbols.length = t.length := by simp [h.symbols_eq]
  have hl := h.length_eq
  have hidx := h.headIndex_eq
  have h₁ := h.first_le
  have h₂ := h.le_last
  exact
    { state := hstate
      step := rfl
      headPosition := (h.headPosition_snapshot m).trans h.position_eq
      head_nonneg := Int.natCast_nonneg _
      head_lt := by
        show (t.headIndex : Int) < t.symbols.length
        omega
      cells := by
        show t.symbols = (List.range t.symbols.length).map _
        rw [hlength, h.symbols_eq, Tape.positions, List.map_map]
        rfl
      blank := by
        intro p (hp : p < t.firstPosition ∨ t.firstPosition + (t.symbols.length : Int) ≤ p)
        refine h.blank p fun hmem => ?_
        rw [Tape.mem_live] at hmem
        omega }

namespace Run

/-- A run has emitted the configurations of an unbounded machine at the first `k` moments, each
once and in order. -/
def Emitted (r : Run) (i : UnboundedMachine) (k : Nat) : Prop :=
  List.Forall₂ (fun c j => c.Depicts (i.after j) j) r.configurations (List.range k)

theorem Emitted.cons {r : Run} {k : Nat} (h : r.Emitted i k) {c : Configuration}
    (hc : c.Depicts (i.after k) k) : Emitted { r with emitted := c :: r.emitted } i (k + 1) := by
  rw [Emitted, configurations, List.reverse_cons, List.range_succ]
  exact List.rel_append h (.cons hc .nil)

theorem Emitted.length_eq {r : Run} {k : Nat} (h : r.Emitted i k) :
    r.configurations.length = k := by
  simpa using List.Forall₂.length_eq h

theorem Emitted.depicts {r : Run} {k t : Nat} (h : r.Emitted i k) {c : Configuration}
    (hc : r.configurations[t]? = some c) : c.Depicts (i.after t) t := by
  obtain ⟨ht, rfl⟩ := List.getElem?_eq_some_iff.1 hc
  have hk : t < (List.range k).length := by rwa [← List.Forall₂.length_eq h]
  simpa using (List.forall₂_iff_get.1 h).2 t ht hk

/-- Whether a limit allows one more step after so many. -/
def Allows (limit : Option Int) (steps : Nat) : Prop := ∀ n, limit = some n → (steps : Int) < n

theorem limitReached_of_allows {limit : Option Int} {k : Nat} (h : Allows limit k) :
    limitReached (limitValue limit) k = .ok false := by
  cases limit with
  | none => rfl
  | some n =>
    have := h n rfl
    rw [limitReached_some, decide_eq_false (by omega)]

theorem limitReached_of_le {n : Int} {k : Nat} (h : n ≤ k) :
    limitReached (limitValue (some n)) k = .ok true := by
  rw [limitReached_some, decide_eq_true h]

theorem allows_of_lt {limit : Option Int} {j k : Nat}
    (h : ∀ n, limit = some n → (k : Int) ≤ max n 0) (hj : j < k) : Allows limit j := by
  intro n hn
  have := h n hn
  omega

theorem drive_add (j k : Nat) (r : Run) : drive (j + k) r = drive k (drive j r) := by
  induction j generalizing r with
  | zero => rw [Nat.zero_add]; rfl
  | succ j ih => rw [Nat.add_right_comm, drive_succ, ih, drive_succ]

/-- A run that ends in a moment stays as it is after it. -/
theorem drive_of_lt {r : Run} {k moments : Nat} (h : (drive k r).advance.ending.isSome)
    (hk : k < moments) : drive moments r = (drive k r).advance := by
  obtain ⟨j, rfl⟩ := Nat.exists_eq_add_of_lt hk
  rw [Nat.add_assoc, drive_add, drive_succ, drive_of_ending h]

theorem halt_of_unheard {r : Run} (h : r.heard = false) (c : Configuration) :
    r.halt c = { r with
      events := .halted r.machine.state r.machine.stepCount :: r.events
      ending := some (.ok c) } := by
  rw [halt, reportFault?, h]
  rfl

/-- A moment emits the present configuration before anything else. -/
theorem advance_of_configuration {r : Run} {c : Configuration} (hnone : r.ending = none)
    (hc : r.machine.configuration = .ok c) :
    r.advance = proceed { r with emitted := c :: r.emitted } c := by
  rw [advance, hnone]
  simp only [hc, emitFault?_char]

/-- Where a run has halted is the last configuration that it emitted. -/
def HaltsAtLast (r : Run) : Prop :=
  ∀ c, r.ending = some (.ok c) → r.configurations.getLast? = some c

theorem haltsAtLast_ofStart (o : Outcome Unit) (limit : Value) (traced heard : Bool) :
    (ofStart o limit traced heard).HaltsAtLast := by
  intro c h
  rw [ofStart] at h
  dsimp only at h
  split at h <;> cases h

theorem HaltsAtLast.halt {r : Run} {c : Configuration}
    (hlast : r.configurations.getLast? = some c) :
    (r.halt c).HaltsAtLast := by
  intro d h
  rw [Run.halt] at h ⊢
  split at h
  · cases h
  · obtain rfl : c = d := by simpa using h
    exact hlast

theorem HaltsAtLast.proceed {r : Run} {c : Configuration}
    (hlast : r.configurations.getLast? = some c) : (r.proceed c).HaltsAtLast := by
  rw [Run.proceed]
  split_ifs with hh
  · exact .halt hlast
  · intro d h
    split at h
    · cases h
    · cases h
    · dsimp only at h
      split at h <;> cases h

theorem HaltsAtLast.advance {r : Run} (h : r.HaltsAtLast) : r.advance.HaltsAtLast := by
  cases he : r.ending with
  | some e => rwa [advance_of_ending (by rw [he]; rfl)]
  | none =>
    cases hc : r.machine.configuration with
    | error f =>
      rw [Run.advance, he]
      simp only [hc]
      intro d hd
      cases hd
    | ok c =>
      rw [advance_of_configuration he hc]
      exact .proceed (by simp [configurations])

/-- **A run that halts has emitted where it halts.** -/
theorem HaltsAtLast.drive {r : Run} (h : r.HaltsAtLast) (moments : Nat) :
    (r.drive moments).HaltsAtLast := by
  induction moments generalizing r with
  | zero => exact h
  | succ moments ih =>
    rw [drive_succ]
    exact ih h.advance

/-- **A run that has not ended** after `k` moments. -/
structure Underway (r : Run) (i : UnboundedMachine) (limit : Option Int) (k : Nat) : Prop where
  ending : r.ending = none
  heard : r.heard = false
  limit : r.limit = limitValue limit
  stepCount : r.machine.stepCount = k
  follows : r.machine.Follows (i.after k)
  emitted : r.Emitted i k

namespace Underway

variable {r : Run} {limit : Option Int} {k : Nat}

theorem advance_eq (h : r.Underway i limit k) : ∃ c : Configuration, c.Depicts (i.after k) k ∧
    r.advance = proceed { r with emitted := c :: r.emitted } c := by
  obtain ⟨t, f, ht, hs⟩ := h.follows.tape
  have hc : r.machine.configuration = .ok (r.machine.snapshot t) := by rw [configuration, ht]
  have hd := depicts_snapshot h.follows.state hs
  rw [h.stepCount] at hd
  exact ⟨r.machine.snapshot t, hd, advance_of_configuration h.ending hc⟩

theorem advance_of_halted (h : r.Underway i limit k) (hh : (i.after k).isHalted) :
    ∃ c : Configuration, c.Depicts (i.after k) k ∧ r.advance.ending = some (.ok c) ∧
      r.advance.configurations.getLast? = some c ∧ r.advance.Emitted i (k + 1) := by
  obtain ⟨c, hc, he⟩ := h.advance_eq
  have hhalt : r.machine.isHalted = true := h.follows.isHalted_eq.trans hh
  have ha : r.advance = { r with
      emitted := c :: r.emitted
      events := .halted r.machine.state r.machine.stepCount :: r.events
      ending := some (.ok c) } := by
    rw [he, proceed, if_pos hhalt]
    exact halt_of_unheard (r := { r with emitted := c :: r.emitted }) h.heard c
  rw [ha]
  exact ⟨c, hc, rfl, by simp [configurations], h.emitted.cons hc⟩

theorem advance_of_limit (h : r.Underway i limit k) (hh : ¬ (i.after k).isHalted) {n : Int}
    (hn : limit = some n) (hle : n ≤ k) :
    r.advance.ending = some (.error (.stepLimit (.int n))) ∧ r.advance.machine.stepCount = k ∧
      r.advance.Emitted i (k + 1) := by
  obtain ⟨c, hc, he⟩ := h.advance_eq
  have hhalt : ¬ r.machine.isHalted := by rwa [h.follows.isHalted_eq]
  have ha : r.advance = { r with
      emitted := c :: r.emitted
      ending := some (.error (.stepLimit (.int n))) } := by
    rw [he, proceed, if_neg hhalt]
    simp only [h.limit, h.stepCount, hn, limitReached_of_le hle]
    rfl
  rw [ha]
  exact ⟨rfl, h.stepCount, h.emitted.cons hc⟩

theorem advance_of_stuck (h : r.Underway i limit k) (hi : i.Sound) (hh : ¬ (i.after k).isHalted)
    (hl : Allows limit k) (hs : (i.after k).action? = none) :
    r.advance.ending
        = some (.error (.unmapped (i.after k).state (.ofSymbol (i.after k).tape.read))) ∧
      r.advance.Emitted i (k + 1) := by
  obtain ⟨c, hc, he⟩ := h.advance_eq
  obtain ⟨t, f, ht, hshows⟩ := h.follows.tape
  have hhalt : ¬ r.machine.isHalted := by rwa [h.follows.isHalted_eq]
  have hfault : r.machine.stuckFault
      = .unmapped (i.after k).state (.ofSymbol (i.after k).tape.read) := by
    rw [stuckFault, ht, h.follows.state, ← hshows.read_eq]
    rfl
  have ha : r.advance = { r with
      emitted := c :: r.emitted
      ending := some (.error r.machine.stuckFault) } := by
    rw [he, proceed, if_neg hhalt]
    simp only [h.limit, h.stepCount, limitReached_of_allows hl, h.heard, stepTo_false,
      h.follows.step_of_stuck (hi.after k) hh hs]
    rfl
  rw [ha]
  exact ⟨by rw [hfault], h.emitted.cons hc⟩

theorem advance_of_running (h : r.Underway i limit k) (hi : i.Sound)
    (hr : ¬ (i.after k).Stopped) (hl : Allows limit k) : r.advance.Underway i limit (k + 1) := by
  obtain ⟨c, hc, he⟩ := h.advance_eq
  obtain ⟨hresult, hfollows, hcount⟩ := h.follows.step_of_running (hi.after k) hr
  have hhalt : ¬ r.machine.isHalted := by
    rw [h.follows.isHalted_eq]
    exact (not_or.1 hr).1
  have ha : r.advance = { r with
      machine := r.machine.step.machine
      emitted := c :: r.emitted
      events := r.machine.step.events.reverse ++ r.events
      ending := none } := by
    rw [he, proceed, if_neg hhalt]
    simp only [h.limit, h.stepCount, limitReached_of_allows hl, h.heard, stepTo_false, hresult]
    by_cases hp : (i.after k).step.isHalted <;> simp [hp]
  rw [ha]
  exact ⟨rfl, h.heard, h.limit, hcount.trans (congrArg (· + 1) h.stepCount),
    UnboundedMachine.after_succ i k ▸ hfollows, h.emitted.cons hc⟩

/-- A moment leaves a run under way or ends it; the configuration is emitted in any case. -/
theorem advance_cases (h : r.Underway i limit k) (hi : i.Sound) :
    r.advance.Underway i limit (k + 1) ∨
      r.advance.ending.isSome ∧ r.advance.Emitted i (k + 1) := by
  by_cases hh : (i.after k).isHalted
  · obtain ⟨c, -, hend, -, hemit⟩ := h.advance_of_halted hh
    exact .inr ⟨by rw [hend]; rfl, hemit⟩
  by_cases hl : Allows limit k
  · by_cases ha : (i.after k).action? = none
    · obtain ⟨hend, hemit⟩ := h.advance_of_stuck hi hh hl ha
      exact .inr ⟨by rw [hend]; rfl, hemit⟩
    · exact .inl (h.advance_of_running hi (not_or.2 ⟨hh, ha⟩) hl)
  · simp only [Allows, not_forall] at hl
    obtain ⟨n, hn, hle⟩ := hl
    obtain ⟨hend, -, hemit⟩ := h.advance_of_limit hh hn (by omega)
    exact .inr ⟨by rw [hend]; rfl, hemit⟩

/-- **What a run emits** in any number of moments are the first configurations of the unbounded
machine. -/
theorem exists_emitted (h : r.Underway i limit 0) (hi : i.Sound) (moments : Nat) :
    (Run.drive moments r).Underway i limit moments ∨
      ∃ k < moments, (Run.drive moments r).ending.isSome ∧
        (Run.drive moments r).Emitted i (k + 1) := by
  induction moments with
  | zero => exact .inl h
  | succ n ih =>
    rw [drive_add n 1, drive_succ]
    show (Run.drive n r).advance.Underway i limit (n + 1) ∨
      ∃ k < n + 1, (Run.drive n r).advance.ending.isSome ∧ (Run.drive n r).advance.Emitted i (k + 1)
    rcases ih with ih | ⟨k, hk, hend, hemit⟩
    · rcases ih.advance_cases hi with ha | ha
      · exact .inl ha
      · exact .inr ⟨n, by omega, ha⟩
    · rw [advance_of_ending hend]
      exact .inr ⟨k, by omega, hend, hemit⟩

/-- **A run is under way as long as nothing ends it.** -/
theorem drive (h : r.Underway i limit 0) (hi : i.Sound) (hr : ∀ j < k, ¬ (i.after j).Stopped)
    (hl : ∀ n, limit = some n → (k : Int) ≤ max n 0) : (drive k r).Underway i limit k := by
  induction k with
  | zero => exact h
  | succ k ih =>
    have hk := ih (fun j hj => hr j (by omega)) fun n hn => by have := hl n hn; omega
    rw [drive_add, drive_succ]
    exact hk.advance_of_running hi (hr k (by omega)) (allows_of_lt hl (by omega))

end Underway

theorem underway_ofStart (startState endState : Value) (table : Table Situation Action)
    (word : String) (limit : Option Int) (traced : Bool) :
    Underway
      (ofStart ((new startState endState table).start word) (limitValue limit) traced false)
      (.new startState endState table word.toList) limit 0 := by
  rw [start_of_fresh rfl]
  exact
    { ending := rfl
      heard := rfl
      limit := rfl
      stepCount := rfl
      follows := ⟨rfl, rfl, rfl, _, _, rfl, Tape.shows_ofWord word.toList⟩
      emitted := .nil }

end Run

/-- **A run is a textbook run.**  A machine that halts or is stuck within its limit emits every
configuration up to there, and returns the last one or reports its state and symbol; it is stuck
only if the limit allows one more step.  Any other run with a limit emits the configurations up to
the limit and reports that, and one without a limit goes on for ever. -/
theorem run_eq_textbook (startState endState : Value) (table : Table Situation Action)
    (hstart : startState.IsKey) (htable : ∀ e ∈ table, e.2.IsValid) (word : String)
    (limit : Option Int) (traced : Bool) :
    let i := UnboundedMachine.new startState endState table word.toList
    let r := fun moments => Run.drive moments
      (.ofStart ((new startState endState table).start word) (limitValue limit) traced false)
    (∀ k, i.StopsAt k → (i.after k).isHalted → (∀ n, limit = some n → (k : Int) ≤ max n 0) →
      ∀ moments > k, (r moments).Emitted i (k + 1) ∧
        ∃ c : Configuration, c.Depicts (i.after k) k ∧ (r moments).ending = some (.ok c) ∧
          (r moments).configurations.getLast? = some c) ∧
    (∀ k, i.StopsAt k → ¬ (i.after k).isHalted → (∀ n, limit = some n → (k : Int) < max n 0) →
      ∀ moments > k, (r moments).Emitted i (k + 1) ∧
        (r moments).ending
          = some (.error (.unmapped (i.after k).state (.ofSymbol (i.after k).tape.read)))) ∧
    (∀ n, limit = some n → (∀ k, i.StopsAt k → (i.after k).isHalted → max n 0 < k) →
      (∀ k, i.StopsAt k → ¬ (i.after k).isHalted → max n 0 ≤ k) →
      ∀ moments > (max n 0).toNat, (r moments).Emitted i ((max n 0).toNat + 1) ∧
        (r moments).ending = some (.error (.stepLimit (.int n))) ∧
        (r moments).machine.stepCount = (max n 0).toNat) ∧
    (limit = none → (∀ k, ¬ i.StopsAt k) →
      ∀ moments, (r moments).Emitted i moments ∧ (r moments).ending = none) := by
  intro i r
  have h₀ := Run.underway_ofStart startState endState table word limit traced
  have hi : i.Sound := ⟨hstart, htable⟩
  refine ⟨fun k hk hh hl moments hm => ?_, fun k hk hh hl moments hm => ?_,
    fun n hn hhalt hstuck moments hm => ?_, fun hn hgo moments => ?_⟩
  · -- It halts.
    have hu := h₀.drive hi hk.2 hl
    obtain ⟨c, hc, hend, hlast, hemit⟩ := hu.advance_of_halted hh
    have hr : r moments = _ := Run.drive_of_lt (by rw [hend]; rfl) hm
    rw [hr]
    exact ⟨hemit, c, hc, hend, hlast⟩
  · -- It is stuck.
    have hu := h₀.drive hi hk.2 fun n hn => (hl n hn).le
    have hnone : (i.after k).action? = none := hk.1.resolve_left hh
    obtain ⟨hend, hemit⟩ := hu.advance_of_stuck hi hh
      (fun n hn => by have := hl n hn; omega) hnone
    have hr : r moments = _ := Run.drive_of_lt (by rw [hend]; rfl) hm
    rw [hr]
    exact ⟨hemit, hend⟩
  · -- It meets the limit first, being neither stopped before nor halted there.
    obtain ⟨k, hk⟩ : ∃ k : Nat, max n 0 = k := ⟨(max n 0).toNat, by omega⟩
    simp only [hk, Int.toNat_natCast] at hm ⊢
    rw [hk] at hhalt hstuck
    have hgo : ∀ j < k, ¬ (i.after j).Stopped := by
      intro j
      refine UnboundedMachine.not_stopped_of_lt fun l hl hstop => ?_
      by_cases hh : (i.after l).isHalted
      · have := hhalt l hstop hh
        omega
      · have := hstuck l hstop hh
        omega
    have hh : ¬ (i.after k).isHalted := by
      intro hh
      have := hhalt k ⟨.inl hh, hgo⟩ hh
      omega
    have hu := h₀.drive (k := k) hi hgo fun n' hn' => by
      rw [hn, Option.some.injEq] at hn'
      omega
    obtain ⟨hend, hcount, hemit⟩ := hu.advance_of_limit hh hn (by omega)
    have hr : r moments = _ := Run.drive_of_lt (by rw [hend]; rfl) hm
    rw [hr]
    exact ⟨hemit, hend, hcount⟩
  · -- Nothing ends it.
    have hu := h₀.drive (k := moments) hi
      (fun j => UnboundedMachine.not_stopped_of_lt fun l _ => hgo l) (by simp [hn])
    exact ⟨hu.emitted, hu.ending⟩

/-- Two steps with a limit of two: the machine halts just in time. -/
theorem run_eq_textbook_at_limit :
    let table : Table Situation Action :=
      [(⟨.int 0, .ofSymbol 'a'⟩, ⟨.int 0, .ofSymbol 'b', .int 1⟩),
        (⟨.int 0, .ofSymbol 'B'⟩, ⟨.int 1, .ofSymbol 'c', .int (-1)⟩)]
    let i := UnboundedMachine.new (.int 0) (.int 1) table ['a']
    let r := (new (.int 0) (.int 1) table).run "a" (some 2) 3
    (Value.int 0).IsKey ∧ (∀ e ∈ table, e.2.IsValid) ∧ i.StopsAt 2 ∧ (i.after 2).isHalted ∧
      r.Emitted i 3 ∧ ∃ c : Configuration, c.Depicts (i.after 2) 2 ∧ r.ending = some (.ok c) := by
  intro table i r
  have htable : ∀ e ∈ table, e.2.IsValid := by
    intro e he
    simp only [table, List.mem_cons, List.not_mem_nil, or_false] at he
    rcases he with rfl | rfl
    · exact ⟨by decide, rfl⟩
    · exact ⟨by decide, rfl⟩
  have hhalt : (i.after 2).isHalted := by decide
  have hstop : i.StopsAt 2 := by
    refine ⟨.inl hhalt, fun j hj => ?_⟩
    rcases (show j = 0 ∨ j = 1 by omega) with rfl | rfl
    · exact not_or.2 ⟨by decide, by decide⟩
    · exact not_or.2 ⟨by decide, by decide⟩
  obtain ⟨hemit, c, hc, hend, -⟩ :=
    (run_eq_textbook (.int 0) (.int 1) table rfl htable "a" (some 2) true).1 2 hstop hhalt
      (by simp) 3 (by decide)
  exact ⟨rfl, htable, hstop, hhalt, hemit, c, hc, hend⟩

end Machine

end TapeMachine
