import TapeMachine.Proofs.Machine.Path
import TapeMachine.Proofs.Tape.Placed

/-!
# What an unbounded machine reaches

`i.Reaches k i'` says that an unbounded machine comes to another after so many steps and
does not stop before.  A machine goes along with the unbounded one that it follows
(`Follows.afterSteps`), so if that reaches a word on its tape, the machine shows this
word, as long as it was started on a word without blanks (`Reaches.configuration`), and if it
halts or is stuck there, a run without limit ends with that, at that moment (`Reaches.run_halts`,
`Reaches.run_stuck`).
-/

namespace TapeMachine

namespace UnboundedMachine

variable {i i' i'' : UnboundedMachine} {j k : Nat}

/-- **A machine reaches another** after so many steps, not stopping before. -/
structure Reaches (i : UnboundedMachine) (k : Nat) (i' : UnboundedMachine) : Prop where
  after : i.after k = i'
  goesOn : ∀ j < k, ¬ (i.after j).Stopped

namespace Reaches

theorem refl (i : UnboundedMachine) : i.Reaches 0 i :=
  ⟨rfl, fun _ hj => absurd hj (Nat.not_lt_zero _)⟩

theorem trans (h : i.Reaches j i') (h' : i'.Reaches k i'') : i.Reaches (j + k) i'' := by
  have hadd : ∀ l, i.after (j + l) = i'.after l := by
    intro l
    rw [← h.after, UnboundedMachine.after, Nat.add_comm, Function.iterate_add_apply]
    rfl
  refine ⟨(hadd k).trans h'.after, fun l hl => ?_⟩
  rcases Nat.lt_or_ge l j with hlt | hle
  · exact h.goesOn l hlt
  · obtain ⟨n, rfl⟩ := Nat.exists_eq_add_of_le hle
    rw [hadd]
    exact h'.goesOn n (by omega)

/-- A machine reaches what an action leads to. -/
theorem of_action (hh : ¬ i.isHalted) {a : Action} (ha : i.action? = some a) {c : Char}
    {d : Direction} (he : a.effect? = some (c, d)) :
    i.Reaches 1 { i with state := a.nextState, tape := (i.tape.write c).move d } := by
  refine ⟨?_, fun j hj => ?_⟩
  · show i.step = _
    rw [UnboundedMachine.step, if_neg hh, ha]
    simp only [Option.map_some, Option.getD_some, take, he]
  · obtain rfl : j = 0 := by omega
    exact not_or.2 ⟨hh, by simp [UnboundedMachine.after, ha]⟩

end Reaches

end UnboundedMachine

namespace Machine

variable {m : Machine} {i i' : UnboundedMachine} {k : Nat}

/-- Where an unbounded machine goes on, the one that follows it does. -/
theorem Follows.ending?_eq_none (h : m.Follows i) (hi : i.Sound) (hr : ¬ i.Stopped) :
    m.ending? = none := by
  have hh : ¬ m.isHalted := by
    rw [h.isHalted_eq]
    exact (not_or.1 hr).1
  rw [ending?, if_neg hh, (h.step_of_running hi hr).1]
  by_cases hn : i.step.isHalted <;> simp [hn]

/-- Where an unbounded machine is stuck, so is the one that follows it, in its state and on its
symbol. -/
theorem Follows.ending?_of_stuck (h : m.Follows i) (hi : i.Sound) (hh : ¬ i.isHalted)
    (ha : i.action? = none) :
    m.ending? = some (.error (.unmapped i.state (.ofSymbol i.tape.read))) := by
  obtain ⟨t, f, ht, hs⟩ := h.tape
  have hfault : m.stuckFault = .unmapped i.state (.ofSymbol i.tape.read) := by
    rw [stuckFault, ht, h.state, ← hs.read_eq]
    rfl
  rw [ending?, if_neg (by rwa [h.isHalted_eq]), h.step_of_stuck hi hh ha, hfault]

/-- **A machine goes along with the unbounded one.** -/
theorem Follows.afterSteps (h : m.Follows i) (hi : i.Sound) (hk : ∀ j < k, ¬ (i.after j).Stopped) :
    (m.afterSteps k).Follows (i.after k) ∧ m.GoesOn k ∧
      (m.afterSteps k).stepCount = m.stepCount + k := by
  induction k with
  | zero => exact ⟨h, goesOn_zero m, rfl⟩
  | succ k ih =>
    obtain ⟨hf, hgo, hcount⟩ := ih fun j hj => hk j (by omega)
    have hlast := hk k (by omega)
    obtain ⟨-, hnext, hone⟩ := hf.step_of_running (hi.after k) hlast
    rw [afterSteps_succ, UnboundedMachine.after_succ]
    refine ⟨hnext, goesOn_succ_iff.2 ⟨hgo, hf.ending?_eq_none (hi.after k) hlast⟩, ?_⟩
    rw [hone, hcount, Nat.add_assoc]

end Machine

namespace UnboundedMachine.Reaches

open Machine

variable {startState endState : Value} {table : Table Situation Action} {word : String}
  {i : UnboundedMachine} {k : Nat} {first : Int} {left right : List Char} {c : Char}

/-- **A machine shows the word that its unbounded one has reached**, in its live cells. -/
theorem configuration
    (h : (UnboundedMachine.new startState endState table word.toList).Reaches k i)
    (hi : (UnboundedMachine.new startState endState table word.toList).Sound)
    (hword : ∀ c ∈ word.toList, c ≠ blank) (htape : i.tape = .placed first left (c :: right))
    (hleft : left.head? ≠ some blank) (hright : right.getLast? ≠ some blank) :
    let m := ((Machine.new startState endState table : Machine).start word).machine
    m.GoesOn k ∧ (m.afterSteps k).Follows i ∧
      (m.afterSteps k).configuration
        = .ok ⟨i.state, left ++ c :: right, left.length, first, k⟩ := by
  intro m
  have hstart : m.tape = some (Tape.ofWord word.toList) := tape_start ..
  have hbegin := Run.underway_ofStart startState endState table word none true
  have hfollows : m.Follows (.new startState endState table word.toList) := hbegin.follows
  have hzero : m.stepCount = 0 := hbegin.stepCount
  obtain ⟨hf, hgo, hcount⟩ := hfollows.afterSteps hi h.goesOn
  rw [h.after] at hf
  rw [hzero, Nat.zero_add] at hcount
  refine ⟨hgo, hf, ?_⟩
  -- Since the word has no blanks, its tape is trimmed and stays so.
  obtain ⟨t, ht, htrim, -⟩ := exists_tape_of_keeps
    (P := fun t => t.Trimmed ∧ ∃ f u, t.Shows f u)
    (fun t c d ⟨htrim, f, u, hs⟩ => by
      obtain ⟨g, hg⟩ := (hs.write c).move d
      refine ⟨?_, g, _, hg⟩
      by_cases hd : d = .stay
      · subst hd
        simpa [Tape.move] using htrim.write c
      · exact (hs.write c).trimmed_move hd)
    hstart ⟨Tape.trimmed_ofWord hword, _, _, Tape.shows_ofWord word.toList⟩ k
  obtain ⟨t', f, ht', hs⟩ := hf.tape
  obtain rfl : t = t' := Option.some.inj (ht.symm.trans ht')
  rw [htape] at hs
  obtain ⟨hfirst, hsymbols, hhead⟩ := hs.placed_eq htrim hleft hright
  rw [configuration_of_tape ht, snapshot, hf.state, hsymbols, hhead, hfirst, hcount]

/-- A run ends where the path of its machine does, when the unbounded one has come there. -/
theorem run_ends
    (h : (UnboundedMachine.new startState endState table word.toList).Reaches k i)
    (hi : (UnboundedMachine.new startState endState table word.toList).Sound)
    (hword : ∀ c ∈ word.toList, c ≠ blank) (htape : i.tape = .placed first left (c :: right))
    (hleft : left.head? ≠ some blank) (hright : right.getLast? ≠ some blank)
    {e : Except Fault Unit} (he : ∀ m : Machine, m.Follows i → m.ending? = some e)
    (moments : Nat) :
    let r := (Machine.new startState endState table).run word none moments
    let last : Configuration := ⟨i.state, left ++ c :: right, left.length, first, k⟩
    (moments ≤ k → r.ending = none) ∧
      (k < moments → r.ending = some (e.map fun _ => last) ∧
        r.machine.configuration = .ok last) := by
  intro r last
  obtain ⟨hgo, hf, hc⟩ := h.configuration hi hword htape hleft hright
  obtain ⟨hbefore, hbehind⟩ := (Run.onPath_ofStart startState endState table word none
    true).ending_unlimited (tape_start ..) hgo (he _ hf) hc moments
  refine ⟨hbefore, fun hlt => ?_⟩
  obtain ⟨he, hm⟩ := hbehind hlt
  exact ⟨he, (congrArg Machine.configuration hm).trans hc⟩

/-- **A run halts where its unbounded machine does**, after as many steps. -/
theorem run_halts
    (h : (UnboundedMachine.new startState endState table word.toList).Reaches k i)
    (hi : (UnboundedMachine.new startState endState table word.toList).Sound)
    (hword : ∀ c ∈ word.toList, c ≠ blank) (htape : i.tape = .placed first left (c :: right))
    (hleft : left.head? ≠ some blank) (hright : right.getLast? ≠ some blank)
    (hhalt : i.isHalted) (moments : Nat) :
    let r := (Machine.new startState endState table).run word none moments
    let last : Configuration := ⟨i.state, left ++ c :: right, left.length, first, k⟩
    (moments ≤ k → r.ending = none) ∧
      (k < moments → r.ending = some (.ok last) ∧ r.machine.configuration = .ok last) :=
  h.run_ends hi hword htape hleft hright
    (fun _ hf => ending?_eq_ok_iff.2 (hf.isHalted_eq.trans hhalt)) moments

/-- **A run ends where its unbounded machine is stuck**, after as many steps, with what is not
mapped. -/
theorem run_stuck
    (h : (UnboundedMachine.new startState endState table word.toList).Reaches k i)
    (hi : (UnboundedMachine.new startState endState table word.toList).Sound)
    (hword : ∀ c ∈ word.toList, c ≠ blank) (htape : i.tape = .placed first left (c :: right))
    (hleft : left.head? ≠ some blank) (hright : right.getLast? ≠ some blank)
    (hhalt : ¬ i.isHalted) (haction : i.action? = none) (moments : Nat) :
    let r := (Machine.new startState endState table).run word none moments
    let last : Configuration := ⟨i.state, left ++ c :: right, left.length, first, k⟩
    (moments ≤ k → r.ending = none) ∧
      (k < moments → r.ending = some (.error (.unmapped i.state (.ofSymbol i.tape.read))) ∧
        r.machine.configuration = .ok last) := by
  have hsound : i.Sound := h.after ▸ hi.after k
  exact h.run_ends hi hword htape hleft hright
    (fun _ hf => hf.ending?_of_stuck hsound hhalt haction) moments

end UnboundedMachine.Reaches

end TapeMachine
