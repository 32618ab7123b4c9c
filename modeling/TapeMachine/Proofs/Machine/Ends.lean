import TapeMachine.Proofs.Machine.Reaches

/-!
# How runs with a limit end

The unbounded machine and the limit together say after how many steps a run ends, and how
(`UnboundedMachine.Ends`): it halts, it is stuck, or it is still running when the limit is met.
There is only one way and one number of steps (`Ends.unique`), and every run that ends does so
(`Run.EndedAt.ends`).
-/

namespace TapeMachine

namespace UnboundedMachine

/-- **How a run ends** after so many steps. -/
inductive Ends (i : UnboundedMachine) (limit : Option Int) (k : Nat) : Machine.Progress → Prop
  | halted (h : i.StopsAt k) (hh : (i.after k).isHalted)
      (hl : ∀ n, limit = some n → (k : Int) ≤ n) : Ends i limit k .halted
  | unmapped (h : i.StopsAt k) (hh : ¬ (i.after k).isHalted)
      (hl : ∀ n, limit = some n → (k : Int) < n) : Ends i limit k .unmapped
  | running (h : ∀ j < k, ¬ (i.after j).Stopped) (hh : ¬ (i.after k).isHalted)
      (hl : limit = some (k : Int)) : Ends i limit k .running

namespace Ends

variable {i : UnboundedMachine} {limit : Option Int} {k l : Nat} {p q : Machine.Progress}

theorem goesOn (h : i.Ends limit k p) : ∀ j < k, ¬ (i.after j).Stopped := by
  cases h with
  | halted h => exact h.2
  | unmapped h => exact h.2
  | running h => exact h

/-- A run ends where the machine stops or the limit is met. -/
theorem stopped_or_limit (h : i.Ends limit k p) :
    (i.after k).Stopped ∨ limit = some (k : Int) := by
  cases h with
  | halted h => exact .inl h.1
  | unmapped h => exact .inl h.1
  | running _ _ hl => exact .inr hl

theorem le_limit (h : i.Ends limit k p) {n : Int} (hn : limit = some n) : (k : Int) ≤ n := by
  cases h with
  | halted _ _ hl => exact hl n hn
  | unmapped _ _ hl => exact (hl n hn).le
  | running _ _ hl => exact (Option.some.inj (hl.symm.trans hn)).le

theorem le (h : i.Ends limit k p) (h' : i.Ends limit l q) : l ≤ k := by
  by_contra hlt
  rcases h.stopped_or_limit with hs | hl
  · exact h'.goesOn k (by omega) hs
  · have := h'.le_limit hl
    omega

/-- **A run ends in one way only.** -/
theorem unique (h : i.Ends limit k p) (h' : i.Ends limit l q) : k = l ∧ p = q := by
  obtain rfl : k = l := Nat.le_antisymm (h'.le h) (h.le h')
  refine ⟨rfl, ?_⟩
  cases h with
  | halted _ hh =>
    cases h' with
    | halted => rfl
    | unmapped _ hh' => exact absurd hh hh'
    | running _ hh' => exact absurd hh hh'
  | unmapped _ hh hl =>
    cases h' with
    | halted _ hh' => exact absurd hh' hh
    | unmapped => rfl
    | running _ _ hl' => exact absurd (hl _ hl') (lt_irrefl _)
  | running _ hh hl =>
    cases h' with
    | halted _ hh' => exact absurd hh' hh
    | unmapped _ _ hl' => exact absurd (hl' _ hl) (lt_irrefl _)
    | running => rfl

end Ends

end UnboundedMachine

namespace Machine

variable {m : Machine} {i : UnboundedMachine} {limit : Option Int} {k : Nat}

/-- A machine ends where the unbounded one that it follows has stopped. -/
theorem Follows.ending?_eq_none_iff (h : m.Follows i) (hi : i.Sound) :
    m.ending? = none ↔ ¬ i.Stopped := by
  refine ⟨fun hnone hs => ?_, h.ending?_eq_none hi⟩
  by_cases hh : i.isHalted
  · rw [ending?_eq_ok_iff.2 (h.isHalted_eq.trans hh)] at hnone
    contradiction
  · rw [ending?, if_neg (by rwa [h.isHalted_eq]),
      h.step_of_stuck hi hh (hs.resolve_left hh)] at hnone
    contradiction

/-- A path goes on as long as the unbounded machine does. -/
theorem Follows.goesOn_iff (h : m.Follows i) (hi : i.Sound) :
    m.GoesOn k ↔ ∀ j < k, ¬ (i.after j).Stopped := by
  refine ⟨fun hgo => ?_, fun hr => (h.afterSteps hi hr).2.1⟩
  induction k with
  | zero => exact fun _ hj => absurd hj (Nat.not_lt_zero _)
  | succ k ih =>
    obtain ⟨hgo, hlast⟩ := goesOn_succ_iff.1 hgo
    have hr := ih hgo
    obtain ⟨hf, -, -⟩ := h.afterSteps hi hr
    exact Nat.forall_lt_succ_right.2 ⟨hr, (hf.ending?_eq_none_iff (hi.after k)).1 hlast⟩

/-- **A run that has ended** has ended as its unbounded machine and the limit say. -/
theorem Run.EndedAt.ends {r : Run} (h : r.EndedAt m limit k) (hf : m.Follows i) (hi : i.Sound)
    (hzero : m.stepCount = 0) (hlimit : ∀ n, limit = some n → 0 ≤ n) :
    ∃ p e, r.ending = some e ∧ i.Ends limit k p ∧ (p = .halted ↔ ∃ c, e = .ok c) := by
  have hr := (hf.goesOn_iff hi).1 h.goesOn
  obtain ⟨hfk, -, hcount⟩ := hf.afterSteps hi hr
  rw [hzero, Nat.zero_add] at hcount
  have hle : ∀ n, limit = some n → (k : Int) ≤ n := by
    intro n hn
    cases k with
    | zero => exact hlimit n hn
    | succ j =>
      obtain ⟨-, -, hj⟩ := hf.afterSteps (k := j) hi fun l hl => hr l (by omega)
      have := h.allows j (by omega) n hn
      omega
  obtain ⟨e, he, hends⟩ := h.ending
  cases hends with
  | halted hend _ =>
    have hh : (i.after k).isHalted := by
      rw [← hfk.isHalted_eq]
      exact ending?_eq_ok_iff.1 hend
    exact ⟨.halted, _, he, .halted ⟨.inl hh, hr⟩ hh hle, iff_of_true rfl ⟨_, rfl⟩⟩
  | fault hend hl =>
    have hh : ¬ (i.after k).isHalted := by
      intro hh
      rw [ending?_eq_ok_iff.2 (hfk.isHalted_eq.trans hh)] at hend
      cases Option.some.inj hend
    have hs : (i.after k).Stopped := by
      by_contra hs
      rw [(hfk.ending?_eq_none_iff (hi.after k)).2 hs] at hend
      contradiction
    rw [hcount] at hl
    exact ⟨.unmapped, _, he, .unmapped ⟨hs, hr⟩ hh hl, by simp⟩
  | limit hh hn hl =>
    rw [hcount] at hl
    obtain rfl := le_antisymm hl (hle _ hn)
    rw [hfk.isHalted_eq] at hh
    exact ⟨.running, _, he, .running hr hh hn, by simp⟩

end Machine

end TapeMachine
