import TapeMachine.Proofs.Binary64.Nearest
import TapeMachine.Proofs.Live.Display

/-!
# A clock that never goes back

The time between two readings of a clock is a double, rounded to the nearest one.  Rounding does
not make it negative: if the clock never goes back, no time since the last redraw is below zero,
and with no pause between two redraws a display redraws at every reading
(`Live.Session.alwaysDue_of_neverGoesBack`).
-/

namespace TapeMachine

namespace Value

theorem le_nearestDouble {q : Rat} (h : 0 ≤ q) :
    ∃ a, (Value.double (nearestDouble q)).amount? = some a ∧ (Amount.finite 0).le a := by
  have hx : ¬ Binary64.nearest q < 0 := not_lt.2 (Binary64.nearest_nonneg h)
  unfold nearestDouble
  dsimp only
  rw [decide_eq_false hx]
  generalize Binary64.nearest q = x
  by_cases hlarge : Binary64.tooLarge ≤ x.abs
  · rw [if_pos hlarge]
    exact ⟨.infinite false, rfl, rfl⟩
  · rw [if_neg hlarge]
    exact ⟨.finite x.abs, rfl, decide_eq_true Rat.abs_nonneg⟩

/-- The time from a reading to one that is not before it is not below zero. -/
theorem le_subtract {x y : Binary64.Double} {p q : Rat}
    (hx : (Value.double x).amount? = some (.finite p))
    (hy : (Value.double y).amount? = some (.finite q)) (h : p ≤ q) :
    ∃ a, (Value.double (subtract y x)).amount? = some a ∧ (Amount.finite 0).le a := by
  cases x with
  | infinite negative => simp [amount?] at hx
  | undefined => simp [amount?] at hx
  | finite b x =>
    cases y with
    | infinite negative => simp [amount?] at hy
    | undefined => simp [amount?] at hy
    | finite c y =>
      obtain rfl : (if b then -x else x) = p := by simpa [amount?] using hx
      obtain rfl : (if c then -y else y) = q := by simpa [amount?] using hy
      unfold subtract
      dsimp only
      by_cases hzero : y = 0 ∧ x = 0
      · rw [if_pos hzero]
        refine ⟨_, rfl, ?_⟩
        cases c && !b <;> rfl
      · rw [if_neg hzero]
        exact le_nearestDouble (sub_nonneg.2 h)

end Value

namespace Live

variable {o : Options} {w : Surroundings} {limit : Option Int}

/-- What the clock shows is finite, and never less than before. -/
def Surroundings.NeverGoesBack (w : Surroundings) : Prop :=
  ∃ q : Nat → Rat, Monotone q ∧ ∀ i, (w.clock i).amount? = some (.finite (q i))

theorem Session.alwaysDue_of_neverGoesBack (hs : SetUp o w limit)
    (hzero : o.interval.amount? = some (.finite 0)) (hw : w.NeverGoesBack) : AlwaysDue o w := by
  intro s i j hij hlast
  obtain ⟨q, hmono, hq⟩ := hw
  obtain ⟨x, hx⟩ := hs.clock i
  obtain ⟨y, hy⟩ := hs.clock j
  obtain ⟨a, ha, hle⟩ := Value.le_subtract (hx ▸ hq i) (hy ▸ hq j) (hmono hij)
  have hminus : (Value.double y).minus (.double x) = .ok (.double (Value.subtract y x)) := rfl
  unfold isDue
  rw [hlast, hx, hy, hminus]
  show Value.atLeast _ _ = _
  unfold Value.atLeast
  rw [ha, hzero]
  exact congrArg Except.ok hle

end Live

end TapeMachine
