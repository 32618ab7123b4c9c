import Mathlib.Algebra.Order.Field.Power
import Mathlib.Algebra.Order.Field.Rat
import Mathlib.Data.Rat.Cast.Order
import Mathlib.Tactic.Linarith
import Mathlib.Tactic.Ring
import TapeMachine.Binary64.Basic

/-!
# How far rounding goes

A positive number is rounded to a whole multiple of a power of two (`Rounds`), chosen so that there
are fewer than `2 ^ 53` of it in the number and, unless the power is the smallest, at least
`2 ^ 52`.

* `nearest_nonneg`, `one_le_nearest`: rounding crosses neither zero nor one.
* `abs_nearest_sub_le`: what is not too small changes by no more than a `2 ^ 53`-th of itself.
-/

namespace TapeMachine.Binary64

variable {num den : Nat} {q : Rat}

/-! ### Quotients -/

theorem two_zpow_pos (k : Int) : (0 : Rat) < 2 ^ k := zpow_pos (by norm_num) k

theorem scaled_pos (num : Nat) (h : 0 < den) (k : Int) : 0 < (scaled num den k).2 := by
  cases k with
  | ofNat k =>
    rw [scaled, Nat.shiftLeft_eq]
    exact Nat.mul_pos h (Nat.two_pow_pos k)
  | negSucc k => exact h

theorem scaled_eq (num den : Nat) (k : Int) :
    ((scaled num den k).1 : Rat) / (scaled num den k).2 = num / den / 2 ^ k := by
  cases k with
  | ofNat k =>
    simp only [scaled, Nat.shiftLeft_eq, Nat.cast_mul, Nat.cast_pow, Nat.cast_ofNat,
      Int.ofNat_eq_natCast, zpow_natCast]
    rw [div_div]
  | negSucc k =>
    simp only [scaled, Nat.shiftLeft_eq, Nat.cast_mul, Nat.cast_pow, Nat.cast_ofNat,
      zpow_negSucc]
    rw [div_inv_eq_mul, mul_div_right_comm]

theorem roundQuotient_bounds (num : Nat) (h : 0 < den) :
    2 * num ≤ 2 * (roundQuotient num den * den) + den ∧
      2 * (roundQuotient num den * den) ≤ 2 * num + den := by
  have hdiv : num / den * den + num % den = num := Nat.div_add_mod' num den
  have hmod : num % den < den := Nat.mod_lt num h
  have hup : (num / den + 1) * den = num / den * den + den := Nat.succ_mul _ _
  unfold roundQuotient
  dsimp only
  split_ifs with hless hmore
  · omega
  · omega
  · rcases Nat.mod_two_eq_zero_or_one (num / den) with heven | hodd
    · rw [heven, Nat.add_zero]
      omega
    · rw [hodd]
      omega

theorem le_roundQuotient {c : Nat} (h : 0 < den) (hc : c * den ≤ num) :
    c ≤ roundQuotient num den := by
  have hdiv : c ≤ num / den := (Nat.le_div_iff_mul_le h).2 hc
  unfold roundQuotient
  dsimp only
  split_ifs <;> omega

/-- A quotient is rounded by at most one half. -/
theorem abs_roundQuotient_sub_le (h : 0 < den) :
    |(roundQuotient num den : Rat) - num / den| ≤ 1 / 2 := by
  have hden : (0 : Rat) < den := Nat.cast_pos.2 h
  obtain ⟨hlow, hhigh⟩ := roundQuotient_bounds num h
  have hlow' : ((2 * num : Nat) : Rat) ≤ ((2 * (roundQuotient num den * den) + den : Nat) : Rat) :=
    Nat.cast_le.2 hlow
  have hhigh' : ((2 * (roundQuotient num den * den) : Nat) : Rat) ≤ ((2 * num + den : Nat) : Rat) :=
    Nat.cast_le.2 hhigh
  push_cast at hlow' hhigh'
  rw [abs_le, sub_div' hden.ne', le_div_iff₀ hden, div_le_iff₀ hden]
  constructor <;> linarith

/-! ### The exponent -/

theorem ratio_bounds (hnum : 0 < num) (hden : 0 < den) :
    (2 : Rat) ^ ((num.log2 : Int) - den.log2 - 1) < num / den ∧
      (num : Rat) / den < 2 ^ ((num.log2 : Int) - den.log2 + 1) := by
  have hd : (0 : Rat) < den := Nat.cast_pos.2 hden
  have hnumLow : ((2 ^ num.log2 : Nat) : Rat) ≤ num := Nat.cast_le.2 (Nat.log2_self_le hnum.ne')
  have hnumHigh : (num : Rat) < ((2 ^ (num.log2 + 1) : Nat) : Rat) :=
    Nat.cast_lt.2 Nat.lt_log2_self
  have hdenLow : ((2 ^ den.log2 : Nat) : Rat) ≤ den := Nat.cast_le.2 (Nat.log2_self_le hden.ne')
  have hdenHigh : (den : Rat) < ((2 ^ (den.log2 + 1) : Nat) : Rat) :=
    Nat.cast_lt.2 Nat.lt_log2_self
  push_cast at hnumLow hnumHigh hdenLow hdenHigh
  constructor
  · rw [lt_div_iff₀ hd]
    calc (2 : Rat) ^ ((num.log2 : Int) - den.log2 - 1) * den
        < 2 ^ ((num.log2 : Int) - den.log2 - 1) * 2 ^ (den.log2 + 1) :=
          mul_lt_mul_of_pos_left hdenHigh (two_zpow_pos _)
      _ = 2 ^ num.log2 := by
          rw [← zpow_natCast, ← zpow_natCast, ← zpow_add₀ (by norm_num)]
          congr 1
          omega
      _ ≤ num := hnumLow
  · rw [div_lt_iff₀ hd]
    calc (num : Rat) < 2 ^ (num.log2 + 1) := hnumHigh
      _ = 2 ^ ((num.log2 : Int) - den.log2 + 1) * 2 ^ den.log2 := by
          rw [← zpow_natCast, ← zpow_natCast, ← zpow_add₀ (by norm_num)]
          congr 1
          omega
      _ ≤ 2 ^ ((num.log2 : Int) - den.log2 + 1) * den :=
          mul_le_mul_of_nonneg_left hdenLow (two_zpow_pos _).le

/-- In terms of a power of two, a number has `precision` bits before the point, and fewer only where
the power is the smallest. -/
structure FitsExponent (q : Rat) (k : Int) : Prop where
  le : minExponent ≤ k
  lt : q < 2 ^ precision * 2 ^ k
  large : minExponent < k → 2 ^ (precision - 1) * 2 ^ k ≤ q

theorem scaled_lt_iff (h : 0 < den) (k : Int) :
    (scaled num den k).1 < (scaled num den k).2 <<< precision ↔
      (num : Rat) / den < 2 ^ precision * 2 ^ k := by
  have hpos : (0 : Rat) < (scaled num den k).2 := Nat.cast_pos.2 (scaled_pos num h k)
  rw [← div_lt_iff₀ (two_zpow_pos k), ← scaled_eq, div_lt_iff₀ hpos, Nat.shiftLeft_eq,
    ← Nat.cast_lt (α := Rat)]
  push_cast
  rw [mul_comm]

theorem fitsExponent_clamp {k : Int} (hlt : q < 2 ^ precision * 2 ^ k)
    (hlarge : 2 ^ (precision - 1) * 2 ^ k ≤ q) :
    FitsExponent q (if k < minExponent then minExponent else k) := by
  by_cases hk : k < minExponent
  · rw [if_pos hk]
    refine ⟨le_rfl, lt_of_lt_of_le hlt ?_, fun h => absurd h (lt_irrefl _)⟩
    exact mul_le_mul_of_nonneg_left (zpow_le_zpow_right₀ (by norm_num) hk.le) (by positivity)
  · rw [if_neg hk]
    exact ⟨not_lt.1 hk, hlt, fun _ => hlarge⟩

theorem two_pow_mul_zpow (n : Nat) (k : Int) : (2 : Rat) ^ n * 2 ^ k = 2 ^ (n + k) := by
  rw [← zpow_natCast, ← zpow_add₀ (by norm_num)]

theorem fitsExponent_exponent (hnum : 0 < num) (hden : 0 < den) :
    FitsExponent ((num : Rat) / den) (exponent num den) := by
  obtain ⟨hlow, hhigh⟩ := ratio_bounds hnum hden
  unfold exponent
  dsimp only
  -- The logarithms give the exponent up to one.
  apply fitsExponent_clamp
  · split_ifs with hless
    · exact (scaled_lt_iff hden _).1 hless
    · refine lt_of_lt_of_eq hhigh ?_
      rw [two_pow_mul_zpow]
      congr 1
      omega
  · split_ifs with hless
    · refine le_trans (le_of_eq ?_) hlow.le
      rw [two_pow_mul_zpow]
      congr 1
      unfold precision
      omega
    · refine le_trans (le_of_eq ?_) (not_lt.1 (mt (scaled_lt_iff hden _).2 hless))
      rw [two_pow_mul_zpow, two_pow_mul_zpow]
      congr 1
      unfold precision
      omega

/-! ### Rounding -/

/-- The most by which rounding changes a number that is not too small, as a part of it. -/
def unit : Rat := 1 / 2 ^ precision

theorem unit_pos : 0 < unit := by norm_num [unit, precision]

/-- A positive number is rounded to a whole multiple of a power of two. -/
structure Rounds (q : Rat) (m : Nat) (k : Int) : Prop where
  nearest_eq : nearest q = m * 2 ^ k
  fits : FitsExponent q k
  abs_sub_le : |(m : Rat) - q / 2 ^ k| ≤ 1 / 2
  le_of_le : ∀ c : Nat, (c : Rat) ≤ q / 2 ^ k → c ≤ m

theorem nearest_of_pos (h : 0 < q) :
    nearest q = (factors q.num.natAbs q.den).1 * 2 ^ (factors q.num.natAbs q.den).2 := by
  have hsign : ¬ q.num < 0 := not_lt.2 (Rat.num_pos.2 h).le
  rw [nearest]
  dsimp only
  rw [if_neg hsign, if_neg (Rat.num_pos.2 h).ne']

theorem natAbs_num_div_den (h : 0 < q) : ((q.num.natAbs : Nat) : Rat) / q.den = q := by
  have habs : ((q.num.natAbs : Nat) : Rat) = q.num := by
    rw [Nat.cast_natAbs, abs_of_pos (Rat.num_pos.2 h)]
  rw [habs, Rat.num_div_den]

theorem factors_eq (num den : Nat) :
    factors num den = (roundQuotient (scaled num den (exponent num den)).1
      (scaled num den (exponent num den)).2, exponent num den) := by
  unfold factors
  dsimp only

theorem exists_rounds (h : 0 < q) : ∃ m k, Rounds q m k := by
  have hnum : 0 < q.num.natAbs := Int.natAbs_pos.2 (Rat.num_pos.2 h).ne'
  have hfits := fitsExponent_exponent hnum q.den_pos
  have hpos := scaled_pos q.num.natAbs q.den_pos (exponent q.num.natAbs q.den)
  have hquotient := scaled_eq q.num.natAbs q.den (exponent q.num.natAbs q.den)
  have hnearest := nearest_of_pos h
  rw [natAbs_num_div_den h] at hfits hquotient
  rw [factors_eq] at hnearest
  generalize exponent q.num.natAbs q.den = k at *
  generalize scaled q.num.natAbs q.den k = p at *
  refine ⟨roundQuotient p.1 p.2, k, hnearest, hfits, ?_, ?_⟩
  · exact hquotient ▸ abs_roundQuotient_sub_le hpos
  · intro c hc
    apply le_roundQuotient hpos
    rw [← hquotient, le_div_iff₀ (Nat.cast_pos.2 hpos)] at hc
    exact_mod_cast hc

theorem nearest_nonneg (h : 0 ≤ q) : 0 ≤ nearest q := by
  have hnum : ¬ q.num < 0 := not_lt.2 (Rat.num_nonneg.2 h)
  unfold nearest
  dsimp only
  rw [if_neg hnum]
  split
  · exact le_rfl
  · have hsteps (n : Nat) : (0 : Rat) ≤ n := Nat.cast_nonneg n
    exact mul_nonneg (hsteps _) (zpow_nonneg (by norm_num) _)

theorem nearest_zero : nearest 0 = 0 := by decide +kernel

/-- **Rounding does not fall below one.** -/
theorem one_le_nearest (h : 1 ≤ q) : 1 ≤ nearest q := by
  obtain ⟨m, k, hr⟩ := exists_rounds (lt_of_lt_of_le one_pos h)
  rw [hr.nearest_eq]
  rcases Int.lt_or_le 0 k with hk | hk
  · -- The power is at least one, and at least one of it is in the number.
    have hpower : (1 : Rat) ≤ 2 ^ k := one_le_zpow₀ (by norm_num) hk.le
    have hlarge := hr.fits.large (lt_trans (by decide) hk)
    have hone : 1 ≤ m := by
      apply hr.le_of_le
      rw [le_div_iff₀ (two_zpow_pos k), Nat.cast_one, one_mul]
      exact le_trans (le_mul_of_one_le_left (two_zpow_pos k).le (by norm_num [precision])) hlarge
    have hm : (1 : Rat) ≤ m := Nat.one_le_cast.2 hone
    exact one_le_mul_of_one_le_of_one_le hm hpower
  · -- The power is the inverse of a whole number, which is at most the quotient.
    obtain ⟨n, rfl⟩ : ∃ n : Nat, k = -n := ⟨k.natAbs, by omega⟩
    have hinv : (2 : Rat) ^ (-(n : Int)) = (2 ^ n)⁻¹ := by rw [zpow_neg, zpow_natCast]
    have hpow : 2 ^ n ≤ m := by
      apply hr.le_of_le
      rw [hinv, div_inv_eq_mul]
      push_cast
      exact le_mul_of_one_le_left (by positivity) h
    have hm : ((2 ^ n : Nat) : Rat) ≤ m := Nat.cast_le.2 hpow
    push_cast at hm
    rw [hinv, ← div_eq_mul_inv, le_div_iff₀ (by positivity), one_mul]
    exact hm

/-- **Rounding changes a number by no more than a `2 ^ 53`-th of it**, if it is not too small. -/
theorem abs_nearest_sub_le (h : 2 ^ (-1022 : Int) ≤ q) : |nearest q - q| ≤ q * unit := by
  obtain ⟨m, k, hr⟩ := exists_rounds (lt_of_lt_of_le (two_zpow_pos _) h)
  have hk : (0 : Rat) < 2 ^ k := two_zpow_pos k
  have hlarge : 2 ^ (precision - 1) * 2 ^ k ≤ q := by
    rcases eq_or_lt_of_le hr.fits.le with hmin | hmin
    · refine le_trans (le_of_eq ?_) h
      rw [← hmin, two_pow_mul_zpow]
      rfl
    · exact hr.fits.large hmin
  calc |nearest q - q| = |(m : Rat) - q / 2 ^ k| * 2 ^ k := by
        rw [hr.nearest_eq, ← abs_of_pos hk, ← abs_mul, abs_of_pos hk, sub_mul,
          div_mul_cancel₀ _ hk.ne']
    _ ≤ 1 / 2 * 2 ^ k := mul_le_mul_of_nonneg_right hr.abs_sub_le hk.le
    _ ≤ q * unit := by
        norm_num [precision, unit] at hlarge ⊢
        linarith

theorem nearest_le (h : 2 ^ (-1022 : Int) ≤ q) : nearest q ≤ q * (1 + unit) := by
  have habs := (abs_le.1 (abs_nearest_sub_le h)).2
  rw [mul_add, mul_one]
  linarith

theorem le_nearest (h : 2 ^ (-1022 : Int) ≤ q) : q * (1 - unit) ≤ nearest q := by
  have habs := (abs_le.1 (abs_nearest_sub_le h)).1
  rw [mul_sub, mul_one]
  linarith

/-- Rounding neither halves nor doubles a number that is not too small. -/
theorem nearest_between (h : 2 ^ (-1022 : Int) ≤ q) : q / 2 ≤ nearest q ∧ nearest q ≤ q * 2 := by
  have hzero : 0 ≤ q := (two_zpow_pos _).le.trans h
  have hunit : unit ≤ 1 / 2 := by norm_num [unit, precision]
  constructor
  · rw [div_eq_mul_one_div]
    exact le_trans (mul_le_mul_of_nonneg_left (by linarith) hzero) (le_nearest h)
  · exact le_trans (nearest_le h) (mul_le_mul_of_nonneg_left (by linarith) hzero)

theorem nearest_neg (q : Rat) : nearest (-q) = -nearest q := by
  unfold nearest
  dsimp only
  rw [Rat.neg_num, Rat.neg_den, Int.natAbs_neg]
  rcases lt_trichotomy q.num 0 with h | h | h
  · rw [if_pos h, if_neg (by omega), if_neg (by omega), neg_neg]
  · rw [h]
    simp
  · rw [if_pos (by omega), if_neg (by omega), if_neg (by omega)]

/-- **Whole numbers of 53 bits have doubles**: rounding does not make them too large. -/
theorem abs_nearest_lt_tooLarge {n : Int} (h : n.natAbs ≤ 2 ^ precision) :
    (nearest n).abs < tooLarge := by
  have hnat : nearest (n.natAbs : Rat) < tooLarge := by
    have htwo : (2 : Rat) ^ precision * 2 < tooLarge := by decide +kernel
    rcases Nat.eq_zero_or_pos n.natAbs with hzero | hpos
    · rw [hzero, Nat.cast_zero, nearest_zero]
      exact lt_trans (by norm_num [precision]) htwo
    have hone : (1 : Rat) ≤ n.natAbs := Nat.one_le_cast.2 hpos
    have hcast : (n.natAbs : Rat) ≤ 2 ^ precision := by exact_mod_cast h
    have hsmall : (2 : Rat) ^ (-1022 : Int) ≤ 1 :=
      zpow_le_one_of_nonpos₀ (by norm_num) (by decide)
    have hunit : 1 + unit ≤ 2 := by norm_num [unit, precision]
    calc nearest (n.natAbs : Rat)
        ≤ n.natAbs * (1 + unit) := nearest_le (le_trans hsmall hone)
      _ ≤ 2 ^ precision * 2 := mul_le_mul hcast hunit (by linarith [unit_pos]) (by positivity)
      _ < tooLarge := htwo
  have hzero : 0 ≤ nearest (n.natAbs : Rat) := nearest_nonneg (Nat.cast_nonneg _)
  rcases Int.natAbs_eq n with hn | hn
  · rw [hn, Int.cast_natCast, Rat.abs_of_nonneg hzero]
    exact hnat
  · rw [hn, Int.cast_neg, Int.cast_natCast, nearest_neg, Rat.abs_of_nonpos (neg_nonpos.2 hzero),
      neg_neg]
    exact hnat

theorem truncate_nonneg (h : 0 ≤ q) : 0 ≤ truncate q :=
  Int.tdiv_nonneg (Rat.num_nonneg.2 h) (Int.natCast_nonneg _)

/-- A number loses what stands behind its point. -/
theorem truncate_le (h : 0 ≤ q) : (truncate q : Rat) ≤ q := by
  have hnum : 0 ≤ q.num := Rat.num_nonneg.2 h
  have hden : (0 : Rat) < q.den := Nat.cast_pos.2 q.den_pos
  have hle : q.num.tdiv q.den * q.den ≤ q.num := by
    rw [Int.tdiv_eq_ediv_of_nonneg hnum]
    exact Int.ediv_mul_le _ (Int.natCast_ne_zero.2 q.den_nz)
  calc (truncate q : Rat) ≤ (q.num : Rat) / q.den := by
        rw [le_div_iff₀ hden, truncate]
        exact_mod_cast hle
    _ = q := Rat.num_div_den q

theorem toNat_truncate_le (h : 0 ≤ q) : ((truncate q).toNat : Rat) ≤ q := by
  rw [← Int.cast_natCast, Int.toNat_of_nonneg (truncate_nonneg h)]
  exact truncate_le h

end TapeMachine.Binary64
