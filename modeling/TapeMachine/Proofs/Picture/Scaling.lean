import Mathlib.Algebra.Order.Field.Basic
import Mathlib.Algebra.Order.Ring.Pow
import Mathlib.Data.Finset.Card
import TapeMachine.Picture.Caption
import TapeMachine.Proofs.Binary64.Nearest
import TapeMachine.Proofs.Picture.Loose

/-!
# How pictures are scaled

A picture that is to get wider is scaled by copying the nearest pixels; any other that does not keep
its size is blurred and smoothed (`choice`).

* `looseScaling_eq_ok_iff`: nothing but the widths decides between the two, as rounding does not
  carry their ratio across one.
* `lt_of_mem_samples`: the pixels that are copied are there, since the rounding of the many
  additions that find them comes to less than half a step.
* `Raster.exists_row_dropped`: copying to fewer rows leaves some out.

Widths that grow say nothing of the heights, so a picture that is smoothed and one that shrinks are
not the same: `scaled_by_widths` gives both ways in which they differ.
-/

namespace TapeMachine.Picture

open TapeMachine.Binary64

variable {α : Type} {old new oldWidth oldHeight width height : Nat}

/-! ### The choice -/

theorem small_le_ratio (hold : 0 < old) (hnew : 0 < new) (hbound : new ≤ 2 ^ precision) :
    (2 : Rat) ^ (-1020 : Int) ≤ (old : Rat) / new := by
  have hone : (1 : Rat) ≤ old := Nat.one_le_cast.2 hold
  have hcast : (new : Rat) ≤ 2 ^ precision := by exact_mod_cast hbound
  rw [le_div_iff₀ (Nat.cast_pos.2 hnew)]
  calc (2 : Rat) ^ (-1020 : Int) * new
      ≤ 2 ^ (-1020 : Int) * 2 ^ precision := mul_le_mul_of_nonneg_left hcast (two_zpow_pos _).le
    _ ≤ 1 := by
        rw [mul_comm, two_pow_mul_zpow]
        exact zpow_le_one_of_nonpos₀ (by norm_num) (by decide)
    _ ≤ old := hone

/-- In double precision a ratio of widths is below one if and only if the first is less. -/
theorem nearest_ratio_lt_one_iff (hnew : 0 < new) (hbound : new ≤ 2 ^ precision) :
    nearest ((old : Rat) / new) < 1 ↔ old < new := by
  have hpos : (0 : Rat) < new := Nat.cast_pos.2 hnew
  constructor
  · intro hlt
    by_contra hle
    have hone : (1 : Rat) ≤ (old : Rat) / new := by
      rw [one_le_div hpos]
      exact Nat.cast_le.2 (not_lt.1 hle)
    exact absurd (one_le_nearest hone) (not_le.2 hlt)
  · intro hlt
    rcases Nat.eq_zero_or_pos old with rfl | hold
    · rw [Nat.cast_zero, zero_div, nearest_zero]
      norm_num
    have hcast : (new : Rat) ≤ 2 ^ precision := by exact_mod_cast hbound
    have hnext : (old : Rat) + 1 ≤ new := by exact_mod_cast hlt
    have hsmall : (2 : Rat) ^ (-1022 : Int) ≤ old / new :=
      le_trans (zpow_le_zpow_right₀ (by norm_num) (by norm_num)) (small_le_ratio hold hnew hbound)
    refine lt_of_le_of_lt (nearest_le hsmall) ?_
    rw [div_mul_eq_mul_div, div_lt_one hpos]
    -- The first is at least one less, and rounding adds less than one to it.
    have hunit : (old : Rat) * unit < 1 := by
      rw [unit, mul_one_div, div_lt_one (by positivity)]
      linarith
    rw [mul_add, mul_one]
    linarith

/-- The kind of scaling that the widths choose. -/
def choice (oldWidth oldHeight width height : Nat) : Scaling :=
  if oldWidth = width ∧ oldHeight = height then .kept
  else if oldWidth < width then .nearest else .smooth

/-- There is room for what is made of a picture, and words of 32 bits hold its sides; nothing is
made of one that is kept. -/
def Scaling.HasRoom (room : Room) (s : Scaling) (width height : Nat) : Prop :=
  s = .kept ∨ ((width : Int) < Value.wordLimit ∧ (height : Int) < Value.wordLimit) ∧
    room.scale (s = .smooth) width height = .ok ()

theorem scaling_eq_choice (hw : 0 < width) (hh : 0 < height)
    (hword : (width : Int) < Value.wordLimit) :
    scaling oldWidth oldHeight width height
      = .ok (choice oldWidth oldHeight width height) := by
  have hbound : width ≤ 2 ^ precision := by
    unfold Value.wordLimit at hword
    unfold precision
    omega
  have hwidth : (width : Int) ≠ 0 := by omega
  have hpos : ¬ ((width : Int) ≤ 0 ∨ (height : Int) ≤ 0) := by omega
  have hratio : nearest ((oldWidth : Rat) / width) < 1 ↔ oldWidth < width :=
    nearest_ratio_lt_one_iff hw hbound
  unfold scaling choice
  simp only [Nat.cast_inj, Int.cast_natCast, hwidth, hpos, hratio, if_false]
  by_cases hsame : oldWidth = width ∧ oldHeight = height
  · rw [if_pos hsame, if_pos hsame]
  · rw [if_neg hsame, if_neg hsame]

/-- **The widths choose**, and nothing but a lack of room keeps a picture from being scaled. -/
theorem looseScaling_eq_ok_iff {room : Room} {s : Scaling} (hw : 0 < width) (hh : 0 < height) :
    looseScaling room oldWidth oldHeight (.int width) (.int height) = .ok s ↔
      s = choice oldWidth oldHeight width height ∧ s.HasRoom room width height := by
  have hsame : ((Value.int oldWidth).same (.int width) && (Value.int oldHeight).same (.int height))
      = decide (oldWidth = width ∧ oldHeight = height) := by
    simp
  have hzero : (Value.Amount.finite ((width : Int) : Rat)).same (.finite 0) = false := by
    have hpos : ¬ (width : Rat) ≤ 0 := not_le.2 (Nat.cast_pos.2 hw)
    simp [Value.Amount.same, Value.Amount.le, hpos]
  unfold looseScaling
  rw [hsame]
  by_cases h : oldWidth = width ∧ oldHeight = height
  · rw [if_pos (decide_eq_true h), choice, if_pos h, Except.ok.injEq]
    constructor
    · rintro rfl
      exact ⟨rfl, .inl rfl⟩
    · rintro ⟨rfl, -⟩
      rfl
  · have hkept : choice oldWidth oldHeight width height ≠ .kept := by
      rw [choice, if_neg h]
      split_ifs <;> simp
    rw [if_neg (by simpa using h)]
    simp only [Value.amount?, hzero, Bool.false_eq_true, if_false, bind_eq_ok_iff,
      mapError_eq_ok_iff, asWord_int_eq_ok_iff]
    constructor
    · rintro ⟨_, ⟨rfl, -, hwidth⟩, _, ⟨rfl, -, hheight⟩, s', hs', _, hroom, hs⟩
      rw [scaling_eq_choice hw hh hwidth, Except.ok.injEq] at hs'
      obtain rfl := Except.ok.inj hs
      exact ⟨hs'.symm, .inr ⟨⟨hwidth, hheight⟩, hroom⟩⟩
    · rintro ⟨rfl, hroom⟩
      obtain ⟨⟨hwidth, hheight⟩, hroom⟩ := hroom.resolve_left hkept
      have hlimit : 0 ≤ Value.wordLimit := by decide
      exact ⟨width, ⟨rfl, by omega, hwidth⟩, height, ⟨rfl, by omega, hheight⟩, _,
        scaling_eq_choice hw hh hwidth, (), hroom, rfl⟩

/-! ### The samples along an axis -/

/-- Where the sample of the new pixel with an index is at most: at the middle of that pixel, but for
the rounding of as many additions. -/
def farthest (step : Rat) (i : Nat) : Rat := (i + 1 / 2) * step * (1 + unit) ^ (i + 1)

theorem one_le_one_add_unit : 1 ≤ 1 + unit := le_add_of_nonneg_right unit_pos.le

theorem one_add_unit_nonneg : 0 ≤ 1 + unit := zero_le_one.trans one_le_one_add_unit

theorem farthest_succ {step : Rat} (h : 0 ≤ step) (i : Nat) :
    (farthest step i + step) * (1 + unit) ≤ farthest step (i + 1) := by
  have hone := mul_le_mul_of_nonneg_left (one_le_pow₀ (n := i + 1) one_le_one_add_unit) h
  unfold farthest
  rw [pow_succ (1 + unit) (i + 1), ← mul_assoc]
  apply mul_le_mul_of_nonneg_right _ one_add_unit_nonneg
  push_cast
  linarith

theorem farthest_mono {step : Rat} (h : 0 ≤ step) : Monotone (farthest step) := by
  apply monotone_nat_of_le_succ
  intro i
  have hpos : 0 ≤ farthest step i + step := by
    have hpow := pow_nonneg one_add_unit_nonneg (i + 1)
    unfold farthest
    positivity
  calc farthest step i ≤ farthest step i + step := le_add_of_nonneg_right h
    _ ≤ (farthest step i + step) * (1 + unit) := le_mul_of_one_le_right hpos one_le_one_add_unit
    _ ≤ farthest step (i + 1) := farthest_succ h i

theorem le_farthest_of_mem {step place : Rat} {count i x : Nat}
    (hstep : 2 ^ (-1022 : Int) ≤ step) (hzero : 0 ≤ place) (hplace : place ≤ farthest step i)
    (hx : x ∈ samplesFrom step count place) : (x : Rat) ≤ farthest step (i + count - 1) := by
  have hpos : 0 ≤ step := (two_zpow_pos _).le.trans hstep
  induction count generalizing place i with
  | zero => simp [samplesFrom] at hx
  | succ count ih =>
    rcases List.mem_cons.1 hx with rfl | hx
    · calc ((truncate place).toNat : Rat) ≤ place := toNat_truncate_le hzero
        _ ≤ farthest step i := hplace
        _ ≤ farthest step (i + (count + 1) - 1) := farthest_mono hpos (by omega)
    · have hsum : 2 ^ (-1022 : Int) ≤ place + step := le_add_of_nonneg_of_le hzero hstep
      have hnext : nearest (place + step) ≤ farthest step (i + 1) := by
        refine le_trans (nearest_le hsum) (le_trans ?_ (farthest_succ hpos i))
        exact mul_le_mul_of_nonneg_right (add_le_add_left hplace step) one_add_unit_nonneg
      have hle := ih (nearest_nonneg ((two_zpow_pos _).le.trans hsum)) hnext hx
      rwa [show i + 1 + count - 1 = i + (count + 1) - 1 by omega] at hle

/-- Factors that round up are made up for by one that takes off as much for each. -/
theorem one_add_unit_pow_mul_le (n : Nat) : (1 + unit) ^ n * (1 - n * unit) ≤ 1 := by
  have hsmall : unit ≤ 1 := by norm_num [unit, precision]
  have hbernoulli : 1 - n * unit ≤ (1 - unit) ^ n := by
    have h := one_add_mul_le_pow (a := -unit) (by linarith [unit_pos]) n
    rwa [mul_neg, ← sub_eq_add_neg, ← sub_eq_add_neg] at h
  have hsquare : (1 + unit) * (1 - unit) ≤ 1 := by nlinarith [unit_pos]
  calc (1 + unit) ^ n * (1 - n * unit)
      ≤ (1 + unit) ^ n * (1 - unit) ^ n :=
        mul_le_mul_of_nonneg_left hbernoulli (pow_nonneg one_add_unit_nonneg n)
    _ = ((1 + unit) * (1 - unit)) ^ n := (mul_pow _ _ n).symm
    _ ≤ 1 := pow_le_one₀ (mul_nonneg one_add_unit_nonneg (sub_nonneg.2 hsmall)) hsquare

/-- The rounding of fewer than `2 ^ 26` additions comes to less than half a step. -/
theorem half_step_covers_rounding (hpos : 0 < new) (h : new < 2 ^ 26) :
    (new - 1 / 2 : Rat) * (1 + unit) ^ (new + 1) < new := by
  have hpower : (0 : Rat) < (1 + unit) ^ (new + 1) := pow_pos (by linarith [unit_pos]) _
  have hroom : ((2 * new * (new + 1) : Nat) : Rat) * unit < 1 := by
    have hnat : 2 * new * (new + 1) < 2 ^ precision :=
      calc 2 * new * (new + 1) ≤ 2 * (2 ^ 26 - 1) * 2 ^ 26 := by gcongr <;> omega
        _ < 2 ^ precision := by decide
    rw [unit, mul_one_div, div_lt_one (by positivity)]
    exact_mod_cast hnat
  have hhalf : (new - 1 / 2 : Rat) < new * (1 - (new + 1 : Nat) * unit) := by
    push_cast at hroom ⊢
    linarith
  calc (new - 1 / 2 : Rat) * (1 + unit) ^ (new + 1)
      < new * (1 - (new + 1 : Nat) * unit) * (1 + unit) ^ (new + 1) :=
        mul_lt_mul_of_pos_right hhalf hpower
    _ = new * ((1 + unit) ^ (new + 1) * (1 - (new + 1 : Nat) * unit)) := by ring
    _ ≤ new := mul_le_of_le_one_right (Nat.cast_nonneg new) (one_add_unit_pow_mul_le _)

/-- The step from one sample to the next is the ratio of the sizes but for its rounding. -/
theorem sampleStep_bounds (hold : 0 < old) (hpos : 0 < new) (hbound : new ≤ 2 ^ precision) :
    2 ^ (-1022 : Int) * 2 ≤ nearest ((old : Rat) / new) ∧
      nearest ((old : Rat) / new) ≤ (old : Rat) / new * (1 + unit) := by
  have hratio := small_le_ratio hold hpos hbound
  have hsmall : (2 : Rat) ^ (-1022 : Int) ≤ old / new :=
    le_trans (zpow_le_zpow_right₀ (by norm_num) (by norm_num)) hratio
  have hhalf : (1 / 2 : Rat) ≤ 1 - unit := by norm_num [unit, precision]
  refine ⟨?_, nearest_le hsmall⟩
  calc (2 : Rat) ^ (-1022 : Int) * 2 = 2 ^ (-1020 : Int) * (1 / 2) := by
        rw [show (-1020 : Int) = -1022 + 1 + 1 by decide, zpow_add_one₀ two_ne_zero,
          zpow_add_one₀ two_ne_zero]
        ring
    _ ≤ (old : Rat) / new * (1 - unit) :=
        mul_le_mul hratio hhalf (by norm_num) ((two_zpow_pos _).le.trans hratio)
    _ ≤ nearest ((old : Rat) / new) := le_nearest hsmall

/-- The middle of the last of the new pixels is half a step before the end, and the rounding of the
steps up to it comes to less. -/
theorem farthest_last_lt {step : Rat} (hold : 0 < old) (hpos : 0 < new) (hnew : new < 2 ^ 26)
    (hstep : step ≤ (old : Rat) / new * (1 + unit)) : farthest step (new - 1) < old := by
  have hnewPos : (0 : Rat) < new := Nat.cast_pos.2 hpos
  have hcover := half_step_covers_rounding hpos hnew
  have hindex : ((new - 1 : Nat) : Rat) + 1 / 2 = new - 1 / 2 := by
    rw [Nat.cast_pred hpos]
    ring
  have hmiddle : (0 : Rat) ≤ new - 1 / 2 := by
    have hone : (1 : Rat) ≤ new := Nat.one_le_cast.2 hpos
    linarith
  calc farthest step (new - 1)
      = (new - 1 / 2) * step * (1 + unit) ^ new := by
        rw [farthest, hindex, Nat.sub_add_cancel hpos]
    _ ≤ (new - 1 / 2) * (old / new * (1 + unit)) * (1 + unit) ^ new := by
        have hpower := pow_nonneg one_add_unit_nonneg new
        gcongr
    _ = old / new * ((new - 1 / 2) * (1 + unit) ^ (new + 1)) := by ring
    _ < old / new * new := mul_lt_mul_of_pos_left hcover (by positivity)
    _ = old := div_mul_cancel₀ _ hnewPos.ne'

/-- **The samples of fewer than `2 ^ 26` new pixels are old ones.** -/
theorem lt_of_mem_samples {x : Nat} (hold : 0 < old) (hnew : new < 2 ^ 26)
    (hx : x ∈ samples old new) : x < old := by
  have hpos : 0 < new := by
    rcases Nat.eq_zero_or_pos new with rfl | hpos
    · simp [samples, samplesFrom] at hx
    · exact hpos
  obtain ⟨hstep, hstep'⟩ := sampleStep_bounds hold hpos (hnew.le.trans (by decide))
  unfold samples at hx
  dsimp only at hx
  generalize nearest ((old : Rat) / new) = step at *
  have htiny : (0 : Rat) < 2 ^ (-1022 : Int) := two_zpow_pos _
  have hhalf : 2 ^ (-1022 : Int) ≤ step / 2 := (le_div_iff₀ two_pos).2 hstep
  have hfirst : nearest (step / 2) ≤ farthest step 0 := by
    refine le_trans (nearest_le hhalf) (le_of_eq ?_)
    rw [farthest, Nat.cast_zero]
    ring
  have hle := le_farthest_of_mem (by linarith) (nearest_nonneg (htiny.le.trans hhalf)) hfirst hx
  rw [Nat.zero_add] at hle
  exact_mod_cast hle.trans_lt (farthest_last_lt hold hpos hnew hstep')

/-! ### The pixels -/

namespace Raster

theorem pixel?_generate (width height : Nat) (f : Nat → Nat → α) (x y : Nat) :
    (generate width height f).pixel? x y
      = if x < width ∧ y < height then some (f x y) else none := by
  by_cases hy : y < height <;> by_cases hx : x < width <;> simp [generate, pixel?, hx, hy]

theorem generate_congr {f g : Nat → Nat → α} (h : ∀ x < width, ∀ y < height, f x y = g x y) :
    generate width height f = generate width height g := by
  unfold generate
  congr 2
  funext y
  congr 1
  funext x
  exact h x x.isLt y y.isLt

/-- A raster has a pixel at each of its places. -/
def IsWhole (r : Raster α) : Prop := ∀ x < r.width, ∀ y < r.height, ∃ c, r.pixel? x y = some c

theorem isWhole_generate (width height : Nat) (f : Nat → Nat → α) :
    (generate width height f).IsWhole := fun x hx y hy =>
  ⟨f x y, by rw [pixel?_generate, if_pos ⟨hx, hy⟩]⟩

/-- Two rasters differ in one row at most. -/
def AgreeBeside (row : Nat) (r r' : Raster α) : Prop :=
  r.width = r'.width ∧ r.height = r'.height ∧ ∀ x y, y ≠ row → r.pixel? x y = r'.pixel? x y

end Raster

/-- The samples along an axis are old pixels. -/
def SamplesWithin (old new : Nat) : Prop := ∀ i ∈ samples old new, i < old

theorem samplesWithin_of_lt (hold : 0 < old) (hnew : new < 2 ^ 26) : SamplesWithin old new :=
  fun _ hx => lt_of_mem_samples hold hnew hx

theorem length_samplesFrom (step : Rat) (count : Nat) (place : Rat) :
    (samplesFrom step count place).length = count := by
  induction count generalizing place with
  | zero => rfl
  | succ count ih => rw [samplesFrom, List.length_cons, ih]

theorem length_samples (old new : Nat) : (samples old new).length = new :=
  length_samplesFrom _ new _

theorem getD_samples_mem {i : Nat} (h : i < new) :
    (samples old new).toArray.getD i 0 ∈ samples old new := by
  have hlt : i < (samples old new).length := (length_samples old new).symm ▸ h
  simp [Array.getD, hlt]

/-- **Nearest scaling copies pixels.** -/
theorem Raster.exists_pixel?_of_scaleNearest {r : Raster α} (hr : r.IsWhole) {missing c : α}
    (hwidth : SamplesWithin r.width width) (hheight : SamplesWithin r.height height) {x y : Nat}
    (h : (r.scaleNearest width height missing).pixel? x y = some c) :
    ∃ x' y', r.pixel? x' y' = some c := by
  unfold Raster.scaleNearest at h
  dsimp only at h
  rw [pixel?_generate] at h
  split_ifs at h with hin
  have hx := hwidth _ (getD_samples_mem hin.1)
  have hy := hheight _ (getD_samples_mem hin.2)
  obtain ⟨c', hc'⟩ := hr _ hx _ hy
  rw [hc'] at h
  exact ⟨_, _, hc'.trans h⟩

/-- **Nearest scaling to fewer rows drops some**: there is a row of which nothing is left. -/
theorem Raster.exists_row_dropped {r : Raster α} (hheight : height < r.height) (missing : α) :
    ∃ row < r.height, ∀ r' : Raster α, AgreeBeside row r' r →
      r'.scaleNearest width height missing = r.scaleNearest width height missing := by
  obtain ⟨row, hrow, hnot⟩ : ∃ row ∈ Finset.range r.height,
      row ∉ (samples r.height height).toFinset := by
    apply Finset.exists_mem_notMem_of_card_lt_card
    rw [Finset.card_range]
    refine lt_of_le_of_lt (List.toFinset_card_le _) ?_
    rwa [length_samples]
  rw [List.mem_toFinset] at hnot
  refine ⟨row, Finset.mem_range.1 hrow, ?_⟩
  rintro r' ⟨hw, hh, hagree⟩
  unfold Raster.scaleNearest
  dsimp only
  rw [hw, hh]
  apply generate_congr
  intro x hx y hy
  rw [hagree]
  rintro rfl
  exact hnot (getD_samples_mem hy)

/-! ### The picture -/

/-- The picture that a kind of scaling makes of another; `smoothed` is what blurring and smoothing
it give. -/
def Scaling.picture (s : Scaling) (r smoothed : Raster α) (missing : α) (width height : Nat) :
    Raster α :=
  match s with
  | .kept => r
  | .nearest => r.scaleNearest width height missing
  | .smooth => smoothed

theorem choice_eq_kept_iff :
    choice oldWidth oldHeight width height = .kept ↔ oldWidth = width ∧ oldHeight = height := by
  unfold choice
  split_ifs with hsame hless <;> simp [hsame]

theorem choice_eq_nearest_iff :
    choice oldWidth oldHeight width height = .nearest ↔ oldWidth < width := by
  unfold choice
  split_ifs with hsame hless
  · simp [hsame.1]
  · simp [hless]
  · simp [hless]

theorem choice_eq_smooth_iff :
    choice oldWidth oldHeight width height = .smooth ↔
      width ≤ oldWidth ∧ ¬ (oldWidth = width ∧ oldHeight = height) := by
  unfold choice
  split_ifs with hsame hless
  · simp [hsame]
  · simp [hless]
  · simp [hsame, not_lt.1 hless]

/-- A frame has the size that is asked for, and its picture is scaled as the widths choose. -/
theorem frame_eq {room : Room} {source : Source} (hw : 0 < width) (hh : 0 < height)
    (hroom : (choice source.width source.height width height).HasRoom room width height)
    (hopacity : source.withOpacity room width height = .ok ())
    (steps caption fontSize : Value) (fonts : Fonts) :
    frame room source (.int width) (.int height) steps caption fontSize fonts
      = ((captionRequests fonts height (.int width, .int height) steps caption
          fontSize).mapError .caption).map fun requests =>
        ⟨width, height, choice source.width source.height width height, !source.hasAlpha,
          requests⟩ := by
  unfold frame
  rw [(looseScaling_eq_ok_iff hw hh).2 ⟨rfl, hroom⟩, ok_mapError, ok_bind]
  dsimp only [Value.integer?, Option.getD_some]
  rw [hopacity, ok_mapError, ok_bind]
  cases captionRequests fonts height (.int width, .int height) steps caption fontSize <;> rfl

/-- **A picture is scaled as the widths choose.**  It gets the size that is asked for, in a frame
too, and unless it is smoothed its pixels are pixels that it had.  That it is smoothed if and only
if one of its sides gets shorter is true but for two cases: a picture that gets wider and less high
is not smoothed, and there is a row of which nothing is left; and one that keeps its width and gets
higher is smoothed. -/
theorem scaled_by_widths {room : Room} {r smoothed : Raster α} (missing : α) (hr : r.IsWhole)
    (hw : 0 < width) (hh : 0 < height)
    (hwidth : SamplesWithin r.width width) (hheight : SamplesWithin r.height height)
    (hsmoothed : smoothed.width = width ∧ smoothed.height = height)
    (hroom : (choice r.width r.height width height).HasRoom room width height) :
    ∃ s, looseScaling room r.width r.height (.int width) (.int height) = .ok s ∧
      (∀ hasAlpha steps caption fontSize fonts,
        Source.withOpacity ⟨r.width, r.height, hasAlpha⟩ room width height = .ok () →
        frame room ⟨r.width, r.height, hasAlpha⟩ (.int width) (.int height) steps caption fontSize
            fonts
          = ((captionRequests fonts height (.int width, .int height) steps caption
              fontSize).mapError .caption).map fun requests =>
            ⟨width, height, s, !hasAlpha, requests⟩) ∧
      ((s.picture r smoothed missing width height).width = width ∧
        (s.picture r smoothed missing width height).height = height) ∧
      (s ≠ .smooth → ∀ x y c, (s.picture r smoothed missing width height).pixel? x y = some c →
        ∃ x' y', r.pixel? x' y' = some c) ∧
      ((s = .smooth ↔ width < r.width ∨ height < r.height) ↔
        ¬ (r.width < width ∧ height < r.height) ∧ ¬ (r.width = width ∧ r.height < height)) ∧
      (r.width < width → height < r.height → ∃ row < r.height, ∀ r' : Raster α,
        Raster.AgreeBeside row r' r →
          s.picture r' smoothed missing width height
            = s.picture r smoothed missing width height) := by
  refine ⟨_, (looseScaling_eq_ok_iff hw hh).2 ⟨rfl, hroom⟩,
    fun hasAlpha steps caption fontSize fonts hopacity =>
      frame_eq hw hh hroom hopacity steps caption fontSize fonts, ?_, ?_, ?_, ?_⟩
  · cases hs : choice r.width r.height width height with
    | kept => exact choice_eq_kept_iff.1 hs
    | nearest => exact ⟨rfl, rfl⟩
    | smooth => exact hsmoothed
  · intro hs x y c hc
    cases hs' : choice r.width r.height width height with
    | kept =>
      rw [hs'] at hc
      exact ⟨x, y, hc⟩
    | nearest =>
      rw [hs'] at hc
      exact Raster.exists_pixel?_of_scaleNearest hr hwidth hheight hc
    | smooth => exact absurd hs' hs
  · rw [choice_eq_smooth_iff]
    omega
  · intro hwider hlower
    rw [choice_eq_nearest_iff.2 hwider]
    exact Raster.exists_row_dropped hlower missing

/-- A picture of four rows, each of its own colour. -/
def fourRows : Raster Nat := .generate 2 4 fun _ y => y

/-- Of four rows that become two, there is one of which nothing is left, since they get longer. -/
theorem scaled_by_widths_of_fourRows :
    looseScaling .boundless 2 4 (.int 4) (.int 2) = .ok .nearest ∧
      ∃ row < 4, ∀ r' : Raster Nat, Raster.AgreeBeside row r' fourRows →
        r'.scaleNearest 4 2 0 = fourRows.scaleNearest 4 2 0 := by
  have hwhole : fourRows.IsWhole := Raster.isWhole_generate 2 4 _
  have hwidth : SamplesWithin 2 4 := samplesWithin_of_lt (by decide) (by decide)
  have hheight : SamplesWithin 4 2 := samplesWithin_of_lt (by decide) (by decide)
  have hroom : (choice 2 4 4 2).HasRoom .boundless 4 2 := .inr ⟨by decide, rfl⟩
  have hsize : (Raster.solid 4 2 0).width = 4 ∧ (Raster.solid 4 2 0).height = 2 := ⟨rfl, rfl⟩
  obtain ⟨s, hs, -, -, -, -, hdropped⟩ :=
    scaled_by_widths 0 hwhole (by decide) (by decide) hwidth hheight hsize hroom
  obtain rfl : s = .nearest := ((looseScaling_eq_ok_iff (by decide) (by decide)).1 hs).1
  exact ⟨hs, hdropped (by decide) (by decide)⟩

/-- **Not every picture that shrinks is smoothed, nor does every one that is smoothed shrink**: of
four rows that get longer and become two, the first and the third are lost without a trace; and two
rows that become four are blurred. -/
theorem shrinking_not_smoothed :
    looseScaling .boundless 2 4 (.int 4) (.int 2) = .ok .nearest ∧
      (fourRows.scaleNearest 4 2 0).rows = #[#[1, 1, 1, 1], #[3, 3, 3, 3]] ∧
      looseScaling .boundless 2 2 (.int 2) (.int 4) = .ok .smooth := by
  have hroom {s : Scaling} : s.HasRoom .boundless 4 2 := .inr ⟨by decide, rfl⟩
  have hroom' {s : Scaling} : s.HasRoom .boundless 2 4 := .inr ⟨by decide, rfl⟩
  refine ⟨?_, by decide +kernel, ?_⟩
  · exact (looseScaling_eq_ok_iff (by decide) (by decide)).2 ⟨by decide, hroom⟩
  · exact (looseScaling_eq_ok_iff (by decide) (by decide)).2 ⟨by decide, hroom'⟩

end TapeMachine.Picture
