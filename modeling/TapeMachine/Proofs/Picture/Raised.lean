import TapeMachine.Picture.StandardLibrary
import TapeMachine.Proofs.Binary64.Nearest
import TapeMachine.Proofs.Picture.PixelLaw

/-!
# What is raised when pictures are made

With fonts that raise nothing but what is expected (`Fonts.RaisesExpected`), nothing else comes of a
frame of a diagram that keeps its size: `Fonts.RaisesExpected.frame_error`.  Beside the calls for
fonts there are only differences, of the edges of boxes and of lengths that are not much longer than
the sides of the diagram (`scaledLength_bounds`).  The edges may be decimals, but words of 32 bits
hold the sides (`Diagram.sides_of_draw`), so none of the lengths is too large for a double and the
text has its place (`exists_placeText`).
-/

namespace TapeMachine

namespace Value

open TapeMachine.Binary64

variable {v w : Value} {n : Int}

/-- A number that is a double, or a whole one that is not too large for a double. -/
def HasDouble (v : Value) : Prop := ∃ x, v.asDouble? = some (.ok x)

/-- A number as it comes of a difference: a whole one or a double. -/
def IsDifference (v : Value) : Prop := (∃ n, v = .int n) ∨ ∃ x, v = .double x

theorem hasDouble_int (h : n.natAbs ≤ 2 ^ precision) : (Value.int n).HasDouble := by
  have hfinite : nearestDouble n = .finite (nearest n < 0) (nearest n).abs := by
    unfold nearestDouble
    dsimp only
    rw [if_neg (not_le.2 (abs_nearest_lt_tooLarge h))]
  refine ⟨.finite (nearest n < 0) (nearest n).abs, ?_⟩
  simp [asDouble?, whole?, hfinite]

theorem exists_minus (hv : v.HasDouble) (hw : w.HasDouble) :
    ∃ u, v.minus w = .ok u ∧ u.IsDifference := by
  obtain ⟨x, hx⟩ := hv
  obtain ⟨y, hy⟩ := hw
  unfold minus arithmetic
  split
  · exact ⟨_, rfl, .inl ⟨_, rfl⟩⟩
  · rw [hx, hy]
    exact ⟨_, rfl, .inr ⟨_, rfl⟩⟩

theorem IsDifference.exists_minus_int (hv : v.IsDifference) (hn : n.natAbs ≤ 2 ^ precision) :
    ∃ u, v.minus (.int n) = .ok u ∧ u.IsDifference := by
  obtain ⟨m, rfl⟩ | ⟨x, rfl⟩ := hv
  · exact ⟨_, minus_int m n, .inl ⟨_, rfl⟩⟩
  · exact exists_minus ⟨x, rfl⟩ (hasDouble_int hn)

theorem IsDifference.exists_int_minus (hv : v.IsDifference) (hn : n.natAbs ≤ 2 ^ precision) :
    ∃ u, (Value.int n).minus v = .ok u ∧ u.IsDifference := by
  obtain ⟨m, rfl⟩ | ⟨x, rfl⟩ := hv
  · exact ⟨_, minus_int n m, .inl ⟨_, rfl⟩⟩
  · exact exists_minus (hasDouble_int hn) ⟨x, rfl⟩

end Value

namespace Picture

open TapeMachine.Binary64

variable {fonts : Fonts} {width height : Nat}

/-! ### The place of a caption -/

/-- A length given for the reference height grows with the height but for some rounding. -/
theorem scaledLength_bounds (length : Rat) (hone : 1 ≤ length) (hlength : length ≤ referenceHeight)
    (hheight : 0 < height) :
    0 ≤ scaledLength length height ∧ scaledLength length height ≤ 4 * height := by
  have hsmall : (2 : Rat) ^ (-1022 : Int) ≤ 1 / 2160 := by
    refine le_trans (zpow_le_zpow_right₀ one_le_two (show -1022 ≤ -12 by decide)) ?_
    norm_num
  have hratio : (1 / 1080 : Rat) ≤ height / referenceHeight :=
    div_le_div_of_nonneg_right (Nat.one_le_cast.2 hheight) (by norm_num [referenceHeight])
  obtain ⟨hlow, hhigh⟩ := nearest_between (q := height / referenceHeight) (by linarith)
  have hproduct : 1 * nearest (height / referenceHeight)
      ≤ length * nearest (height / referenceHeight) :=
    mul_le_mul_of_nonneg_right hone (by linarith)
  obtain ⟨hlow', hhigh'⟩ :=
    nearest_between (q := length * nearest (height / referenceHeight)) (by linarith)
  have hlast : nearest (length * nearest (height / referenceHeight)) ≤ (4 * height : Int) := by
    calc nearest (length * nearest (height / referenceHeight))
        ≤ length * nearest (height / referenceHeight) * 2 := hhigh'
      _ ≤ referenceHeight * (height / referenceHeight * 2) * 2 := by
          refine mul_le_mul_of_nonneg_right ?_ two_pos.le
          exact mul_le_mul hlength hhigh (by linarith) (by norm_num [referenceHeight])
      _ = (4 * height : Int) := by
          rw [referenceHeight]
          push_cast
          ring
  have hzero : 0 ≤ nearest (length * nearest (height / referenceHeight)) := by linarith
  exact ⟨truncate_nonneg hzero, Int.cast_le.1 ((truncate_le hzero).trans hlast)⟩

/-- The edges of a box are numbers, and not too large for doubles. -/
structure TextBox.HasDoubles (b : TextBox) : Prop where
  left : b.left.HasDouble
  top : b.top.HasDouble
  right : b.right.HasDouble
  bottom : b.bottom.HasDouble

/-- A text has its place in a frame whose sides are held by words of 32 bits. -/
theorem exists_placeText {text digits : TextBox} (htext : text.HasDoubles)
    (hdigits : digits.HasDoubles) (hheight : 0 < height)
    (hw : (width : Int) < Value.wordLimit) (hh : (height : Int) < Value.wordLimit) :
    ∃ place, placeText height (.int width, .int height) text digits = .ok place := by
  have hbounds (length : Rat) (hone : 1 ≤ length) (hlength : length ≤ 1080) :=
    scaledLength_bounds length hone hlength hheight
  obtain ⟨hright, hright'⟩ : 0 ≤ rightMargin height ∧ rightMargin height ≤ 4 * height :=
    hbounds 25 (by norm_num) (by norm_num)
  obtain ⟨hbottom, hbottom'⟩ : 0 ≤ bottomMargin height ∧ bottomMargin height ≤ 4 * height :=
    hbounds 10 (by norm_num) (by norm_num)
  have hprecision : 5 * Value.wordLimit ≤ (2 ^ precision : Nat) := by decide
  obtain ⟨textWidth, htextWidth, hwidth⟩ := Value.exists_minus htext.right htext.left
  obtain ⟨textHeight, htextHeight, hheight⟩ := Value.exists_minus hdigits.bottom hdigits.top
  obtain ⟨x, hx, -⟩ := hwidth.exists_int_minus (n := width - rightMargin height) (by omega)
  obtain ⟨y, hy, hbelow⟩ := hheight.exists_int_minus (n := height - bottomMargin height) (by omega)
  obtain ⟨z, hz, -⟩ := hbelow.exists_minus_int (n := bottomMargin height) (by omega)
  refine ⟨(x, z), ?_⟩
  unfold placeText
  rw [htextWidth, ok_bind, htextHeight, ok_bind, Value.minus_int, ok_bind, Value.minus_int, ok_bind,
    hx, ok_bind, hy, ok_bind, hz, ok_bind]
  rfl

/-! ### What is raised -/

/-- Words of 32 bits hold the sides of a diagram that is drawn, and it has a row. -/
theorem Diagram.sides_of_draw {room : Room} {cs : List Configuration} {cellSize : Int}
    {palette : Option (List Color)} {img : Raster Color}
    (h : draw room cs cellSize palette = .ok img) :
    0 < img.height ∧ (img.width : Int) < Value.wordLimit ∧
      (img.height : Int) < Value.wordLimit := by
  cases cs with
  | nil => cases h
  | cons c rest =>
    have hsize : 1 ≤ cellSize := by
      by_contra hless
      rw [draw, if_pos (by omega)] at h
      cases h
    rw [(draws_paint hsize palette).checked room] at h
    obtain ⟨size, hcheck, rfl⟩ := map_eq_ok_iff.1 h
    obtain ⟨-, ⟨-, hw⟩, ⟨-, hh⟩, -⟩ :=
      Size.check_int_eq_ok_iff.1 (mapError_eq_ok_iff.1 hcheck)
    have hside : 0 < cellSize.toNat := by omega
    refine ⟨?_, hw, hh⟩
    rw [height_paint]
    exact Nat.mul_pos (Nat.succ_pos _) hside

/-- **Fonts raise nothing but what is expected**, and measure in numbers. -/
structure Fonts.RaisesExpected (fonts : Fonts) : Prop where
  find : ∀ {family r}, fonts.find family = .error r → r.isExpected
  load : ∀ {path size r}, fonts.load path size = .error r → r.isExpected
  default : ∀ {r}, fonts.default = .error r → r.isExpected
  box : ∀ {text font r}, fonts.box text font = .error r → r.isExpected
  write : ∀ {x y text font r}, fonts.write x y text font = .error r → r.isExpected
  measured : ∀ {text font b}, fonts.box text font = .ok b → b.HasDoubles

theorem Fonts.raisesExpected_absent : Fonts.absent.RaisesExpected where
  find h := Except.error.inj h ▸ rfl
  load h := Except.error.inj h ▸ rfl
  default := nofun
  box h := by
    unfold Fonts.absent at h
    dsimp only at h
    split at h
    · cases h
    · exact Except.error.inj h ▸ rfl
  write := nofun
  measured h := by
    unfold Fonts.absent at h
    dsimp only at h
    split at h
    · exact Except.ok.inj h ▸ ⟨⟨_, rfl⟩, ⟨_, rfl⟩, ⟨_, rfl⟩, ⟨_, rfl⟩⟩
    · cases h

namespace Fonts.RaisesExpected

theorem loadFont_error (hf : fonts.RaisesExpected) {size : Value} {r : Raised}
    (h : (loadFont fonts size).1 = .error r) : r.isExpected := by
  unfold loadFont at h
  dsimp only at h
  split at h
  · next hfind =>
    obtain rfl := Except.error.inj h
    exact hf.find hfind
  · exact hf.load h

theorem chooseFont_error (hf : fonts.RaisesExpected) {size : Value} {r : Raised}
    (h : chooseFont fonts size = .error r) : r.isExpected := by
  unfold chooseFont at h
  dsimp only at h
  split at h
  · cases h
  · next hload =>
    rw [if_pos (hf.loadFont_error hload)] at h
    exact hf.default (map_eq_error_iff.1 h)

theorem captionRequests_error (hf : fonts.RaisesExpected) (hheight : 0 < height)
    (hw : (width : Int) < Value.wordLimit) (hh : (height : Int) < Value.wordLimit) {steps : Int}
    {caption fontSize : Value} {f : CaptionFault}
    (h : captionRequests fonts height (.int width, .int height) (.int steps) caption fontSize
      = .error f) : f.isExpected := by
  rcases bind_eq_error_iff.1 h with h | ⟨text, -, h⟩
  · cases h
  rcases bind_eq_error_iff.1 h with h | ⟨⟨font, opened⟩, -, h⟩
  · obtain ⟨r, hr, rfl⟩ := mapError_eq_error_iff.1 h
    exact hf.chooseFont_error hr
  rcases bind_eq_error_iff.1 h with h | ⟨textBox, htext, h⟩
  · obtain ⟨r, hr, rfl⟩ := mapError_eq_error_iff.1 h
    exact hf.box hr
  rcases bind_eq_error_iff.1 h with h | ⟨digitBox, hdigits, h⟩
  · obtain ⟨r, hr, rfl⟩ := mapError_eq_error_iff.1 h
    exact hf.box hr
  rcases bind_eq_error_iff.1 h with h | ⟨⟨x, y⟩, -, h⟩
  · obtain ⟨place, hplace⟩ := exists_placeText (hf.measured (mapError_eq_ok_iff.1 htext))
      (hf.measured (mapError_eq_ok_iff.1 hdigits)) hheight hw hh
    rw [hplace] at h
    cases h
  rcases bind_eq_error_iff.1 h with h | ⟨-, -, h⟩
  · obtain ⟨r, hr, rfl⟩ := mapError_eq_error_iff.1 h
    exact hf.write hr
  · cases h

/-- **What is raised for a frame is expected**, if the frame keeps the size of its picture and words
of 32 bits hold its sides. -/
theorem frame_error (hf : fonts.RaisesExpected) {room : Room} (source : Source)
    (hopacity : ∀ {r}, room.addOpacity source.width source.height = .error r → r.isExpected)
    (hheight : 0 < source.height) (hw : (source.width : Int) < Value.wordLimit)
    (hh : (source.height : Int) < Value.wordLimit) {steps : Int} {caption fontSize : Value}
    {f : FrameFault}
    (h : frame room source (.int source.width) (.int source.height) (.int steps) caption fontSize
      fonts = .error f) : f.isExpected := by
  have hkept : looseScaling room source.width source.height (.int source.width)
      (.int source.height) = .ok .kept := if_pos (by simp)
  unfold frame at h
  rw [hkept, ok_mapError, ok_bind] at h
  rcases bind_eq_error_iff.1 h with h | ⟨-, -, h⟩
  · obtain ⟨r, hr, rfl⟩ := mapError_eq_error_iff.1 h
    unfold Source.withOpacity at hr
    split at hr
    · cases hr
    · exact hopacity hr
  rcases bind_eq_error_iff.1 h with h | ⟨requests, -, h⟩
  · obtain ⟨f, hf', rfl⟩ := mapError_eq_error_iff.1 h
    exact hf.captionRequests_error hheight hw hh hf'
  · cases h

end Fonts.RaisesExpected

end Picture

end TapeMachine
