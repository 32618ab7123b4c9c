import TapeMachine.Proofs.Picture.PixelLaw

/-!
# Diagrams of growing prefixes

The diagram of the first configurations of a list is a crop of the diagram of all of them.  The
symbols met in the first ones are a prefix of all symbols, so each keeps its rank and its colour
(`symbolsOf_take`); what is drawn of a cell depends on nothing else (`shade_congr`); and the
columns of the first ones are among all columns, a number of them from the left (`draw_take`).
-/

namespace TapeMachine.Picture

/-- Where there is a raster, there is one that is not larger. -/
theorem Size.check_of_le {room : Room} {w h w' h' : Int} {size : Int × Int}
    (hcheck : Size.check room (.int w) (.int h) = .ok size) (hw : 0 ≤ w') (hw' : w' ≤ w)
    (hh : 0 ≤ h') (hh' : h' ≤ h) : Size.check room (.int w') (.int h') = .ok (w', h') := by
  obtain ⟨-, ⟨-, hwide⟩, ⟨-, htall⟩, hnew⟩ := Size.check_int_eq_ok_iff.1 hcheck
  have hlimit : 0 ≤ Value.wordLimit := by decide
  exact Size.check_int_eq_ok_iff.2
    ⟨rfl, ⟨by omega, by omega⟩, ⟨by omega, by omega⟩, room.new_of_le hnew hw hw' hh hh'⟩

namespace Diagram

variable {style style' : Style} {c d : Configuration} {rest : List Configuration} {n : Nat}

theorem symbolsOf_take (cs : List Configuration) (k : Nat) :
    symbolsOf (cs.take k) <+: symbolsOf cs := by
  have hsplit := congrArg symbolsOf (List.take_append_drop k cs)
  unfold symbolsOf at hsplit ⊢
  rw [List.flatMap_append, meetAll_append] at hsplit
  rw [← hsplit]
  exact prefix_meetAll ..

/-- The rank of a symbol is told by the first configurations that hold it. -/
theorem rank_take {cs : List Configuration} {k : Nat} {s : Char} (hs : s ∈ symbolsOf (cs.take k)) :
    rank (cs.take k) s = rank cs s := by
  obtain ⟨later, hlater⟩ := symbolsOf_take cs k
  have hall : s ∈ symbolsOf cs := hlater ▸ List.mem_append_left _ hs
  rw [← idxOf_symbolsOf hs, ← idxOf_symbolsOf hall, ← hlater, List.idxOf_append_of_mem hs]

/-- What is drawn of a row depends on the side of the boxes and the colours of its symbols. -/
theorem shade_congr {symbols symbols' cells : List Char} {first head p : Int} {edge : Bool}
    {color : Color} (hside : style.side = style'.side)
    (hcolors : ∀ s ∈ cells, s ≠ blank → colorOf style symbols s = colorOf style' symbols' s) :
    shade style symbols first head cells p edge color
      = shade style' symbols' first head cells p edge color := by
  unfold shade
  cases hcell : (if first ≤ p then cells[(p - first).toNat]? else none) with
  | none => rfl
  | some s =>
    have hs : s ∈ cells := by
      split at hcell
      · exact List.mem_of_getElem? hcell
      · contradiction
    by_cases hblank : s = blank
    · simp only [hside, if_pos hblank]
    · simp only [hside, if_neg hblank, hcolors s hs hblank]

theorem Draws.draw_eq_ok_iff {room : Room} {cs : List Configuration} {cellSize : Int}
    {palette : Option (List Color)} {img : Raster Color} (h : Draws cs cellSize palette img) :
    draw room cs cellSize palette = .ok img ↔
      ∃ size, Size.check room (.int img.width) (.int img.height) = .ok size := by
  rw [h.checked]
  cases Size.check room (.int img.width) (.int img.height) with
  | error f => exact ⟨nofun, nofun⟩
  | ok size => exact ⟨fun _ => ⟨size, rfl⟩, fun _ => rfl⟩

/-- A picture that is not larger than one that is drawn is drawn. -/
theorem Draws.draw_of_le {room : Room} {cs cs' : List Configuration} {cellSize : Int}
    {palette : Option (List Color)} {img img' : Raster Color} (h : Draws cs cellSize palette img)
    (h' : Draws cs' cellSize palette img') (hwidth : img'.width ≤ img.width)
    (hheight : img'.height ≤ img.height) (hdraw : draw room cs cellSize palette = .ok img) :
    draw room cs' cellSize palette = .ok img' := by
  obtain ⟨size, hcheck⟩ := h.draw_eq_ok_iff.1 hdraw
  refine h'.draw_eq_ok_iff.2 ⟨_, Size.check_of_le hcheck (Int.natCast_nonneg _) ?_
    (Int.natCast_nonneg _) ?_⟩
  · exact Int.ofNat_le.2 hwidth
  · exact Int.ofNat_le.2 hheight

theorem Draws.eq_of_draw (room : Room) {cs : List Configuration} {cellSize : Int}
    {palette : Option (List Color)} {img img' : Raster Color} (h : Draws cs cellSize palette img)
    (hdraw : draw room cs cellSize palette = .ok img') : img = img' := by
  rw [h.checked] at hdraw
  cases hcheck : Size.check room (.int img.width) (.int img.height) with
  | error f =>
    rw [hcheck] at hdraw
    contradiction
  | ok size =>
    rw [hcheck] at hdraw
    exact Except.ok.inj hdraw

/-! ### Columns -/

theorem exists_leftmost (c : Configuration) (rest : List Configuration) :
    ∃ d ∈ c :: rest, d.firstPosition = leftmost c rest := by
  rcases (isLeast_foldl_min (·.firstPosition) rest c.firstPosition).1 with h | ⟨d, hd, h⟩
  · exact ⟨c, List.mem_cons_self .., h.symm⟩
  · exact ⟨d, List.mem_cons_of_mem _ hd, h⟩

theorem exists_rightmost (c : Configuration) (rest : List Configuration) :
    ∃ d ∈ c :: rest, lastPosition d = rightmost c rest := by
  rcases (@isLeast_foldl_min _ Intᵒᵈ _ lastPosition rest (lastPosition c)).1 with h | ⟨d, hd, h⟩
  · exact ⟨c, List.mem_cons_self .., h.symm⟩
  · exact ⟨d, List.mem_cons_of_mem _ hd, h⟩

/-- The columns of the first configurations are among those of all of them. -/
theorem columns_take (c : Configuration) (rest : List Configuration) (n : Nat) :
    leftmost c rest ≤ leftmost c (rest.take n) ∧
      (leftmost c (rest.take n) - leftmost c rest).toNat + columns c (rest.take n)
        ≤ columns c rest := by
  have hsub : ∀ d ∈ c :: rest.take n, d ∈ c :: rest := fun d hd =>
    (List.cons_subset_cons c (List.take_subset n rest)) hd
  obtain ⟨d, hd, hfirst⟩ := exists_leftmost c (rest.take n)
  obtain ⟨e, he, hlast⟩ := exists_rightmost c (rest.take n)
  have hleft := leftmost_le (hsub d hd)
  have hright := le_rightmost (hsub e he)
  have hall := columns_eq c rest
  have hsome := columns_eq c (rest.take n)
  omega

/-! ### Crops -/

section Crop

variable {side x y : Nat} {palette : Option (List Color)}

theorem width_paint_take (side : Nat) (palette : Option (List Color)) (c : Configuration)
    (rest : List Configuration) (n : Nat) :
    (leftmost c (rest.take n) - leftmost c rest).toNat * side
        + (paint (styleOf c (rest.take n) side palette) c (rest.take n)).width
      ≤ (paint (styleOf c rest side palette) c rest).width := by
  obtain ⟨-, hcolumns⟩ := columns_take c rest n
  rw [width_paint, width_paint]
  show _ * side + _ * side ≤ _ * side
  rw [← Nat.add_mul]
  exact Nat.mul_le_mul_right side hcolumns

theorem height_paint_take (hn : n < (c :: rest).length) (side : Nat)
    (palette : Option (List Color)) :
    (paint (styleOf c (rest.take n) side palette) c (rest.take n)).height = (n + 1) * side ∧
      (n + 1) * side ≤ (paint (styleOf c rest side palette) c rest).height := by
  rw [height_paint, height_paint, List.length_take_of_le (Nat.le_of_lt_succ hn)]
  exact ⟨rfl, Nat.mul_le_mul_right side hn⟩

/-- The rows of the first configurations are those of all. -/
theorem exists_row_take (hside : 0 < side) (hn : n < (c :: rest).length)
    (hy : y < (paint (styleOf c (rest.take n) side palette) c (rest.take n)).height) :
    ∃ d, (c :: rest)[y / side]? = some d ∧ (c :: rest.take n)[y / side]? = some d := by
  rw [(height_paint_take hn side palette).1, ← Nat.div_lt_iff_lt_mul hside] at hy
  obtain ⟨d, hd⟩ : ∃ d, (c :: rest)[y / side]? = some d :=
    ⟨_, List.getElem?_eq_getElem (Nat.lt_of_lt_of_le hy hn)⟩
  refine ⟨d, hd, ?_⟩
  rw [← List.take_succ_cons, List.getElem?_take_of_lt hy, hd]

/-- A pixel of the first configurations is found so many columns to the right. -/
theorem pixel?_paint_take (hside : 0 < side) (hn : n < (c :: rest).length)
    (hx : x < (paint (styleOf c (rest.take n) side palette) c (rest.take n)).width)
    (hy : y < (paint (styleOf c (rest.take n) side palette) c (rest.take n)).height) :
    ∃ color,
      (paint (styleOf c (rest.take n) side palette) c (rest.take n)).pixel? x y = some color ∧
      (paint (styleOf c rest side palette) c rest).pixel?
        (x + (leftmost c (rest.take n) - leftmost c rest).toNat * side) y = some color := by
  obtain ⟨d, hd, hd'⟩ := exists_row_take hside hn hy
  obtain ⟨hleft, hcolumns⟩ := columns_take c rest n
  have hm := Int.toNat_of_nonneg (Int.sub_nonneg.2 hleft)
  have hcolumn : x / side < columns c (rest.take n) := by
    rw [width_paint] at hx
    exact (Nat.div_lt_iff_lt_mul hside).2 hx
  generalize (leftmost c (rest.take n) - leftmost c rest).toNat = m at hcolumns hm ⊢
  have hdiv : (x + m * side) / side = x / side + m := Nat.add_mul_div_right _ _ hside
  have hpart : (paint (styleOf c (rest.take n) side palette) c (rest.take n)).pixel? x y = some _ :=
    pixel?_paint hside rfl hd' hcolumn rfl
  have hwhole : (paint (styleOf c rest side palette) c rest).pixel? (x + m * side) y = some _ :=
    pixel?_paint hside rfl hd (show (x + m * side) / side < _ by omega) rfl
  -- Both are in the shade of the same place of the same row.
  have hposition : positionAt (styleOf c rest side palette) (x + m * side)
      = positionAt (styleOf c (rest.take n) side palette) x := by
    show leftmost c rest + ((x + m * side) / side : Nat)
      = leftmost c (rest.take n) + (x / side : Nat)
    omega
  have hedge : onEdge (styleOf c rest side palette) (x + m * side) y
      = onEdge (styleOf c (rest.take n) side palette) x y := by
    unfold onEdge
    show ((x + m * side) % side = 0 || (x + m * side) % side + 1 = side || _ || _) = _
    rw [Nat.add_mul_mod_self_right]
    rfl
  have hcolors : ∀ s ∈ d.cells, s ≠ blank →
      colorOf (styleOf c rest side palette) (symbolsOf (c :: rest)) s
        = colorOf (styleOf c (rest.take n) side palette) (symbolsOf (c :: rest.take n)) s := by
    intro s hs hblank
    exact colorOf_of_mem (symbolsOf_take (c :: rest) (n + 1))
      (mem_symbolsOf.2 ⟨⟨d, List.mem_of_getElem? hd', hs⟩, hblank⟩)
  rw [hposition, hedge, shade_congr rfl hcolors] at hwhole
  exact ⟨_, hpart, hwhole⟩

/-- Beside the columns of the first configurations, their rows show the background. -/
theorem pixel?_paint_beside (hside : 0 < side) (hn : n < (c :: rest).length)
    (hx : x < (paint (styleOf c rest side palette) c rest).width)
    (hy : y < (paint (styleOf c (rest.take n) side palette) c (rest.take n)).height)
    (hout : x < (leftmost c (rest.take n) - leftmost c rest).toNat * side ∨
      (leftmost c (rest.take n) - leftmost c rest).toNat * side
        + (paint (styleOf c (rest.take n) side palette) c (rest.take n)).width ≤ x) :
    (paint (styleOf c rest side palette) c rest).pixel? x y = some background := by
  obtain ⟨d, hd, hd'⟩ := exists_row_take hside hn hy
  have hmem := List.mem_of_getElem? hd'
  have hfirst : leftmost c (rest.take n) ≤ d.firstPosition := leftmost_le hmem
  have hlast : lastPosition d ≤ rightmost c (rest.take n) := le_rightmost hmem
  have hcolumns := columns_eq c (rest.take n)
  obtain ⟨hleft, -⟩ := columns_take c rest n
  unfold lastPosition at hlast
  -- The column of the pixel is not one of those of the first configurations.
  have hcolumn : x / side < (leftmost c (rest.take n) - leftmost c rest).toNat ∨
      (leftmost c (rest.take n) - leftmost c rest).toNat + columns c (rest.take n) ≤ x / side := by
    rw [Nat.div_lt_iff_lt_mul hside, Nat.le_div_iff_mul_le hside, Nat.add_mul]
    rw [width_paint] at hout
    exact hout
  rw [width_paint] at hx
  have hwhole : (paint (styleOf c rest side palette) c rest).pixel? x y = some _ :=
    pixel?_paint hside rfl hd ((Nat.div_lt_iff_lt_mul hside).2 hx) rfl
  rw [shade_of_out] at hwhole
  · exact hwhole
  · show leftmost c rest + (x / side : Nat) < _ ∨ _ ≤ leftmost c rest + (x / side : Nat)
    omega

end Crop

/-- **The diagram of the first configurations is a crop of the diagram of all**: it has the first
rows, and columns some way from the left.  Besides them the first rows show the background, and the
symbols keep their ranks.  If the whole diagram can be drawn, so can the one of the first
configurations. -/
theorem draw_take {cellSize : Int} (hsize : 1 ≤ cellSize) (palette : Option (List Color))
    (c : Configuration) (rest : List Configuration) {k : Nat} (hk : 1 ≤ k)
    (hk' : k ≤ (c :: rest).length) :
    let cs := c :: rest
    let shift := (leftmost c (rest.take (k - 1)) - leftmost c rest) * cellSize
    ∃ whole part, Draws cs cellSize palette whole ∧ Draws (cs.take k) cellSize palette part ∧
      (∀ room, draw room cs cellSize palette = .ok whole →
        draw room (cs.take k) cellSize palette = .ok part) ∧
      0 ≤ shift ∧ part.width + shift ≤ whole.width ∧
      (part.height : Int) = k * cellSize ∧ part.height ≤ whole.height ∧
      (∀ x < part.width, ∀ y < part.height, ∃ color,
        part.pixel? x y = some color ∧ whole.pixel? (x + shift.toNat) y = some color) ∧
      (∀ x < whole.width, ∀ y < part.height, (x : Int) < shift ∨ shift + part.width ≤ x →
        whole.pixel? x y = some background) ∧
      ∀ s ∈ symbolsOf (cs.take k), rank (cs.take k) s = rank cs s := by
  obtain ⟨n, rfl⟩ := Nat.exists_eq_add_of_le' hk
  obtain ⟨side, rfl⟩ := Int.eq_ofNat_of_zero_le (show 0 ≤ cellSize by omega)
  have hside : 0 < side := by omega
  intro cs shift
  have hshift : shift = ((leftmost c (rest.take n) - leftmost c rest).toNat * side : Nat) := by
    rw [Int.natCast_mul, Int.toNat_of_nonneg (Int.sub_nonneg.2 (columns_take c rest n).1)]
    rfl
  have hwidth := width_paint_take side palette c rest n
  obtain ⟨hheight, hheight'⟩ := height_paint_take hk' side palette
  have hwhole : Draws cs side palette (paint (styleOf c rest side palette) c rest) :=
    draws_paint hsize palette
  have hpart : Draws (cs.take (n + 1)) side palette
      (paint (styleOf c (rest.take n) side palette) c (rest.take n)) :=
    draws_paint hsize palette
  refine ⟨_, _, hwhole, hpart, fun _ => hwhole.draw_of_le hpart ?_ ?_, ?_, ?_, ?_, ?_,
    fun x hx y hy => ?_, fun x hx y hy hout => ?_, fun s hs => rank_take hs⟩
  · omega
  · omega
  · rw [hshift]
    exact Int.natCast_nonneg _
  · rw [hshift]
    omega
  · rw [hheight, Int.natCast_mul]
  · rw [hheight]
    exact hheight'
  · rw [hshift, Int.toNat_natCast]
    exact pixel?_paint_take hside hk' hx hy
  · rw [hshift] at hout
    exact pixel?_paint_beside hside hk' hx hy (hout.imp (by omega) (by omega))

/-- The second row has a cell more on the left, so the first one alone is the right half of the
first row of both. -/
theorem draw_take_of_two_rows :
    ∃ whole part,
      draw .boundless [⟨.int 0, ['a'], 0, 0, 0⟩, ⟨.int 0, ['b', 'a'], 0, -1, 1⟩] 3 none
          = .ok whole ∧
        draw .boundless [⟨.int 0, ['a'], 0, 0, 0⟩] 3 none = .ok part ∧
      part.pixel? 1 1 = some ⟨255, 160, 0⟩ ∧ whole.pixel? 4 1 = some ⟨255, 160, 0⟩ ∧
      whole.pixel? 0 0 = some background := by
  obtain ⟨whole, part, hwhole, hpart, -, -, -, -, -, hcrop, hbeside, -⟩ :=
    draw_take (show (1 : Int) ≤ 3 by decide) none ⟨.int 0, ['a'], 0, 0, 0⟩
      [⟨.int 0, ['b', 'a'], 0, -1, 1⟩] (show 1 ≤ 1 by decide) (by decide)
  obtain rfl := hwhole.eq_of_draw .boundless rfl
  obtain rfl := hpart.eq_of_draw .boundless rfl
  refine ⟨_, _, rfl, rfl, ?_⟩
  obtain ⟨color, hcolor, hcolor'⟩ := hcrop 1 (by decide) 1 (by decide)
  have ha : color = ⟨255, 160, 0⟩ := Option.some.inj (hcolor.symm.trans (by decide))
  rw [ha] at hcolor hcolor'
  exact ⟨hcolor, hcolor', hbeside 0 (by decide) 0 (by decide) (by decide)⟩

end Diagram

end TapeMachine.Picture
