import Mathlib.Data.List.Dedup
import TapeMachine.Proofs.Picture.Loose

/-!
# The pixel law of diagrams

The colour of a symbol is found in a list of the symbols met so far, which grows while cells are
drawn.  Its index there is the **rank** of the symbol, which the cells tell by themselves: how many
symbols first appear before it does (`idxOf_symbolsOf`).  The boxes that are drawn lie within those
of cells, and these within the picture (`within_of_mem_rowStrokes`, `within_canvas`).  So a picture
is told by its configurations pixel by pixel: `pixel_law`.
-/

namespace TapeMachine.Picture

/-- A box lies within another one. -/
def Box.Within (b b' : Box) : Prop :=
  (b'.left ≤ b.left ∧ b.left + b.width ≤ b'.left + b'.width) ∧
    (b'.top ≤ b.top ∧ b.top + b.height ≤ b'.top + b'.height)

theorem Box.within_refl (b : Box) : b.Within b := ⟨⟨le_rfl, le_rfl⟩, le_rfl, le_rfl⟩

theorem Box.within_of_mem_border {b e : Box} (he : e ∈ b.border) : e.Within b := by
  unfold Box.Within
  simp only [Box.border, List.mem_cons, List.not_mem_nil, or_false] at he
  rcases he with rfl | rfl | rfl | rfl
  all_goals
    dsimp only
    omega

namespace Diagram

variable {style : Style} {row : Nat} {seen cells : List Char} {s : Char} {cs : List Configuration}
  {c d : Configuration} {rest : List Configuration} {stroke : Stroke}

/-! ### Ranks -/

/-- **The rank of a symbol**: how many others that are not blank appear before it first does. -/
def rank (cs : List Configuration) (s : Char) : Nat :=
  (((cs.flatMap (·.cells)).takeWhile (· ≠ s)).filter (· ≠ blank)).dedup.length

theorem nodup_meet (h : seen.Nodup) (s : Char) : (meet seen s).Nodup := by
  unfold meet
  split
  · exact h
  · next hs =>
    rw [List.contains_iff_mem] at hs
    rw [← List.concat_eq_append]
    exact List.Nodup.concat hs h

theorem nodup_meetAll (h : seen.Nodup) (cells : List Char) : (meetAll seen cells).Nodup := by
  induction cells generalizing seen with
  | nil => exact h
  | cons s cells ih =>
    rw [meetAll_cons]
    split
    · exact ih h
    · exact ih (nodup_meet h s)

theorem length_meetAll (cells : List Char) :
    (meetAll [] cells).length = (cells.filter (· ≠ blank)).dedup.length := by
  have hnodup : (meetAll [] cells).Nodup := nodup_meetAll List.nodup_nil cells
  have hperm : (meetAll [] cells).Perm (cells.filter (· ≠ blank)).dedup := by
    rw [List.perm_ext_iff_of_nodup hnodup (List.nodup_dedup _)]
    intro s
    rw [mem_meetAll, List.mem_dedup, List.mem_filter]
    simp
  exact hperm.length_eq

/-- **The index of a symbol is its rank.** -/
theorem idxOf_symbolsOf (hs : s ∈ symbolsOf cs) : (symbolsOf cs).idxOf s = rank cs s := by
  unfold rank
  rw [← length_meetAll]
  unfold symbolsOf at hs ⊢
  generalize cs.flatMap (·.cells) = cells at hs ⊢
  rcases mem_meetAll.1 hs with hnil | ⟨hmem, hblank⟩
  · exact absurd hnil List.not_mem_nil
  -- The cells before the symbol first appears, and those behind it.
  obtain ⟨before, later, rfl, hbefore⟩ := List.eq_append_cons_of_mem hmem
  have htake : (before ++ s :: later).takeWhile (· ≠ s) = before := by
    have hall : ∀ a ∈ before, decide (a ≠ s) = true := by
      intro a ha
      exact decide_eq_true fun h => hbefore (h ▸ ha)
    rw [List.takeWhile_append_of_pos hall, List.takeWhile_cons_of_neg (by simp), List.append_nil]
  have hnew : s ∉ meetAll [] before := by
    intro h
    rcases mem_meetAll.1 h with hnil | ⟨h, -⟩
    · exact absurd hnil List.not_mem_nil
    · exact hbefore h
  have hmeet : meet (meetAll [] before) s = meetAll [] before ++ [s] := by
    unfold meet
    rw [if_neg (by rwa [List.contains_iff_mem])]
  obtain ⟨more, hmore⟩ := prefix_meetAll (meetAll [] before ++ [s]) later
  rw [htake, meetAll_append, meetAll_cons, if_neg hblank, hmeet, ← hmore, List.append_assoc,
    List.idxOf_append_of_notMem hnew, List.singleton_append, List.idxOf_cons_self, Nat.add_zero]

theorem colorOf_symbolsOf (hpalette : style.palette ≠ []) (hs : s ∈ symbolsOf cs) :
    some (colorOf style (symbolsOf cs) s)
      = style.palette[rank cs s % style.palette.length]? := by
  have hlt : rank cs s % style.palette.length < style.palette.length :=
    Nat.mod_lt _ (List.length_pos_iff.2 hpalette)
  unfold colorOf
  rw [idxOf_symbolsOf hs, List.getElem?_eq_getElem hlt, Option.getD_some]

theorem palette_styleOf_ne_nil (c : Configuration) (rest : List Configuration) (side : Nat)
    (palette : Option (List Color)) : (styleOf c rest side palette).palette ≠ [] := by
  match palette with
  | none => exact List.cons_ne_nil _ _
  | some [] => exact List.cons_ne_nil _ _
  | some (color :: colors) => exact List.cons_ne_nil color colors

/-! ### Boxes that are drawn -/

/-- The strokes of a row of cells are made within their boxes. -/
theorem within_of_mem_cellStrokes {first head : Int}
    (h : stroke ∈ (cellStrokes style row first head seen cells).1) :
    ∃ i < cells.length, stroke.box.Within (boxAt style row (first + i)) := by
  induction cells generalizing first head seen with
  | nil => exact absurd h List.not_mem_nil
  | cons s cells ih =>
    simp only [cellStrokes, List.mem_append, or_assoc] at h
    rcases h with hfill | hmark | hrest
    · refine ⟨0, Nat.succ_pos _, ?_⟩
      split at hfill
      · exact absurd hfill List.not_mem_nil
      · rw [List.mem_singleton.1 hfill, Int.natCast_zero, Int.add_zero]
        exact Box.within_refl _
    · refine ⟨0, Nat.succ_pos _, ?_⟩
      split at hmark
      · obtain ⟨b, hb, rfl⟩ := List.mem_map.1 hmark
        rw [Int.natCast_zero, Int.add_zero]
        split at hb
        · exact Box.within_of_mem_border hb
        · rw [List.mem_singleton.1 hb]
          exact Box.within_refl _
      · exact absurd hmark List.not_mem_nil
    · obtain ⟨i, hi, hwithin⟩ := ih hrest
      refine ⟨i + 1, Nat.succ_lt_succ hi, ?_⟩
      rw [Int.natCast_succ, Int.add_comm (i : Int) 1, ← Int.add_assoc]
      exact hwithin

theorem within_of_mem_rowStrokes (h : stroke ∈ rowStrokes style row seen cs) :
    ∃ k d, cs[k]? = some d ∧ ∃ i < d.cells.length,
      stroke.box.Within (boxAt style (row + k) (d.firstPosition + i)) := by
  induction cs generalizing row seen with
  | nil => exact absurd h List.not_mem_nil
  | cons d cs ih =>
    unfold rowStrokes at h
    rcases List.mem_append.1 h with hrow | hrest
    · exact ⟨0, d, rfl, within_of_mem_cellStrokes hrow⟩
    · obtain ⟨k, e, he, i, hi, hwithin⟩ := ih hrest
      refine ⟨k + 1, e, he, i, hi, ?_⟩
      rw [Nat.add_comm k 1, ← Nat.add_assoc]
      exact hwithin

/-- The box of a cell lies within the picture. -/
theorem within_canvas {k i : Nat} (horigin : style.origin = leftmost c rest)
    (hd : (c :: rest)[k]? = some d) (hi : i < d.cells.length) :
    style.origin ≤ d.firstPosition + i ∧
      (boxAt style k (d.firstPosition + i)).Within
        ⟨0, 0, columns c rest * style.side, (rest.length + 1) * style.side⟩ := by
  have hmem := List.mem_of_getElem? hd
  have hk : k < rest.length + 1 := (List.getElem?_eq_some_iff.1 hd).1
  have hleft : leftmost c rest ≤ d.firstPosition := leftmost_le hmem
  have hright : lastPosition d ≤ rightmost c rest := le_rightmost hmem
  have hcolumns := columns_eq c rest
  unfold lastPosition at hright
  -- The column is one of those of the picture.
  have hcolumn : (d.firstPosition + i - style.origin).toNat + 1 ≤ columns c rest := by omega
  have hwidth := Nat.mul_le_mul_right style.side hcolumn
  have hheight := Nat.mul_le_mul_right style.side (Nat.succ_le_of_lt hk)
  rw [Nat.add_mul, Nat.one_mul] at hwidth
  rw [Nat.succ_mul] at hheight
  refine ⟨by omega, ⟨Nat.zero_le _, ?_⟩, Nat.zero_le _, ?_⟩
  · rw [Nat.zero_add]
    exact hwidth
  · rw [Nat.zero_add]
    exact hheight

/-! ### The law -/

/-- **A picture is drawn of configurations**, unless there is no raster of its size; and the same
comes of it if they are handed over as values that nothing has checked. -/
structure Draws (cs : List Configuration) (cellSize : Int) (palette : Option (List Color))
    (img : Raster Color) : Prop where
  checked : ∀ room, draw room cs cellSize palette
    = ((Size.check room (.int img.width) (.int img.height)).mapError .size).map fun _ => img
  unchecked : (∀ colors, palette = some colors → ∀ color ∈ colors, color.IsBytes) →
    ∀ room, LooseDiagram.draw room (cs.map Configuration.loose) (.int cellSize)
        ((palette.getD []).map LooseDiagram.partsOf)
      = ((Size.check room (.int img.width) (.int img.height)).mapError
          fun f => .diagram (.size f)).map fun _ => img

theorem width_paint (style : Style) (c : Configuration) (rest : List Configuration) :
    (paint style c rest).width = columns c rest * style.side :=
  Raster.width_strokes ..

theorem height_paint (style : Style) (c : Configuration) (rest : List Configuration) :
    (paint style c rest).height = (rest.length + 1) * style.side :=
  Raster.height_strokes ..

theorem draws_paint {cellSize : Int} (hsize : 1 ≤ cellSize) (palette : Option (List Color)) :
    Draws (c :: rest) cellSize palette (paint (styleOf c rest cellSize.toNat palette) c rest) := by
  have hside : ((styleOf c rest cellSize.toNat palette).side : Int) = cellSize :=
    Int.toNat_of_nonneg (by omega)
  constructor
  · intro room
    rw [draw_eq room hsize, width_paint, height_paint, Int.natCast_mul, Int.natCast_mul, hside,
      Int.natCast_succ]
  · intro hpalette room
    rw [LooseDiagram.draw_loose room hpalette, draw_eq room hsize, width_paint, height_paint,
      Int.natCast_mul, Int.natCast_mul, hside, Int.natCast_succ]
    cases Size.check room (.int (columns c rest * cellSize))
      (.int ((rest.length + 1) * cellSize)) <;> rfl

/-- **The pixel law.**  Unless there is no raster of its size, the picture of configurations has a
column of boxes for each position from the leftmost to the rightmost one and a row of them for each
configuration, and nothing is drawn outside of it.  What a pixel shows is told by the configuration
of its row and the position of its column: the background where there is no cell, the head's colour
on the border of its box or all over a small one, and otherwise the colour of the symbol, which is
that of its rank in the palette, and that of the background for a blank. -/
theorem pixel_law {cellSize : Int} (hsize : 1 ≤ cellSize) (palette : Option (List Color))
    (c : Configuration) (rest : List Configuration) :
    let cs := c :: rest
    let style := styleOf c rest cellSize.toNat palette
    ∃ img, Draws cs cellSize palette img ∧
      0 ≤ rightmost c rest - leftmost c rest + 1 ∧
      (img.width : Int) = (rightmost c rest - leftmost c rest + 1) * cellSize ∧
      (img.height : Int) = cs.length * cellSize ∧
      (∀ stroke ∈ rowStrokes style 0 [] cs, ∃ k d, cs[k]? = some d ∧ ∃ i : Nat,
        i < d.cells.length ∧ leftmost c rest ≤ d.firstPosition + i ∧
        stroke.box.Within (boxAt style k (d.firstPosition + i)) ∧
        (boxAt style k (d.firstPosition + i)).Within ⟨0, 0, img.width, img.height⟩) ∧
      ∀ x < img.width, ∀ y < img.height, ∃ d, cs[y / style.side]? = some d ∧
        let p := leftmost c rest + (x / style.side : Nat)
        (p < d.firstPosition ∨ lastPosition d < p → img.pixel? x y = some background) ∧
        ∀ (i : Nat) s, d.cells[i]? = some s → p = d.firstPosition + i →
          img.pixel? x y =
            if (i : Int) = d.head ∧ (style.side < 3 ∨ onEdge style x y) then some headColor
            else if s = blank then some background
            else style.palette[rank cs s % style.palette.length]? := by
  intro cs style
  have hside : (style.side : Int) = cellSize := Int.toNat_of_nonneg (by omega)
  have hpos : 0 < style.side := by omega
  have hcolumns := columns_eq c rest
  refine ⟨paint style c rest, draws_paint hsize palette, by omega, ?_, ?_,
    fun stroke hstroke => ?_, fun x hx y hy => ?_⟩
  · rw [width_paint, Int.natCast_mul, hside, hcolumns]
  · rw [height_paint, Int.natCast_mul, hside, List.length_cons]
  · obtain ⟨k, d, hd, i, hi, hwithin⟩ := within_of_mem_rowStrokes hstroke
    obtain ⟨hleft, hcanvas⟩ := within_canvas (show style.origin = leftmost c rest from rfl) hd hi
    rw [Nat.zero_add] at hwithin
    rw [width_paint, height_paint]
    exact ⟨k, d, hd, i, hi, hleft, hwithin, hcanvas⟩
  · rw [width_paint, ← Nat.div_lt_iff_lt_mul hpos] at hx
    rw [height_paint, ← Nat.div_lt_iff_lt_mul hpos] at hy
    obtain ⟨d, hd⟩ : ∃ d, cs[y / style.side]? = some d := ⟨_, List.getElem?_eq_getElem hy⟩
    have hpixel := pixel?_paint hpos (show style.origin = leftmost c rest from rfl) hd hx rfl
    refine ⟨d, hd, ?_⟩
    intro p
    have hp : positionAt style x = p := rfl
    rw [hp] at hpixel
    refine ⟨fun hout => ?_, fun i s hs hi => ?_⟩
    · rw [hpixel, shade_of_out _ _ _ _ (hout.imp_right fun h => by rw [lastPosition] at h; omega)]
    · rw [hpixel, hi, shade_of_getElem? _ _ _ _ _ hs]
      have hmem : s ≠ blank → s ∈ symbolsOf cs := fun hblank =>
        mem_symbolsOf.2 ⟨⟨d, List.mem_of_getElem? hd, List.mem_of_getElem? hs⟩, hblank⟩
      have hbordered : ((i : Int) = d.head ∧ (onEdge style x y ∨ style.side < leastBorderedSide))
          ↔ ((i : Int) = d.head ∧ (style.side < 3 ∨ onEdge style x y)) :=
        and_congr_right fun _ => or_comm
      rw [if_congr hbordered rfl rfl]
      split_ifs with hhead hblank
      · rfl
      · rfl
      · exact colorOf_symbolsOf (palette_styleOf_ne_nil c rest _ palette) (hmem hblank)

/-- Two cells, of which the head hides one, and a row without cells beside them. -/
theorem pixel_law_of_row_without_cells :
    ∃ img, draw .boundless [⟨.int 0, ['a', 'b'], 1, -1, 0⟩, ⟨.int 1, [], 5, 2, 1⟩] 2 none
        = .ok img ∧
      img.width = 6 ∧ img.height = 4 ∧ img.pixel? 0 0 = some ⟨255, 160, 0⟩ ∧
      img.pixel? 3 1 = some headColor ∧ img.pixel? 5 3 = some background := by
  obtain ⟨img, hdraws, -, hwidth, hheight, -, hpixel⟩ :=
    pixel_law (show (1 : Int) ≤ 2 by decide) none ⟨.int 0, ['a', 'b'], 1, -1, 0⟩
      [⟨.int 1, [], 5, 2, 1⟩]
  have hw : img.width = 6 := Int.natCast_inj.1 (hwidth.trans rfl)
  have hh : img.height = 4 := Int.natCast_inj.1 (hheight.trans rfl)
  have hdraw := hdraws.checked .boundless
  rw [hw, hh] at hdraw hpixel
  obtain ⟨d, hd, -, hcell⟩ := hpixel 0 (by decide) 0 (by decide)
  obtain ⟨d', hd', -, hcell'⟩ := hpixel 3 (by decide) 1 (by decide)
  obtain ⟨d'', hd'', hout, -⟩ := hpixel 5 (by decide) 3 (by decide)
  obtain rfl := Option.some.inj hd
  obtain rfl := Option.some.inj hd'
  obtain rfl := Option.some.inj hd''
  refine ⟨img, hdraw, hw, hh, ?_, ?_, ?_⟩
  · exact (hcell 0 'a' rfl rfl).trans (by decide)
  · exact (hcell' 1 'b' rfl rfl).trans (by decide)
  · exact hout (by decide)

end Diagram

end TapeMachine.Picture
