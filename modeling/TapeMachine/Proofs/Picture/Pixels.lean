import Mathlib.Data.List.Basic
import Mathlib.Order.Bounds.Basic
import Mathlib.Order.MinMax
import TapeMachine.Picture.Diagram

/-!
# The pixels of a diagram

Strokes are made one over another, so that a place has the colour of the last one on it
(`colorAfter`).  The box of a cell is where its column and its row meet
(`contains_boxAt`), hence no two cells touch each other's places, and what a place of a
diagram shows is told by one cell alone: its **shade** (`shade`).  The colour of a symbol is
the one that it has among all symbols of the diagram, since those met later come behind it
(`colorOf_of_mem`).  So `pixel?_paint` gives every pixel of a diagram.
-/

namespace TapeMachine.Picture

/-- What is seen at a place that had a colour before some strokes were made. -/
def colorAfter (ss : List Stroke) (x y : Nat) (c : Color) : Color :=
  ss.foldl (fun c s => if s.box.contains x y then s.color else c) c

section Strokes

variable {ss : List Stroke} {x y : Nat}

theorem colorAfter_append (ss ss' : List Stroke) (x y : Nat) (c : Color) :
    colorAfter (ss ++ ss') x y c = colorAfter ss' x y (colorAfter ss x y c) :=
  List.foldl_append ..

/-- Boxes of one colour give it to the places in any of them. -/
theorem colorAfter_map (bs : List Box) (color c : Color) :
    colorAfter (bs.map (⟨·, color⟩)) x y c = if ∃ b ∈ bs, b.contains x y then color else c := by
  induction bs generalizing c with
  | nil => simp [colorAfter]
  | cons b bs ih =>
    rw [List.map_cons, ← List.singleton_append, colorAfter_append, ih]
    by_cases hb : b.contains x y <;> by_cases hbs : ∃ b ∈ bs, b.contains x y <;>
      simp_all [colorAfter]

/-- **A place of a raster after some strokes.** -/
theorem Raster.pixel?_strokes (r : Raster Color) (ss : List Stroke) (x y : Nat) :
    (r.strokes ss).pixel? x y = (r.pixel? x y).map (colorAfter ss x y) := by
  induction ss generalizing r with
  | nil => exact Option.map_id'.symm
  | cons s ss ih =>
    rw [Raster.strokes, List.foldl_cons]
    refine (ih _).trans ?_
    rw [Raster.pixel?_fill]
    by_cases hs : s.box.contains x y
    · rw [if_pos hs, Option.map_map]
      congr 1
      funext c
      simp [colorAfter, hs]
    · rw [if_neg hs]
      congr 1
      funext c
      simp [colorAfter, hs]

@[simp] theorem Raster.width_strokes (r : Raster Color) (ss : List Stroke) :
    (r.strokes ss).width = r.width := by
  induction ss generalizing r with
  | nil => rfl
  | cons s ss ih => exact ih _

@[simp] theorem Raster.height_strokes (r : Raster Color) (ss : List Stroke) :
    (r.strokes ss).height = r.height := by
  induction ss generalizing r with
  | nil => rfl
  | cons s ss ih => exact ih _

end Strokes

namespace Diagram

variable {style : Style} {row x y : Nat} {seen all cells : List Char} {s : Char} {p : Int}

/-! ### Symbols in the order in which they appear -/

/-- The symbols met so far when those of some cells are met that are not blank. -/
def meetAll (seen cells : List Char) : List Char := (cells.filter (· ≠ blank)).foldl meet seen

/-- **The symbols of configurations**: those that are not blank, each once, in the order in which
they first appear. -/
def symbolsOf (cs : List Configuration) : List Char := meetAll [] (cs.flatMap (·.cells))

theorem prefix_meet (seen : List Char) (s : Char) : seen <+: meet seen s := by
  rw [meet]
  split
  · exact List.prefix_rfl
  · exact List.prefix_append ..

theorem mem_meet {c : Char} : c ∈ meet seen s ↔ c ∈ seen ∨ c = s := by
  rw [meet]
  split
  · rename_i h
    rw [List.contains_iff_mem] at h
    exact ⟨.inl, fun hc => hc.elim id fun hc => hc ▸ h⟩
  · simp

theorem meetAll_cons (seen : List Char) (s : Char) (cells : List Char) :
    meetAll seen (s :: cells) = meetAll (if s = blank then seen else meet seen s) cells := by
  by_cases h : s = blank <;> simp [meetAll, h]

theorem meetAll_append (seen cells cells' : List Char) :
    meetAll seen (cells ++ cells') = meetAll (meetAll seen cells) cells' := by
  simp [meetAll]

theorem prefix_meetAll (seen cells : List Char) : seen <+: meetAll seen cells := by
  induction cells generalizing seen with
  | nil => exact List.prefix_rfl
  | cons s cells ih =>
    rw [meetAll_cons]
    split
    · exact ih seen
    · exact (prefix_meet seen s).trans (ih _)

theorem mem_meetAll : s ∈ meetAll seen cells ↔ s ∈ seen ∨ s ∈ cells ∧ s ≠ blank := by
  induction cells generalizing seen with
  | nil => simp [meetAll]
  | cons c cells ih =>
    rw [meetAll_cons, ih]
    by_cases hc : c = blank
    · rw [if_pos hc]
      grind
    · rw [if_neg hc, mem_meet]
      grind

theorem mem_symbolsOf {cs : List Configuration} :
    s ∈ symbolsOf cs ↔ (∃ c ∈ cs, s ∈ c.cells) ∧ s ≠ blank := by
  simp [symbolsOf, mem_meetAll]

/-- A symbol that has been met keeps its colour. -/
theorem colorOf_of_mem (h : seen <+: all) (hs : s ∈ seen) :
    colorOf style all s = colorOf style seen s := by
  obtain ⟨more, rfl⟩ := h
  rw [colorOf, colorOf, List.idxOf_append_of_mem hs]

/-! ### Boxes of cells -/

/-- The position whose column a place is in. -/
def positionAt (style : Style) (x : Nat) : Int := style.origin + (x / style.side : Nat)

/-- Whether a place is in an outer row or column of the box that it is in. -/
def onEdge (style : Style) (x y : Nat) : Bool :=
  x % style.side = 0 || x % style.side + 1 = style.side ||
    y % style.side = 0 || y % style.side + 1 = style.side

/-- A span of whole sides holds a number if it is that many sides from the beginning. -/
theorem mul_le_iff_div_eq {n k side : Nat} (hside : 0 < side) :
    k * side ≤ n ∧ n < k * side + side ↔ n / side = k := by
  rw [← Nat.succ_mul, ← Nat.le_div_iff_mul_le hside, ← Nat.div_lt_iff_lt_mul hside]
  omega

/-- **The box of a position in a row** is where its column meets the row. -/
theorem contains_boxAt (hside : 0 < style.side) (hp : style.origin ≤ p) :
    (boxAt style row p).contains x y ↔ y / style.side = row ∧ positionAt style x = p := by
  rw [Box.contains_iff, boxAt]
  dsimp only
  rw [mul_le_iff_div_eq hside, mul_le_iff_div_eq hside, positionAt]
  omega

theorem onBorder_boxAt (hside : 0 < style.side) (hp : style.origin ≤ p)
    (h : (boxAt style row p).contains x y) :
    (boxAt style row p).onBorder x y = onEdge style x y := by
  obtain ⟨hrow, hcolumn⟩ := (contains_boxAt hside hp).1 h
  have hx : (p - style.origin).toNat = x / style.side := by
    rw [positionAt] at hcolumn
    omega
  have hdx := Nat.div_add_mod' x style.side
  have hdy := Nat.div_add_mod' y style.side
  rw [Bool.eq_iff_iff, Box.onBorder, onEdge, boxAt, hx, ← hrow]
  simp only [Bool.or_eq_true, decide_eq_true_eq]
  omega

/-! ### Shades -/

/-- **The shade of a place in a row of cells** that begins at a position: the colour of the head, of
the cell's symbol, or what the place had before. -/
def shade (style : Style) (symbols : List Char) (first head : Int) (cells : List Char) (p : Int)
    (edge : Bool) (c : Color) : Color :=
  match if first ≤ p then cells[(p - first).toNat]? else none with
  | none => c
  | some s =>
    if p - first = head ∧ (edge ∨ style.side < leastBorderedSide) then headColor
    else if s = blank then c else colorOf style symbols s

theorem shade_cons (symbols : List Char) (first head : Int) (s : Char) (cells : List Char) (p : Int)
    (edge : Bool) (c : Color) :
    shade style symbols first head (s :: cells) p edge c =
      if p = first then
        if head = 0 ∧ (edge ∨ style.side < leastBorderedSide) then headColor
        else if s = blank then c else colorOf style symbols s
      else shade style symbols (first + 1) (head - 1) cells p edge c := by
  by_cases hp : p = first
  · subst hp
    simp [shade, eq_comm]
  · rw [if_neg hp, shade, shade]
    have hhead : p - first = head ↔ p - (first + 1) = head - 1 := by omega
    by_cases hlt : first + 1 ≤ p
    · rw [if_pos (by omega), if_pos hlt,
        show (p - first).toNat = (p - (first + 1)).toNat + 1 by omega, List.getElem?_cons_succ]
      simp only [hhead]
    · rw [if_neg (by omega), if_neg hlt]

theorem shade_of_getElem? (symbols : List Char) (first head : Int) {i : Nat} (edge : Bool)
    (c : Color) (hs : cells[i]? = some s) :
    shade style symbols first head cells (first + i) edge c =
      if (i : Int) = head ∧ (edge ∨ style.side < leastBorderedSide) then headColor
      else if s = blank then c else colorOf style symbols s := by
  have hi : first + i - first = i := by omega
  have hcell :
      (if first ≤ first + i then cells[(first + i - first).toNat]? else none) = some s := by
    rw [if_pos (by omega), hi, Int.toNat_natCast, hs]
  rw [shade, hcell, hi]

/-- Where there is no cell, a place is left alone. -/
theorem shade_of_out (symbols : List Char) {first : Int} (head : Int) (edge : Bool) (c : Color)
    (hp : p < first ∨ first + cells.length ≤ p) :
    shade style symbols first head cells p edge c = c := by
  have hnone : (if first ≤ p then cells[(p - first).toNat]? else none) = none := by
    split
    · exact List.getElem?_eq_none (by omega)
    · rfl
  rw [shade, hnone]

theorem colorAfter_headStrokes (hside : 0 < style.side) (hp : style.origin ≤ p) (c : Color) :
    colorAfter (headStrokes (leastBorderedSide ≤ style.side) (boxAt style row p)) x y c =
      if (boxAt style row p).contains x y ∧ (onEdge style x y ∨ style.side < leastBorderedSide)
      then headColor else c := by
  rw [headStrokes, colorAfter_map]
  by_cases hbox : (boxAt style row p).contains x y
  · by_cases hbordered : leastBorderedSide ≤ style.side
    · have hsmall : ¬ style.side < leastBorderedSide := by omega
      simp [hbordered, hsmall, Box.exists_mem_border, hbox, onBorder_boxAt hside hp hbox]
    · have hsmall : style.side < leastBorderedSide := by omega
      simp [hbordered, hsmall, hbox]
  · by_cases hbordered : leastBorderedSide ≤ style.side
    · simp [hbordered, Box.exists_mem_border, hbox]
    · simp [hbordered, hbox]

/-! ### Rows -/

theorem cellStrokes_snd (style : Style) (row : Nat) (first head : Int) (seen cells : List Char) :
    (cellStrokes style row first head seen cells).2 = meetAll seen cells := by
  induction cells generalizing first head seen with
  | nil => rfl
  | cons s cells ih =>
    rw [meetAll_cons, ← ih (first + 1) (head - 1)]
    rfl

/-- **The strokes of a row** leave each of its places in its shade, and all others alone. -/
theorem colorAfter_cellStrokes (hside : 0 < style.side) {first head : Int}
    (hfirst : style.origin ≤ first) (hall : meetAll seen cells <+: all) (c : Color) :
    colorAfter (cellStrokes style row first head seen cells).1 x y c =
      if y / style.side = row then
        shade style all first head cells (positionAt style x) (onEdge style x y) c
      else c := by
  -- The colour is general, as each cell is drawn over what those before it have left.
  induction cells generalizing first head seen c with
  | nil => simp [cellStrokes, colorAfter, shade]
  | cons s cells ih =>
    rw [meetAll_cons] at hall
    have hcons : (cellStrokes style row first head seen (s :: cells)).1 =
        (if s = blank then [] else [⟨boxAt style row first, colorOf style (meet seen s) s⟩]) ++
        (if head = 0 then headStrokes (leastBorderedSide ≤ style.side) (boxAt style row first)
          else []) ++
        (cellStrokes style row (first + 1) (head - 1) (if s = blank then seen else meet seen s)
          cells).1 := by
      rw [cellStrokes]
      by_cases hs : s = blank <;> simp [hs]
    -- What the cell's own strokes do.
    have hcolor : s ≠ blank → colorOf style (meet seen s) s = colorOf style all s := by
      intro hs
      rw [if_neg hs] at hall
      exact (colorOf_of_mem ((prefix_meetAll ..).trans hall) (mem_meet.2 (.inr rfl))).symm
    rw [hcons, colorAfter_append, colorAfter_append, ih (by omega) hall, shade_cons]
    by_cases hbox : (boxAt style row first).contains x y
    · obtain ⟨hrow, hcolumn⟩ := (contains_boxAt hside hfirst).1 hbox
      rw [if_pos hrow, if_pos hrow, if_pos hcolumn, shade_of_out _ _ _ _ (.inl (by omega))]
      by_cases hhead : head = 0
      · rw [if_pos hhead, colorAfter_headStrokes hside hfirst]
        by_cases hs : s = blank
        · simp [hbox, hhead, hs, colorAfter]
        · simp [hbox, hhead, hs, colorAfter, hcolor hs]
      · by_cases hs : s = blank
        · simp [hhead, hs, colorAfter]
        · simp [hbox, hhead, hs, colorAfter, hcolor hs]
    · have hfill : colorAfter (if s = blank then [] else
          [⟨boxAt style row first, colorOf style (meet seen s) s⟩]) x y c = c := by
        by_cases hs : s = blank <;> simp [hs, colorAfter, hbox]
      have hmark : colorAfter (if head = 0 then
          headStrokes (leastBorderedSide ≤ style.side) (boxAt style row first) else []) x y c
          = c := by
        by_cases hhead : head = 0
        · rw [if_pos hhead, colorAfter_headStrokes hside hfirst, if_neg fun h => hbox h.1]
        · rw [if_neg hhead]
          rfl
      rw [hfill, hmark]
      by_cases hrow : y / style.side = row
      · rw [if_pos hrow, if_pos hrow,
          if_neg fun hcolumn => hbox ((contains_boxAt hside hfirst).2 ⟨hrow, hcolumn⟩)]
      · rw [if_neg hrow, if_neg hrow]

/-- The strokes of later rows leave a place alone. -/
theorem colorAfter_rowStrokes_of_lt (hside : 0 < style.side) {cs : List Configuration}
    (horigin : ∀ d ∈ cs, style.origin ≤ d.firstPosition) (hy : y / style.side < row) (c : Color) :
    colorAfter (rowStrokes style row seen cs) x y c = c := by
  induction cs generalizing row seen c with
  | nil => rfl
  | cons d cs ih =>
    rw [rowStrokes, colorAfter_append, ih (fun e he => horigin e (List.mem_cons_of_mem _ he))
      (by omega), colorAfter_cellStrokes hside (horigin d (List.mem_cons_self ..)) List.prefix_rfl,
      if_neg (by omega)]

/-- **The strokes of rows** leave the places of each in its shades. -/
theorem colorAfter_rowStrokes (hside : 0 < style.side) {cs : List Configuration} {k : Nat}
    {d : Configuration} (horigin : ∀ d ∈ cs, style.origin ≤ d.firstPosition)
    (hall : meetAll seen (cs.flatMap (·.cells)) <+: all) (hd : cs[k]? = some d)
    (hy : y / style.side = row + k) (c : Color) :
    colorAfter (rowStrokes style row seen cs) x y c =
      shade style all d.firstPosition d.head d.cells (positionAt style x) (onEdge style x y) c := by
  induction cs generalizing row seen k c with
  | nil => simp at hd
  | cons e cs ih =>
    rw [List.flatMap_cons, meetAll_append] at hall
    have horigin' : ∀ d ∈ cs, style.origin ≤ d.firstPosition := fun d hd =>
      horigin d (List.mem_cons_of_mem _ hd)
    have hfirst := horigin e (List.mem_cons_self ..)
    rw [rowStrokes, colorAfter_append,
      colorAfter_cellStrokes hside hfirst ((prefix_meetAll ..).trans hall)]
    cases k with
    | zero =>
      obtain rfl : e = d := by simpa using hd
      rw [if_pos (by omega), colorAfter_rowStrokes_of_lt hside horigin' (by omega)]
    | succ k =>
      rw [if_neg (by omega), cellStrokes_snd]
      exact ih horigin' hall hd (by omega) c

/-! ### The extent of a diagram -/

/-- Taking the lesser of what is held and of each element in turn gives the least. -/
theorem isLeast_foldl_min {α β : Type} [LinearOrder β] (f : α → β) (l : List α) (b : β) :
    IsLeast (insert b {b' | ∃ a ∈ l, f a = b'}) (l.foldl (fun b a => min b (f a)) b) := by
  induction l generalizing b with
  | nil => simp
  | cons a l ih =>
    obtain ⟨hmem, hle⟩ := ih (min b (f a))
    refine ⟨?_, ?_⟩
    · rcases hmem with hmem | ⟨a', ha', hmem⟩
      · rcases min_choice b (f a) with hmin | hmin
        · exact .inl (hmem.trans hmin)
        · exact .inr ⟨a, List.mem_cons_self .., (hmem.trans hmin).symm⟩
      · exact .inr ⟨a', List.mem_cons_of_mem _ ha', hmem⟩
    · have hb := hle (.inl rfl)
      rintro b' (rfl | ⟨a', ha', rfl⟩)
      · exact hb.trans (min_le_left ..)
      · rcases List.mem_cons.1 ha' with rfl | ha'
        · exact hb.trans (min_le_right ..)
        · exact hle (.inr ⟨a', ha', rfl⟩)

variable {c d : Configuration} {rest : List Configuration}

theorem leftmost_le (hd : d ∈ c :: rest) : leftmost c rest ≤ d.firstPosition := by
  refine (isLeast_foldl_min (·.firstPosition) rest c.firstPosition).2 ?_
  rcases List.mem_cons.1 hd with rfl | hd
  · exact .inl rfl
  · exact .inr ⟨d, hd, rfl⟩

theorem le_rightmost (hd : d ∈ c :: rest) : lastPosition d ≤ rightmost c rest := by
  refine (@isLeast_foldl_min _ Intᵒᵈ _ lastPosition rest (lastPosition c)).2 ?_
  rcases List.mem_cons.1 hd with rfl | hd
  · exact .inl rfl
  · exact .inr ⟨d, hd, rfl⟩

/-- The columns reach from the first position to the last, which is at most one before it. -/
theorem columns_eq (c : Configuration) (rest : List Configuration) :
    (columns c rest : Int) = rightmost c rest - leftmost c rest + 1 := by
  have hfirst : leftmost c rest ≤ c.firstPosition := leftmost_le (List.mem_cons_self ..)
  have hlast : lastPosition c ≤ rightmost c rest := le_rightmost (List.mem_cons_self ..)
  rw [lastPosition] at hlast
  rw [columns]
  omega

/-! ### Pictures -/

/-- A diagram is drawn if and only if there is a raster of its size. -/
theorem draw_eq (room : Room) {cellSize : Int} (hsize : 1 ≤ cellSize)
    (palette : Option (List Color)) :
    draw room (c :: rest) cellSize palette =
      ((Size.check room (.int (columns c rest * cellSize))
        (.int ((rest.length + 1) * cellSize))).mapError .size).map
          fun _ => paint (styleOf c rest cellSize.toNat palette) c rest := by
  rw [draw, if_neg (by omega)]
  cases Size.check room (.int (columns c rest * cellSize))
    (.int ((rest.length + 1) * cellSize)) <;> rfl

/-- **Every pixel of a diagram** is in the shade of its place in the row of a configuration. -/
theorem pixel?_paint (hside : 0 < style.side) (horigin : style.origin = leftmost c rest) {k : Nat}
    (hd : (c :: rest)[k]? = some d) (hx : x / style.side < columns c rest)
    (hy : y / style.side = k) :
    (paint style c rest).pixel? x y = some (shade style (symbolsOf (c :: rest)) d.firstPosition
      d.head d.cells (positionAt style x) (onEdge style x y) background) := by
  have hk : k < rest.length + 1 := (List.getElem?_eq_some_iff.1 hd).1
  rw [Nat.div_lt_iff_lt_mul hside] at hx
  rw [← hy, Nat.div_lt_iff_lt_mul hside] at hk
  rw [paint, Raster.pixel?_strokes, Raster.pixel?_solid, if_pos ⟨hx, hk⟩, Option.map_some,
    colorAfter_rowStrokes hside (fun d hd => horigin ▸ leftmost_le hd) List.prefix_rfl hd
      (by omega)]
  rfl

end Diagram

end TapeMachine.Picture
