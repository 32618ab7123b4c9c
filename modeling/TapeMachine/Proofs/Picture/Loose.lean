import TapeMachine.Picture.LooseDiagram
import TapeMachine.Proofs.Picture.Pixels
import TapeMachine.Proofs.Result

/-!
# Diagrams of values that are what they should be

A diagram of unchecked values does what a diagram does if they are what they should be: whole
numbers, symbols, and colours with parts from 0 to 255.  Each of its functions is taken to the one
for checked values, and so is `draw_loose` in the end.
-/

namespace TapeMachine.Picture

/-- The parts of a colour are bytes. -/
def Color.IsBytes (c : Color) : Prop := c.red ≤ 255 ∧ c.green ≤ 255 ∧ c.blue ≤ 255

instance : DecidablePred Color.IsBytes := fun c =>
  inferInstanceAs (Decidable (c.red ≤ 255 ∧ c.green ≤ 255 ∧ c.blue ≤ 255))

/-! ### Sizes -/

theorem asWord_int_eq_ok_iff {n m : Int} :
    (Value.int n).asWord = .ok m ↔ m = n ∧ -Value.wordLimit ≤ n ∧ n < Value.wordLimit := by
  have hlong : Value.wordLimit ≤ Value.longWordLimit := by decide
  have hasWord : (Value.int n).asWord =
      if n < -Value.longWordLimit ∨ Value.longWordLimit ≤ n then .error .beyondLongWord
      else if Value.wordLimit ≤ n then .error .aboveWord
      else if n < -Value.wordLimit then .error .belowWord
      else .ok n := rfl
  rw [hasWord]
  split_ifs with hout habove hbelow
  · exact ⟨nofun, fun ⟨_, _, _⟩ => by omega⟩
  · exact ⟨nofun, fun ⟨_, _, _⟩ => by omega⟩
  · exact ⟨nofun, fun ⟨_, _, _⟩ => by omega⟩
  · exact ⟨fun h => ⟨(Except.ok.inj h).symm, by omega, by omega⟩, fun ⟨h, _⟩ => by rw [h]⟩

/-- **There is a raster of a size** if words of 32 bits hold both sides and there is room for it. -/
theorem Size.check_int_eq_ok_iff {room : Room} {w h : Int} {size : Int × Int} :
    Size.check room (.int w) (.int h) = .ok size ↔ size = (w, h) ∧
      (-Value.wordLimit ≤ w ∧ w < Value.wordLimit) ∧ (-Value.wordLimit ≤ h ∧ h < Value.wordLimit) ∧
      room.new w h = .ok () := by
  unfold Size.check
  simp only [bind_eq_ok_iff, mapError_eq_ok_iff, asWord_int_eq_ok_iff]
  constructor
  · rintro ⟨_, ⟨rfl, hw⟩, _, ⟨rfl, hh⟩, _, hnew, hsize⟩
    exact ⟨(Except.ok.inj hsize).symm, hw, hh, hnew⟩
  · rintro ⟨rfl, hw, hh, hnew⟩
    exact ⟨w, ⟨rfl, hw⟩, h, ⟨rfl, hh⟩, (), hnew, rfl⟩

namespace LooseDiagram

open TapeMachine.Value (Misuse)

variable {style : Diagram.Style}

/-- A colour by its parts. -/
def partsOf (c : Color) : List Value := [.int c.red, .int c.green, .int c.blue]

/-- A layout as one of unchecked values. -/
def looseStyle (style : Diagram.Style) : Style :=
  ⟨.int style.origin, .int style.side, style.palette.map partsOf⟩

theorem ofParts_partsOf {c : Color} (h : c.IsBytes) : Color.ofParts (partsOf c) = .ok c := by
  obtain ⟨r, g, b⟩ := c
  obtain ⟨hr, hg, hb⟩ := h
  dsimp only at hr hg hb
  have hlong (n : Nat) (hn : n ≤ 255) : (Value.int n).asLongWord = .ok (n : Int) := by
    have hin : ¬ ((n : Int) < -Value.longWordLimit ∨ Value.longWordLimit ≤ n) := by
      unfold Value.longWordLimit
      omega
    show (if _ then _ else _) = _
    rw [if_neg hin]
    rfl
  have hword (n : Nat) (hn : n ≤ 255) : (Value.int n).asWord = .ok (n : Int) := by
    have hlimit : 255 < Value.wordLimit := by decide
    exact asWord_int_eq_ok_iff.2 ⟨rfl, by omega, by omega⟩
  have hclip (n : Nat) (hn : n ≤ 255) : Color.clip n = n := by
    unfold Color.clip
    omega
  unfold Color.ofParts partsOf
  dsimp only
  rw [hlong r hr, hword g hg, hword b hb]
  show Except.ok (Color.mk (Color.clip r) (Color.clip g) (Color.clip b)) = _
  rw [hclip r hr, hclip g hg, hclip b hb]

theorem meet_loose (seen : List Char) (s : Char) :
    meet (seen.map .ofSymbol) (.ofSymbol s) = .ok ((Diagram.meet seen s).map .ofSymbol) := by
  have hany : (seen.map Value.ofSymbol).any (Value.ofSymbol s).agrees = seen.contains s := by
    rw [List.any_map, List.contains_eq_any_beq]
    congr 1
    funext c
    exact Value.agrees_ofSymbol s c
  unfold meet Diagram.meet
  show Except.ok (if _ then _ else _) = _
  rw [hany]
  split
  · rfl
  · rw [List.map_append, List.map_singleton]

theorem colorOf_loose (hpalette : ∀ c ∈ style.palette, c.IsBytes) (seen : List Char) (s : Char) :
    colorOf (looseStyle style) (seen.map .ofSymbol) (.ofSymbol s)
      = .ok (Diagram.colorOf style seen s) := by
  have hindex : (seen.map Value.ofSymbol).findIdx (Value.ofSymbol s).agrees = seen.idxOf s := by
    rw [List.findIdx_map, List.idxOf]
    congr 1
    funext c
    show (Value.ofSymbol s).agrees (.ofSymbol c) = _
    rw [Value.agrees_ofSymbol, Bool.eq_iff_iff, decide_eq_true_iff, beq_iff_eq, eq_comm]
  unfold colorOf Diagram.colorOf looseStyle
  dsimp only
  rw [hindex, List.length_map, List.getElem?_map]
  cases hc : style.palette[seen.idxOf s % style.palette.length]? with
  | none => rfl
  | some c => exact ofParts_partsOf (hpalette c (List.mem_of_getElem? hc))

theorem toNat_mul_natCast (z : Int) (n : Nat) : (z * n).toNat = z.toNat * n := by
  rcases Int.le_total 0 z with hz | hz
  · obtain ⟨k, rfl⟩ := Int.eq_ofNat_of_zero_le hz
    rfl
  · have hle : z * n ≤ 0 := Int.mul_nonpos_of_nonpos_of_nonneg hz (Int.natCast_nonneg n)
    rw [Int.toNat_of_nonpos hle, Int.toNat_of_nonpos hz, Nat.zero_mul]

/-- The edges of the box of a cell enclose it. -/
theorem box_edgesAt (hside : 0 < style.side) (row : Nat) (p : Int) (i : Nat) :
    ∃ e, edgesAt (looseStyle style) row (.int p) i = .ok e ∧
      e.box = .ok (Diagram.boxAt style row (p + i)) := by
  let left : Int := (p + i - style.origin) * style.side
  let top : Int := row * style.side
  let e : Edges :=
    ⟨.int left, .int top, .int (left + style.side - 1), .int (top + style.side - 1)⟩
  have hedges : edgesAt (looseStyle style) row (.int p) i = .ok e := by
    unfold edgesAt looseStyle
    simp only [Value.plus_int, Value.minus_int, Value.times_int, ok_bind]
    rfl
  have hless : e.right.lessThan e.left = .ok false := by
    show (Value.int _).lessThan (.int _) = _
    rw [Value.lessThan_int, decide_eq_false (by omega)]
  have hleft : left.toNat = (p + i - style.origin).toNat * style.side := toNat_mul_natCast ..
  have htop : top.toNat = row * style.side := toNat_mul_natCast ..
  have hwidth (z : Int) : (z + style.side - 1 - z + 1).toNat = style.side := by omega
  refine ⟨e, hedges, ?_⟩
  unfold Edges.box
  rw [hless, ok_mapError, ok_bind]
  show Except.ok (Box.mk left.toNat top.toNat (left + style.side - 1 - left + 1).toNat
    (top + style.side - 1 - top + 1).toNat) = _
  rw [hwidth, hwidth, hleft, htop]
  rfl

theorem fillStroke_loose (hpalette : ∀ c ∈ style.palette, c.IsBytes) {e : Edges} {b : Box}
    (he : e.box = .ok b) (seen : List Char) (s : Char) :
    fillStroke (looseStyle style) (seen.map .ofSymbol) e (.ofSymbol s) =
      if s = blank then .ok ([], seen.map .ofSymbol)
      else .ok ([⟨b, Diagram.colorOf style (Diagram.meet seen s) s⟩],
        (Diagram.meet seen s).map .ofSymbol) := by
  unfold fillStroke
  rw [Value.same_ofSymbol]
  by_cases hs : s = blank
  · rw [if_pos hs, decide_eq_true hs]
    rfl
  · rw [if_neg hs, decide_eq_false hs, if_neg Bool.false_ne_true, meet_loose, ok_mapError, ok_bind,
      colorOf_loose hpalette, ok_mapError, ok_bind, he, ok_bind]
    rfl

theorem headStrokes_loose {e : Edges} {b : Box} (he : e.box = .ok b) :
    headStrokes (looseStyle style) e
      = .ok (Diagram.headStrokes (Diagram.leastBorderedSide ≤ style.side) b) := by
  have hsmall : (!decide ((style.side : Int) < Diagram.leastBorderedSide))
      = decide (Diagram.leastBorderedSide ≤ style.side) := by
    rw [Bool.eq_iff_iff]
    simp
  have hless : (looseStyle style).side.lessThan (.int Diagram.leastBorderedSide)
      = .ok (decide ((style.side : Int) < Diagram.leastBorderedSide)) :=
    Value.lessThan_int ..
  unfold headStrokes
  rw [hless, ok_mapError, ok_bind, he, ok_bind, hsmall]
  rfl

theorem cellStrokes_cons {style : Style} {c : LooseConfiguration} {i : Nat}
    {seen seen' seen'' : List Value} {v : Value} {rest : List Value} {e : Edges}
    {fill mark strokes : List Stroke}
    (hedges : edgesAt style row c.firstPosition i = .ok e)
    (hfill : fillStroke style seen e v = .ok (fill, seen'))
    (hmark : (if (Value.int i).same c.head then headStrokes style e else .ok []) = .ok mark)
    (hrest : cellStrokes style row c (i + 1) seen' rest = .ok (strokes, seen'')) :
    cellStrokes style row c i seen (v :: rest) = .ok (fill ++ mark ++ strokes, seen'') := by
  rw [cellStrokes, hedges, ok_mapError, ok_bind, hfill, ok_bind]
  dsimp only
  split at hmark
  · next hhead =>
    rw [if_pos hhead, hmark, ok_bind, hrest]
    rfl
  · next hhead =>
    obtain rfl := Except.ok.inj hmark
    rw [if_neg hhead, ok_bind, hrest]
    rfl

/-- The cells of a row are counted from its first one on the one hand, and back from the head on the
other. -/
theorem cellStrokes_loose (hside : 0 < style.side) (hpalette : ∀ c ∈ style.palette, c.IsBytes)
    (c : Configuration) (row i : Nat) (seen cells : List Char) :
    cellStrokes (looseStyle style) row c.loose i (seen.map .ofSymbol) (cells.map .ofSymbol) =
      .ok ((Diagram.cellStrokes style row (c.firstPosition + i) (c.head - i) seen cells).1,
        (Diagram.cellStrokes style row (c.firstPosition + i) (c.head - i) seen cells).2.map
          .ofSymbol) := by
  induction cells generalizing i seen with
  | nil => rfl
  | cons s cells ih =>
    obtain ⟨e, hedges, he⟩ := box_edgesAt hside row c.firstPosition i
    have hmark : (if (Value.int i).same c.loose.head then headStrokes (looseStyle style) e
        else .ok []) = .ok (if c.head - i = 0 then
          Diagram.headStrokes (Diagram.leastBorderedSide ≤ style.side)
            (Diagram.boxAt style row (c.firstPosition + i)) else []) := by
      have hhead : (Value.int i).same c.loose.head = decide ((i : Int) = c.head) :=
        Value.same_int ..
      rw [hhead]
      by_cases hi : (i : Int) = c.head
      · rw [decide_eq_true hi, if_pos rfl, if_pos (by omega), headStrokes_loose he]
      · rw [decide_eq_false hi, if_neg Bool.false_ne_true, if_neg (by omega)]
    have hfill := fillStroke_loose hpalette he seen s
    have hposition : c.firstPosition + (i + 1 : Nat) = c.firstPosition + i + 1 := by omega
    have hhead : c.head - (i + 1 : Nat) = c.head - i - 1 := by omega
    have hrest := fun seen => ih (i + 1) seen
    rw [hposition, hhead] at hrest
    rw [List.map_cons, Diagram.cellStrokes]
    by_cases hs : s = blank
    · rw [if_pos hs] at hfill
      rw [cellStrokes_cons hedges hfill hmark (hrest seen)]
      simp only [if_pos hs]
    · rw [if_neg hs] at hfill
      rw [cellStrokes_cons hedges hfill hmark (hrest _)]
      simp only [if_neg hs]

theorem rowStrokes_loose (hside : 0 < style.side) (hpalette : ∀ c ∈ style.palette, c.IsBytes)
    (row : Nat) (seen : List Char) (cs : List Configuration) :
    rowStrokes (looseStyle style) row (seen.map .ofSymbol) (cs.map Configuration.loose)
      = .ok (Diagram.rowStrokes style row seen cs) := by
  induction cs generalizing row seen with
  | nil => rfl
  | cons c cs ih =>
    have hcells := cellStrokes_loose hside hpalette c row 0 seen c.cells
    rw [Int.natCast_zero, Int.add_zero, Int.sub_zero] at hcells
    rw [List.map_cons, rowStrokes]
    show cellStrokes _ _ _ _ _ (c.cells.map Symbol.value) >>= _ = _
    rw [Symbol.value_char, hcells, ok_bind]
    dsimp only
    rw [ih, ok_bind]
    rfl

/-! ### The extent -/

/-- Of whole numbers, the champion is what taking the better one of two in turn comes to. -/
theorem champion_int (beats : Value → Value → Except Misuse Bool) (better : Int → Int → Int)
    (hbeats : ∀ m n, ∃ b, beats (.int n) (.int m) = .ok b ∧ better m n = if b then n else m)
    (m : Int) (ns : List Int) :
    champion beats (.int m) (ns.map .int) = .ok (.int (ns.foldl better m)) := by
  induction ns generalizing m with
  | nil => rfl
  | cons n ns ih =>
    obtain ⟨b, hb, hbetter⟩ := hbeats m n
    rw [List.map_cons, champion, hb, ok_bind, List.foldl_cons, hbetter]
    cases b
    · exact ih m
    · exact ih n

theorem lastPosition_loose (c : Configuration) :
    lastPosition c.loose = .ok (.int (Diagram.lastPosition c)) := by
  unfold lastPosition
  show (Value.int c.firstPosition).plus (.int (c.cells.map Symbol.value).length) >>= _ = _
  rw [List.length_map, Value.plus_int, ok_bind, Value.minus_int]
  rfl

theorem mapM_lastPosition_loose (cs : List Configuration) :
    (cs.map Configuration.loose).mapM lastPosition
      = .ok ((cs.map Diagram.lastPosition).map .int) := by
  induction cs with
  | nil => rfl
  | cons c cs ih =>
    rw [List.map_cons, List.mapM_cons, lastPosition_loose, ok_bind, ih]
    rfl

theorem extent_loose (c : Configuration) (rest : List Configuration) :
    extent c.loose (rest.map Configuration.loose)
      = .ok (.int (Diagram.leftmost c rest), .int (Diagram.columns c rest)) := by
  have hleft : champion Value.lessThan c.loose.firstPosition
      ((rest.map Configuration.loose).map (·.firstPosition))
      = .ok (.int (Diagram.leftmost c rest)) := by
    have h := champion_int Value.lessThan min
      (fun m n => ⟨_, Value.lessThan_int n m, by simp only [decide_eq_true_eq]; omega⟩)
      c.firstPosition (rest.map (·.firstPosition))
    rw [List.foldl_map, List.map_map] at h
    rw [List.map_map]
    exact h
  have hright : champion (fun v w => w.lessThan v) (.int (Diagram.lastPosition c))
      ((rest.map Diagram.lastPosition).map .int) = .ok (.int (Diagram.rightmost c rest)) := by
    have h := champion_int (fun v w => w.lessThan v) max
      (fun m n => ⟨_, Value.lessThan_int m n, by simp only [decide_eq_true_eq]; omega⟩)
      (Diagram.lastPosition c) (rest.map Diagram.lastPosition)
    rw [List.foldl_map] at h
    exact h
  unfold extent
  rw [hleft, ok_bind, lastPosition_loose, ok_bind, mapM_lastPosition_loose, ok_bind, hright,
    ok_bind, Value.minus_int, ok_bind, Value.plus_int, ok_bind, ← Diagram.columns_eq]
  rfl

/-! ### Pictures -/

theorem styleOf_loose {cellSize : Int} (hsize : 1 ≤ cellSize) (palette : Option (List Color))
    (c : Configuration) (rest : List Configuration) :
    styleOf (.int (Diagram.leftmost c rest)) (.int cellSize) ((palette.getD []).map partsOf)
      = looseStyle (Diagram.styleOf c rest cellSize.toNat palette) := by
  have hside : ((cellSize.toNat : Nat) : Int) = cellSize := Int.toNat_of_nonneg (by omega)
  unfold styleOf looseStyle Diagram.styleOf
  dsimp only
  rw [hside]
  match palette with
  | none => rfl
  | some [] => rfl
  | some (color :: colors) => rfl

/-- **Diagrams of unchecked values** that are configurations, a whole number and colours. -/
theorem draw_loose (room : Room) {palette : Option (List Color)}
    (hpalette : ∀ colors, palette = some colors → ∀ c ∈ colors, c.IsBytes)
    (cs : List Configuration) (cellSize : Int) :
    draw room (cs.map Configuration.loose) (.int cellSize) ((palette.getD []).map partsOf)
      = (Diagram.draw room cs cellSize palette).mapError .diagram := by
  cases cs with
  | nil => rfl
  | cons c rest =>
    have hcolors : ∀ color ∈ (Diagram.styleOf c rest cellSize.toNat palette).palette,
        color.IsBytes := by
      match palette with
      | none => exact (by decide : ∀ color ∈ defaultPalette, color.IsBytes)
      | some [] => exact (by decide : ∀ color ∈ defaultPalette, color.IsBytes)
      | some (color :: colors) => exact hpalette _ rfl
    rw [List.map_cons]
    unfold draw Diagram.draw
    dsimp only
    rw [Value.lessThan_int, ok_mapError, ok_bind]
    by_cases hsmall : cellSize < 1
    · rw [decide_eq_true hsmall, if_pos rfl, if_pos hsmall]
      rfl
    have hsize : 1 ≤ cellSize := by omega
    have hheight : ((c.loose :: rest.map Configuration.loose).length : Int) * cellSize
        = ((rest.length : Int) + 1) * cellSize := by
      rw [List.length_cons, List.length_map, Int.natCast_succ]
    rw [decide_eq_false hsmall, if_neg Bool.false_ne_true, if_neg hsmall, extent_loose, ok_mapError,
      ok_bind]
    dsimp only
    rw [Value.times_int, ok_mapError, ok_bind, Value.times_int, ok_mapError, ok_bind, hheight]
    cases hcheck : Size.check room (.int (Diagram.columns c rest * cellSize))
        (.int (((rest.length : Int) + 1) * cellSize)) with
    | error f => rfl
    | ok size =>
      obtain ⟨rfl, -⟩ := Size.check_int_eq_ok_iff.1 hcheck
      have hside : 0 < (Diagram.styleOf c rest cellSize.toNat palette).side :=
        show 0 < cellSize.toNat by omega
      have hstrokes := rowStrokes_loose hside hcolors 0 [] (c :: rest)
      rw [ok_mapError, ok_bind]
      dsimp only
      rw [List.map_cons] at hstrokes
      rw [styleOf_loose hsize, ← List.map_nil, hstrokes, ok_bind]
      have hpixels (z : Int) : (z * cellSize).toNat = z.toNat * cellSize.toNat := by
        conv_lhs => rw [← Int.toNat_of_nonneg (show 0 ≤ cellSize by omega)]
        exact toNat_mul_natCast ..
      rw [hpixels, hpixels]
      rfl

end LooseDiagram

end TapeMachine.Picture
