import TapeMachine.Proofs.Machine.Run
import TapeMachine.Proofs.Picture.Pixels

/-!
# The diagram of a run

The configurations of a run hold the live cells only, and these are not the same ones at every
step.  Its diagram shows the history of the unbounded tape all the same: what is live lies
within its columns (`Depicts.mem_columns`), and what is not live is blank, as is what is not
drawn (`Depicts.shade_eq`).  `diagram_shows_history` says it of all pixels.
-/

namespace TapeMachine

open Picture Picture.Diagram

namespace Configuration.Depicts

variable {c : Configuration} {i : UnboundedMachine} {n : Nat} {p : Int}

theorem getElem?_cells (h : c.Depicts i n) {k : Nat} (hk : k < c.cells.length) :
    c.cells[k]? = some (i.tape.symbol (c.firstPosition + k)) := by
  rw [h.cells, List.getElem?_map, List.getElem?_range hk]
  rfl

/-- What is not blank or under the head is live. -/
theorem mem_cells (h : c.Depicts i n) (hp : i.tape.symbol p ≠ TapeMachine.blank ∨ p = i.tape.head) :
    c.firstPosition ≤ p ∧ p ≤ lastPosition c := by
  rw [lastPosition]
  rcases hp with hp | rfl
  · have := mt (h.blank p) hp
    omega
  · have hhead := h.headPosition
    rw [Configuration.headPosition] at hhead
    have := h.head_nonneg
    have := h.head_lt
    omega

theorem mem_columns (h : c.Depicts i n) {d : Configuration} {rest : List Configuration}
    (hc : c ∈ d :: rest) (hp : i.tape.symbol p ≠ TapeMachine.blank ∨ p = i.tape.head) :
    leftmost d rest ≤ p ∧ p < leftmost d rest + columns d rest := by
  obtain ⟨hfirst, hlast⟩ := h.mem_cells hp
  have := leftmost_le hc
  have := le_rightmost hc
  rw [columns_eq]
  omega

/-- **The shade of a place** where boxes have borders: the colour of the head on the border of its
box, and the colour of the symbol on the unbounded tape everywhere else. -/
theorem shade_eq (h : c.Depicts i n) {style : Style} (hside : leastBorderedSide ≤ style.side)
    (symbols : List Char) (p : Int) (edge : Bool) :
    shade style symbols c.firstPosition c.head c.cells p edge background =
      if edge ∧ p = i.tape.head then headColor
      else if i.tape.symbol p = TapeMachine.blank then background
      else colorOf style symbols (i.tape.symbol p) := by
  have hsmall : ¬ style.side < leastBorderedSide := by omega
  by_cases hp : c.firstPosition ≤ p ∧ p < c.firstPosition + c.cells.length
  · obtain ⟨k, rfl⟩ : ∃ k : Nat, p = c.firstPosition + k :=
      ⟨(p - c.firstPosition).toNat, by omega⟩
    have hhead : c.firstPosition + k = i.tape.head ↔ (k : Int) = c.head := by
      have := h.headPosition
      rw [Configuration.headPosition] at this
      omega
    rw [shade_of_getElem? _ _ _ _ _ (h.getElem?_cells (by omega))]
    simp only [hhead, hsmall, or_false]
    exact if_congr and_comm rfl rfl
  · have hblank : i.tape.symbol p = TapeMachine.blank := h.blank p (by omega)
    have hno : ¬ p = i.tape.head := by
      intro hp'
      have := h.mem_cells (.inr hp')
      rw [lastPosition] at this
      omega
    rw [shade_of_out _ _ _ _ (by omega), if_neg fun hedge => hno hedge.2, if_pos hblank]

end Configuration.Depicts

namespace Picture.Diagram

variable {c : Configuration} {rest : List Configuration} {side : Nat}

/-- No symbol takes the colour of the head unless the palette holds it. -/
theorem colorOf_ne_headColor {palette : Option (List Color)}
    (h : ∀ colors, palette = some colors → headColor ∉ colors) (symbols : List Char) (s : Char) :
    colorOf (styleOf c rest side palette) symbols s ≠ headColor := by
  have hpalette : headColor ∉ (styleOf c rest side palette).palette := by
    match palette with
    | none => exact (by decide : headColor ∉ defaultPalette)
    | some [] => exact (by decide : headColor ∉ defaultPalette)
    | some (color :: colors) => exact h _ rfl
  rw [colorOf]
  intro heq
  cases hc : (styleOf c rest side palette).palette[symbols.idxOf s %
    (styleOf c rest side palette).palette.length]? with
  | none =>
    rw [hc] at heq
    exact absurd heq (by decide)
  | some color =>
    rw [hc] at heq
    exact hpalette (heq ▸ List.mem_of_getElem? hc)

/-- The pixels of the box of a position in a row. -/
theorem pixel?_boxAt (style : Style) (hside : 0 < style.side)
    (horigin : style.origin = leftmost c rest) {k : Nat} {d : Configuration}
    (hd : (c :: rest)[k]? = some d) {p : Int} (hp : leftmost c rest ≤ p)
    (hp' : p < leftmost c rest + columns c rest) {dx dy : Nat} (hdx : dx < style.side)
    (hdy : dy < style.side) :
    (paint style c rest).pixel? ((p - leftmost c rest).toNat * style.side + dx)
        (k * style.side + dy) =
      some (shade style (symbolsOf (c :: rest)) d.firstPosition d.head d.cells p
        (dx = 0 ∨ dx + 1 = style.side ∨ dy = 0 ∨ dy + 1 = style.side) background) := by
  have hdiv : ∀ n d, d < style.side → (n * style.side + d) / style.side = n := fun n d hd => by
    rw [Nat.mul_comm, Nat.mul_add_div hside, Nat.div_eq_of_lt hd, Nat.add_zero]
  have hmod : ∀ n d, d < style.side → (n * style.side + d) % style.side = d := fun n d hd => by
    rw [Nat.mul_comm, Nat.mul_add_mod, Nat.mod_eq_of_lt hd]
  have hposition : positionAt style ((p - leftmost c rest).toNat * style.side + dx) = p := by
    rw [positionAt, hdiv _ _ hdx, horigin]
    omega
  rw [pixel?_paint hside horigin hd (by rw [hdiv _ _ hdx]; omega) (hdiv _ _ hdy), hposition]
  congr 2
  rw [onEdge, hmod _ _ hdx, hmod _ _ hdy, Bool.eq_iff_iff]
  simp [or_assoc]

end Picture.Diagram

namespace Machine

/-- **The diagram of a run shows the history of the unbounded tape**, whatever of it was live.
Unless there is no raster of its size, a diagram is drawn; each position that is not blank or under
the head at some step has its column; and in the box of a position at a step, the inner pixels
tell the symbol there, and those on the border tell whether the head is there. -/
theorem diagram_shows_history (startState endState : Value) (table : Table Situation Action)
    (hstart : startState.IsKey) (htable : ∀ e ∈ table, e.2.IsValid) (word : String)
    (limit : Option Int) (traced : Bool) (moments : Nat) {cellSize : Int} (hsize : 3 ≤ cellSize)
    {palette : Option (List Color)}
    (hpalette : ∀ colors, palette = some colors → headColor ∉ colors) :
    let i := UnboundedMachine.new startState endState table word.toList
    let r := Run.drive (moments + 1)
      (.ofStart ((new startState endState table).start word) (limitValue limit) traced false)
    let side := cellSize.toNat
    ∃ c rest img, r.configurations = c :: rest ∧
      (∀ room, draw room r.configurations cellSize palette =
        ((Size.check room (.int (columns c rest * cellSize))
          (.int (r.configurations.length * cellSize))).mapError .size).map fun _ => img) ∧
      (∀ t < r.configurations.length, ∀ p,
        (i.after t).tape.symbol p ≠ blank ∨ p = (i.after t).tape.head →
          leftmost c rest ≤ p ∧ p < leftmost c rest + columns c rest) ∧
      ∀ t < r.configurations.length, ∀ p,
        leftmost c rest ≤ p → p < leftmost c rest + columns c rest →
          ∀ dx < side, ∀ dy < side,
            let pixel := img.pixel? ((p - leftmost c rest).toNat * side + dx) (t * side + dy)
            let symbol := (i.after t).tape.symbol p
            let inner := if symbol = blank then background
              else colorOf (styleOf c rest side palette) (symbolsOf r.configurations) symbol
            let edge := dx = 0 ∨ dx + 1 = side ∨ dy = 0 ∨ dy + 1 = side
            (¬ edge → pixel = some inner) ∧
              (edge → (pixel = some headColor ↔ p = (i.after t).tape.head) ∧
                (p ≠ (i.after t).tape.head → pixel = some inner)) := by
  intro i r side
  have hi : i.Sound := ⟨hstart, htable⟩
  obtain ⟨n, hn⟩ : ∃ n, r.Emitted i (n + 1) := by
    rcases (Run.underway_ofStart startState endState table word limit traced).exists_emitted hi
      (moments + 1) with hr | ⟨k, -, -, hr⟩
    · exact ⟨moments, hr.emitted⟩
    · exact ⟨k, hr⟩
  obtain ⟨c, rest, hr⟩ : ∃ c rest, r.configurations = c :: rest :=
    List.exists_cons_of_length_eq_add_one hn.length_eq
  refine ⟨c, rest, paint (styleOf c rest side palette) c rest, hr, fun room => ?_,
    fun t ht p hp => ?_, fun t ht p hp hp' dx hdx dy hdy => ?_⟩
  · rw [hr, draw_eq room (by omega)]
    rfl
  · have hd := List.getElem?_eq_getElem ht
    exact (hn.depicts hd).mem_columns (hr ▸ List.mem_of_getElem? hd) hp
  · obtain ⟨d, hd⟩ : ∃ d, r.configurations[t]? = some d := ⟨_, List.getElem?_eq_getElem ht⟩
    have hside : leastBorderedSide ≤ side := by
      rw [leastBorderedSide]
      omega
    have hpixel := pixel?_boxAt (styleOf c rest side palette)
      (show 0 < side by omega) rfl (by rwa [hr] at hd) hp hp' hdx hdy
    rw [(hn.depicts hd).shade_eq hside, ← hr] at hpixel
    intro pixel symbol inner edge
    have hinner : inner ≠ headColor := by
      by_cases hs : symbol = blank
      · simp only [inner, if_pos hs]
        decide
      · simp only [inner, if_neg hs]
        exact colorOf_ne_headColor hpalette _ _
    have hshown : pixel = some (if edge ∧ p = (i.after t).tape.head then headColor else inner) := by
      refine hpixel.trans (congrArg some (if_congr ?_ rfl rfl))
      rw [decide_eq_true_iff]
      rfl
    refine ⟨fun hedge => ?_, fun hedge => ⟨⟨fun hred => ?_, fun hp => ?_⟩, fun hp => ?_⟩⟩
    · rw [hshown, if_neg fun h => hedge h.1]
    · by_contra hp
      rw [hshown, if_neg fun h => hp h.2, Option.some.injEq] at hred
      exact hinner hred
    · rw [hshown, if_pos ⟨hedge, hp⟩]
    · rw [hshown, if_neg fun h => hp h.2]

/-- A machine that goes from an `a` to the `b` beside it: in the first row the border tells where
the head is, and the box of the `b` has the second colour. -/
theorem diagram_shows_history_of_two_rows :
    ∃ img, draw .boundless ((new (.int 0) (.int 1)
          [(⟨.int 0, .ofSymbol 'a'⟩, ⟨.int 1, .ofSymbol 'a', .int 1⟩)]).run "ab" none
            2).configurations 3 none = .ok img ∧
      img.pixel? 0 0 = some headColor ∧ img.pixel? 4 1 = some ⟨40, 90, 200⟩ := by
  have hrun : ((new (.int 0) (.int 1)
      [(⟨.int 0, .ofSymbol 'a'⟩, ⟨.int 1, .ofSymbol 'a', .int 1⟩)]).run "ab" none 2).configurations
      = [⟨.int 0, ['a', 'b'], 0, 0, 0⟩, ⟨.int 1, ['a', 'b'], 1, 0, 1⟩] := by rfl
  have htable : ∀ e ∈ ([(⟨.int 0, .ofSymbol 'a'⟩, ⟨.int 1, .ofSymbol 'a', .int 1⟩)] :
      Table Situation Action), e.2.IsValid := by
    intro e he
    obtain rfl := List.mem_singleton.1 he
    exact ⟨by decide, rfl⟩
  obtain ⟨c, rest, img, hr, hdraw, -, hpixel⟩ :=
    diagram_shows_history (.int 0) (.int 1) _ rfl htable "ab" none true 1 (Int.le_refl 3)
      (show ∀ colors : List Color, none = some colors → headColor ∉ colors from nofun)
  obtain ⟨rfl, rfl⟩ := List.cons.inj (hrun.symm.trans hr)
  have hlength := congrArg List.length hrun
  refine ⟨img, hdraw .boundless, ?_, ?_⟩
  · exact ((hpixel 0 (hlength ▸ by decide) 0 (by decide) (by decide) 0 (by decide) 0 (by decide)).2
      (.inl rfl)).1.2 rfl
  · refine ((hpixel 0 (hlength ▸ by decide) 1 (by decide) (by decide) 1 (by decide) 1
      (by decide)).1 (by decide)).trans ?_
    rfl

end Machine

end TapeMachine
