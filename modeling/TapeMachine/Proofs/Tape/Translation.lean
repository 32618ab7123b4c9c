import TapeMachine.Proofs.Tape.Canonical

/-!
# Translated tapes

An unbounded tape is translated by moving everything on it, the head included, by the same
distance.  `t.Translates t' δ` says that two tapes show the same but for a distance `δ`, with
as many live cells on each side of the head.  They look alike (`Translates.symbols_eq`,
`Translates.headIndex_eq`), tapes that look alike are translated ones
(`Shows.translates`), and writing and moving keep that (`Translates.write`,
`Translates.move`): what a tape does next depends on nothing but how it looks.
-/

namespace TapeMachine

/-- The unbounded tape with everything on it moved by a distance. -/
def UnboundedTape.translate (u : UnboundedTape) (δ : Int) : UnboundedTape :=
  ⟨fun p => u.symbol (p - δ), u.head + δ⟩

namespace UnboundedTape

variable (u : UnboundedTape) (δ : Int)

@[simp] theorem read_translate : (u.translate δ).read = u.read := by
  simp [read, translate]

theorem write_translate (c : Char) : (u.translate δ).write c = (u.write c).translate δ := by
  refine UnboundedTape.ext (funext fun p => ?_) rfl
  simp only [translate, write, Function.update_apply]
  by_cases h : p = u.head + δ
  · rw [if_pos h, if_pos (by omega)]
  · rw [if_neg h, if_neg (by omega)]

theorem move_translate (d : Direction) : (u.translate δ).move d = (u.move d).translate δ := by
  refine UnboundedTape.ext rfl ?_
  show u.head + δ + d.offset = u.head + d.offset + δ
  omega

end UnboundedTape

namespace Tape

variable {t t' : Tape} {f f' : Int → Nat} {u u' : UnboundedTape} {δ : Int}

/-- **A tape translates to another**: the second shows what the first does, moved by a distance, in
live cells that are moved by it as well. -/
structure Translates (t t' : Tape) (δ : Int) : Prop where
  shows : ∃ f f' u, t.Shows f u ∧ t'.Shows f' (u.translate δ)
  firstPosition : t'.firstPosition = t.firstPosition + δ
  lastPosition : t'.lastPosition = t.lastPosition + δ

namespace Translates

theorem length_eq (h : t.Translates t' δ) : t'.length = t.length := by
  rw [length, length, h.firstPosition, h.lastPosition]
  congr 1
  omega

theorem read_eq (h : t.Translates t' δ) : t'.read = t.read := by
  obtain ⟨f, f', u, hs, hs'⟩ := h.shows
  rw [hs'.read_eq, hs.read_eq, UnboundedTape.read_translate]

/-- Translated tapes hold the same in their live cells. -/
theorem symbols_eq (h : t.Translates t' δ) : t'.symbols = t.symbols := by
  obtain ⟨f, f', u, hs, hs'⟩ := h.shows
  rw [hs'.symbols_eq, hs.symbols_eq, positions, positions, List.map_map, List.map_map, h.length_eq]
  refine List.map_congr_left fun i _ => ?_
  show u.symbol (t'.firstPosition + i - δ) = u.symbol (t.firstPosition + i)
  rw [h.firstPosition]
  congr 1
  omega

theorem headIndex_eq (h : t.Translates t' δ) : t'.headIndex = t.headIndex := by
  obtain ⟨f, f', u, hs, hs'⟩ := h.shows
  have hidx := hs.headIndex_eq
  have hidx' := hs'.headIndex_eq
  have hposition : t'.position = t.position + δ := by
    rw [hs'.position_eq, hs.position_eq]
    rfl
  rw [hposition, h.firstPosition] at hidx'
  omega

theorem write (h : t.Translates t' δ) (c : Char) : (t.write c).Translates (t'.write c) δ := by
  obtain ⟨f, f', u, hs, hs'⟩ := h.shows
  refine ⟨⟨f, f', u.write c, hs.write c, ?_⟩, h.firstPosition, h.lastPosition⟩
  rw [← UnboundedTape.write_translate]
  exact hs'.write c

end Translates

/-- Trimmed tapes that show the same but for a distance are translated ones, since the ends of a
trimmed tape are where what it shows has its ends. -/
theorem Shows.translates_of_trimmed (h : t.Shows f u) (h' : t'.Shows f' (u.translate δ))
    (ht : t.Trimmed) (ht' : t'.Trimmed) : t.Translates t' δ := by
  have hposition : t'.position = t.position + δ := by
    rw [h'.position_eq, h.position_eq]
    rfl
  have hmem : ∀ p, (p = t'.position ∨ t'.contents p ≠ Symbol.ofChar TapeMachine.blank) ↔
      (p - δ = t.position ∨ t.contents (p - δ) ≠ Symbol.ofChar TapeMachine.blank) := by
    intro p
    rw [h'.contents_eq, h.contents_eq, hposition]
    refine or_congr ?_ Iff.rfl
    omega
  obtain ⟨hfirst, hleast⟩ := h.isLeast_firstPosition ht
  obtain ⟨hlast, hgreatest⟩ := h.isGreatest_lastPosition ht
  refine ⟨⟨f, f', u, h, h'⟩, (h'.isLeast_firstPosition ht').unique ⟨?_, ?_⟩,
    (h'.isGreatest_lastPosition ht').unique ⟨?_, ?_⟩⟩
  · rw [Set.mem_ofPred_eq, hmem, Int.add_sub_cancel]
    exact hfirst
  · intro p hp
    have := hleast ((hmem p).1 hp)
    omega
  · rw [Set.mem_ofPred_eq, hmem, Int.add_sub_cancel]
    exact hlast
  · intro p hp
    have := hgreatest ((hmem p).1 hp)
    omega

/-- **Moving keeps tapes translated.**  A head that stays changes nothing, and one that goes leaves
both tapes trimmed. -/
theorem Translates.move (h : t.Translates t' δ) (d : Direction) :
    (t.move d).1.Translates (t'.move d).1 δ := by
  by_cases hd : d = .stay
  · subst hd
    simpa [Tape.move] using h
  · obtain ⟨f, f', u, hs, hs'⟩ := h.shows
    obtain ⟨g, hg⟩ := hs.move d
    obtain ⟨g', hg'⟩ := hs'.move d
    rw [UnboundedTape.move_translate] at hg'
    exact hg.translates_of_trimmed hg' (hs.trimmed_move hd) (hs'.trimmed_move hd)

/-- **Tapes that look alike are translated ones**: those with the same symbols and as many cells
before the head. -/
theorem Shows.translates (h : t.Shows f u) (h' : t'.Shows f' u') (hsymbols : t'.symbols = t.symbols)
    (hhead : t'.headIndex = t.headIndex) :
    t.Translates t' (t'.firstPosition - t.firstPosition) := by
  have hlength : t'.length = t.length := by
    simpa [h.symbols_eq, h'.symbols_eq] using congrArg List.length hsymbols
  have hl := h.length_eq
  have hl' := h'.length_eq
  have hidx := h.headIndex_eq
  have hidx' := h'.headIndex_eq
  have hu : u' = u.translate (t'.firstPosition - t.firstPosition) := by
    refine UnboundedTape.ext (funext fun p => ?_) ?_
    · rw [← h'.contents_eq]
      show t'.contents p = u.symbol (p - (t'.firstPosition - t.firstPosition))
      rw [← h.contents_eq, contents, contents, hsymbols,
        show p - (t'.firstPosition - t.firstPosition) - t.firstPosition = p - t'.firstPosition by
          omega]
      congr 1
      simp only [eq_iff_iff]
      omega
    · rw [← h'.position_eq]
      show t'.position = u.head + _
      rw [← h.position_eq]
      omega
  subst hu
  exact ⟨⟨f, f', u, h, h'⟩, by omega, by omega⟩

end Tape

end TapeMachine
