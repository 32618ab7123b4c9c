import TapeMachine.Proofs.Tape.Canonical

/-!
# Padded tapes

`t.Pads t' n` says that two tapes show the same and that the second has `n` more live cells at
its right end, which are blank then.  Blanks behind a word pad its tape (`pads_ofWord`).
Writing keeps the padding, and so does a head that stays, but a head that goes drops
all of it, wherever it stands (`Pads.move`).
-/

namespace TapeMachine.Tape

variable {t t' : Tape} {n : Nat}

/-- **A tape pads another**: it shows the same, with more live cells at the right end. -/
structure Pads (t t' : Tape) (n : Nat) : Prop where
  shows : ∃ f f' u, t.Shows f u ∧ t'.Shows f' u
  firstPosition : t'.firstPosition = t.firstPosition
  lastPosition : t'.lastPosition = t.lastPosition + n

namespace Pads

theorem length_eq (h : t.Pads t' n) : t'.length = t.length + n := by
  obtain ⟨f, f', u, hs, hs'⟩ := h.shows
  have hl := hs.length_eq
  have hl' := hs'.length_eq
  rw [h.firstPosition, h.lastPosition] at hl'
  omega

theorem read_eq (h : t.Pads t' n) : t'.read = t.read := by
  obtain ⟨f, f', u, hs, hs'⟩ := h.shows
  rw [hs'.read_eq, hs.read_eq]

theorem headIndex_eq (h : t.Pads t' n) : t'.headIndex = t.headIndex := by
  obtain ⟨f, f', u, hs, hs'⟩ := h.shows
  have hidx := hs.headIndex_eq
  have hidx' := hs'.headIndex_eq
  rw [h.firstPosition, hs'.position_eq, ← hs.position_eq] at hidx'
  omega

/-- The cells at the right end are blank. -/
theorem symbols_eq (h : t.Pads t' n) : t'.symbols = t.symbols ++ List.replicate n blank := by
  obtain ⟨f, f', u, hs, hs'⟩ := h.shows
  have hl := hs.length_eq
  have hpositions : t'.positions
      = t.positions ++ (List.range n).map fun k : Nat => t.lastPosition + 1 + k := by
    rw [positions, positions, h.length_eq, h.firstPosition, List.range_add, List.map_append,
      List.map_map]
    refine congrArg _ (List.map_congr_left fun k _ => ?_)
    show t.firstPosition + ((t.length + k : Nat) : Int) = t.lastPosition + 1 + k
    omega
  rw [hs'.symbols_eq, hs.symbols_eq, hpositions, List.map_append, List.map_map]
  refine congrArg _ (List.eq_replicate_iff.2 ⟨by simp, fun s hmem => ?_⟩)
  obtain ⟨k, -, rfl⟩ := List.mem_map.1 hmem
  refine hs.blank _ fun hlive => ?_
  have hle : t.lastPosition + 1 + (k : Int) ≤ t.lastPosition := hlive.2
  omega

theorem countNonblanks_eq (h : t.Pads t' n) : t'.countNonblanks = t.countNonblanks := by
  obtain ⟨f, f', u, hs, hs'⟩ := h.shows
  exact_mod_cast hs'.encard_nonblank.symm.trans hs.encard_nonblank

theorem write (h : t.Pads t' n) (c : Char) : (t.write c).Pads (t'.write c) n := by
  obtain ⟨f, f', u, hs, hs'⟩ := h.shows
  exact ⟨⟨f, f', u.write c, hs.write c, hs'.write c⟩, h.firstPosition, h.lastPosition⟩

/-- **A head that goes drops the padding**, since both tapes are trimmed then. -/
theorem move (h : t.Pads t' n) (d : Direction) :
    (t.move d).1.Pads (t'.move d).1 (if d = .stay then n else 0) := by
  by_cases hd : d = .stay
  · subst hd
    simpa [Tape.move] using h
  obtain ⟨f, f', u, hs, hs'⟩ := h.shows
  obtain ⟨g, hg⟩ := hs.move d
  obtain ⟨g', hg'⟩ := hs'.move d
  obtain ⟨hfirst, hlength, -⟩ := hg.eq_of_contents_eq hg' (hs.trimmed_move hd) (hs'.trimmed_move hd)
    (hg'.contents_eq.trans hg.contents_eq.symm) (hg'.position_eq.trans hg.position_eq.symm)
  have hl := hg.length_eq
  have hl' := hg'.length_eq
  rw [if_neg hd]
  exact ⟨⟨g, g', _, hg, hg'⟩, hfirst, by omega⟩

end Pads

/-! ### Blanks behind a word -/

theorem ofWord_append_blanks (w : List Char) (k : Nat) :
    UnboundedTape.ofWord (w ++ List.replicate k blank) = UnboundedTape.ofWord w := by
  refine UnboundedTape.ext (funext fun p => ?_) rfl
  simp only [UnboundedTape.ofWord, List.getElem?_append]
  by_cases hp : p.toNat < w.length
  · rw [if_pos hp]
  · have hout : w[p.toNat]? = none := List.getElem?_eq_none (by omega)
    rw [if_neg hp, hout, List.getElem?_replicate]
    by_cases hk : p.toNat - w.length < k <;> simp [hk]

/-- **Blanks behind a word pad its tape**; the empty word has a blank of its own. -/
theorem pads_ofWord (w : List Char) (k : Nat) :
    (ofWord w : Tape).Pads (ofWord (w ++ List.replicate k blank))
      (if w = [] then k - 1 else k) where
  shows := by
    have h' := shows_ofWord (w ++ List.replicate k blank)
    rw [ofWord_append_blanks] at h'
    exact ⟨_, _, _, shows_ofWord w, h'⟩
  firstPosition := by rw [firstPosition_ofWord, firstPosition_ofWord]
  lastPosition := by
    have hlength : (cellsOf (w ++ List.replicate k blank)).length
        = (cellsOf w).length + if w = [] then k - 1 else k := by
      cases w with
      | nil =>
        cases k with
        | zero => rfl
        | succ k =>
          rw [List.nil_append, List.replicate_succ]
          simp [cellsOf]
          omega
      | cons s rest => simp [cellsOf]; omega
    have hpos := length_cellsOf_pos w
    rw [lastPosition_ofWord, lastPosition_ofWord, hlength]
    omega

end TapeMachine.Tape
