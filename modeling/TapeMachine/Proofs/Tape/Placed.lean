import TapeMachine.Proofs.Tape.Canonical

/-!
# Words on unbounded tapes

`UnboundedTape.placed first left right` holds the word `left ++ right` from position `first` on,
with the head behind `left`.  Reading, writing and moving work on the two parts as on lists, and
a head that goes beyond an end finds a blank there.

If the word neither begins nor ends in a blank beside the head, a trimmed tape that shows it has it
in its live cells: `Shows.placed_eq`.
-/

namespace TapeMachine

namespace UnboundedTape

/-- The unbounded tape that holds a word in two parts from a position on, with the head behind the
first part. -/
def placed (first : Int) (left right : List Char) : UnboundedTape where
  symbol p := if first ≤ p then (left ++ right)[(p - first).toNat]?.getD blank else blank
  head := first + left.length

variable {first p : Int} {left right : List Char} {c d : Char}

theorem ofWord_eq_placed (word : List Char) : ofWord word = placed 0 [] word := by
  refine UnboundedTape.ext (funext fun p => ?_) rfl
  simp [ofWord, placed]

theorem symbol_placed (first : Int) (left right : List Char) (k : Nat) :
    (placed first left right).symbol (first + k) = (left ++ right)[k]?.getD blank := by
  have hidx : (first + (k : Int) - first).toNat = k := by omega
  show (if first ≤ first + (k : Int) then _ else _) = _
  rw [if_pos (by omega), hidx]

theorem symbol_placed_of_out (hp : p < first ∨ first + ((left ++ right).length : Int) ≤ p) :
    (placed first left right).symbol p = blank := by
  show (if first ≤ p then _ else _) = _
  by_cases hle : first ≤ p
  · rw [if_pos hle, List.getElem?_eq_none (by omega)]
    rfl
  · rw [if_neg hle]

/-- The symbol under the head is the first of the second part. -/
theorem read_placed : (placed first left right).read = right.head?.getD blank := by
  rw [read, List.head?_eq_getElem?]
  show (placed first left right).symbol (first + left.length) = _
  rw [symbol_placed, List.getElem?_append_right le_rfl, Nat.sub_self]

/-- Behind the word there is a blank. -/
theorem placed_nil (first : Int) (left : List Char) :
    placed first left [] = placed first left [blank] := by
  refine UnboundedTape.ext (funext fun p => ?_) rfl
  simp only [placed, List.append_nil, List.getElem?_append]
  by_cases hp : (p - first).toNat < left.length
  · rw [if_pos hp]
  · have hout : left[(p - first).toNat]? = none := List.getElem?_eq_none (by omega)
    rw [if_neg hp, hout]
    cases (p - first).toNat - left.length <;> rfl

theorem write_placed :
    (placed first left (c :: right)).write d = placed first left (d :: right) := by
  refine UnboundedTape.ext (funext fun p => ?_) rfl
  have hset : (left ++ c :: right).set left.length d = left ++ d :: right := by simp
  simp only [write, placed, Function.update_apply, ← hset, List.getElem?_set]
  by_cases hp : p = first + left.length
  · have hidx : left.length = (p - first).toNat := by omega
    rw [if_pos hp, if_pos (by omega), if_pos hidx, if_pos (by simp)]
    rfl
  · by_cases hle : first ≤ p
    · have hidx : left.length ≠ (p - first).toNat := by omega
      rw [if_neg hp, if_pos hle, if_pos hle, if_neg hidx]
    · rw [if_neg hp, if_neg hle, if_neg hle]

/-- To write a blank behind the word changes nothing. -/
theorem write_blank_placed_nil : (placed first left []).write blank = placed first left [] := by
  rw [placed_nil, write_placed]

theorem move_right_placed :
    (placed first left (c :: right)).move .right = placed first (left ++ [c]) right := by
  refine UnboundedTape.ext (funext fun p => ?_) ?_
  · simp [move, placed]
  · simp [move, placed, Direction.offset]
    omega

theorem move_left_placed :
    (placed first (left ++ [c]) right).move .left = placed first left (c :: right) := by
  refine UnboundedTape.ext (funext fun p => ?_) ?_
  · simp [move, placed]
  · simp [move, placed, Direction.offset]
    omega

/-- Before the word there is a blank. -/
theorem move_left_placed_nil :
    (placed first [] right).move .left = placed (first - 1) [] (blank :: right) := by
  refine UnboundedTape.ext (funext fun p => ?_) ?_
  · simp only [move, placed, List.nil_append]
    by_cases hp : first ≤ p
    · have hidx : (p - (first - 1)).toNat = (p - first).toNat + 1 := by omega
      rw [if_pos hp, if_pos (by omega), hidx, List.getElem?_cons_succ]
    · by_cases he : p = first - 1
      · have hidx : (p - (first - 1)).toNat = 0 := by omega
        rw [if_neg hp, if_pos (by omega), hidx]
        rfl
      · rw [if_neg hp, if_neg (by omega)]
  · simp [move, placed, Direction.offset]
    omega

end UnboundedTape

namespace Tape

open UnboundedTape (placed)

variable {t : Tape} {f : Int → Nat} {first : Int} {left right : List Char} {c : Char}

/-- The tape of a word without blanks is trimmed. -/
theorem trimmed_ofWord {word : List Char} (h : ∀ c ∈ word, c ≠ TapeMachine.blank) :
    (ofWord word : Tape).Trimmed := by
  have hs := shows_ofWord word
  cases word with
  | nil => exact ⟨fun hd => hd.1 rfl, fun hd => hd.1 rfl⟩
  | cons s rest =>
    refine ⟨fun hd => hd.1 rfl, fun hd => ?_⟩
    have hb := hd.2
    rw [← hs.last, hs.blankAt_iff hs.last_mem, UnboundedTape.ofWord_eq_placed] at hb
    have hlast : (ofWord (s :: rest) : Tape).lastPosition = 0 + (rest.length : Int) := by
      rw [Int.zero_add]
      rfl
    rw [hlast, UnboundedTape.symbol_placed, List.nil_append,
      List.getElem?_eq_getElem (by simp)] at hb
    exact h _ (List.getElem_mem _) hb

/-- **A trimmed tape that shows a word** has it in its live cells, unless the word begins or ends in
a blank beside the head. -/
theorem Shows.placed_eq (h : t.Shows f (placed first left (c :: right))) (ht : t.Trimmed)
    (hleft : left.head? ≠ some TapeMachine.blank)
    (hright : right.getLast? ≠ some TapeMachine.blank) :
    t.firstPosition = first ∧ t.symbols = left ++ c :: right ∧ t.headIndex = left.length := by
  have hpos : t.position = first + left.length := h.position_eq
  have hlower := h.isLeast_firstPosition ht
  have hupper := h.isGreatest_lastPosition ht
  have hin : ∀ p, (placed first left (c :: right)).symbol p ≠ TapeMachine.blank →
      first ≤ p ∧ p < first + ((left ++ c :: right).length : Int) := by
    intro p hp
    by_contra hout
    exact hp (UnboundedTape.symbol_placed_of_out (by omega))
  rw [h.contents_eq, hpos] at hlower hupper
  have hfirst : t.firstPosition = first := by
    refine hlower.unique ⟨?_, fun p hp => ?_⟩
    · cases left with
      | nil => exact .inl (by simp)
      | cons a left =>
        have hsymbol : (placed first (a :: left) (c :: right)).symbol first = a := by
          simpa using UnboundedTape.symbol_placed first (a :: left) (c :: right) 0
        exact .inr fun hb => hleft (congrArg some (hsymbol.symm.trans hb))
    · rcases hp with rfl | hp
      · omega
      · exact (hin p hp).1
  have hlast : t.lastPosition = first + left.length + right.length := by
    refine hupper.unique ⟨?_, fun p hp => ?_⟩
    · by_cases hnil : right = []
      · exact .inl (by simp [hnil])
      obtain ⟨b, hb⟩ := Option.ne_none_iff_exists'.1 (mt List.getLast?_eq_none_iff.1 hnil)
      have hlen := List.length_pos_iff.2 hnil
      have hsymbol := UnboundedTape.symbol_placed first left (c :: right)
        (left.length + right.length)
      rw [List.getElem?_append_right (by omega), Nat.add_sub_cancel_left,
        List.getElem?_cons, if_neg (by omega), ← List.getLast?_eq_getElem?, hb] at hsymbol
      refine .inr fun hblank => hright ?_
      rw [Int.add_assoc, ← Int.natCast_add, hsymbol] at hblank
      rw [hb]
      exact congrArg some hblank
    · rcases hp with rfl | hp
      · omega
      · have := (hin p hp).2
        simp at this
        omega
  have hl := h.length_eq
  have hidx := h.headIndex_eq
  have hlength : t.length = (left ++ c :: right).length := by
    simp
    omega
  refine ⟨hfirst, ?_, by omega⟩
  rw [h.symbols_eq, positions, List.map_map, hlength, hfirst]
  refine List.ext_getElem (by simp) fun k h₁ h₂ => ?_
  rw [List.getElem_map, List.getElem_range]
  show (placed first left (c :: right)).symbol (first + k) = _
  rw [UnboundedTape.symbol_placed, List.getElem?_eq_getElem h₂]
  rfl

end Tape

end TapeMachine
