import TapeMachine.Proofs.Tape.Layout

/-!
# The tape of a word

Cells that are linked in the order in which they were made are a row
(`Chain.IsRow`).  Appending a cell to a row gives a row with one more symbol
(`Chain.IsRow.appendCell`), so the tape of a word is a row with the symbols of the
word, or a single blank if there are none (`isRow_ofWord`).  Its cells lie at the
positions from 0 on, each at the position that is its name (`laidOut_ofWord`).
-/

namespace TapeMachine

variable {σ : Type}

/-- **A row**: the cells of a chain are linked in the order in which they were made, and hold the
symbols of a list. -/
structure Chain.IsRow (c : Chain σ) (w : List σ) : Prop where
  size : c.size = w.length
  symbol : ∀ k, c.symbol? k = w[k]?
  right : ∀ k, c.right? k = if k + 1 < w.length then some (k + 1) else none
  left : ∀ k, c.left? k = if 0 < k ∧ k < w.length then some (k - 1) else none

namespace Chain.IsRow

theorem make (s : σ) : IsRow (Chain.empty.make s) [s] where
  size := rfl
  symbol := by
    intro k
    cases k <;> rfl
  right := by
    intro k
    cases k <;> rfl
  left := by
    intro k
    cases k <;> rfl

theorem appendCell {c : Chain σ} {w : List σ} (h : c.IsRow w) (hw : w ≠ []) (s : σ) :
    (Tape.appendCell c s).IsRow (w ++ [s]) := by
  have hpos : 0 < w.length := List.length_pos_iff.2 hw
  have hlength : (w ++ [s]).length = w.length + 1 := by simp
  refine ⟨?_, fun k => ?_, fun k => ?_, fun k => ?_⟩
  · rw [Tape.appendCell, size_link, size_make, h.size, hlength]
  · rw [Tape.appendCell, symbol?_make_link, h.symbol, h.size]
    by_cases he : k = w.length
    · simp [he]
    · rw [if_neg he, List.getElem?_append]
      split
      · rfl
      · rw [List.getElem?_eq_none (by omega), List.getElem?_eq_none (by simp; omega)]
  · rw [Tape.appendCell, right?_make_link (by omega), h.right, h.size, hlength]
    by_cases he : k = w.length - 1
    · rw [if_pos he, if_pos (by omega)]
      congr 1
      omega
    · rw [if_neg he]
      congr 1
      simp only [eq_iff_iff]
      omega
  · rw [Tape.appendCell, left?_make_link le_rfl, h.left, h.size, hlength]
    by_cases he : k = w.length
    · rw [if_pos he, if_pos (by omega), he]
    · rw [if_neg he]
      congr 1
      simp only [eq_iff_iff]
      omega

theorem foldl_appendCell {c : Chain σ} {w : List σ} (h : c.IsRow w) (hw : w ≠ []) (rest : List σ) :
    (rest.foldl Tape.appendCell c).IsRow (w ++ rest) := by
  induction rest generalizing c w with
  | nil => simpa using h
  | cons s rest ih => simpa using ih (h.appendCell hw s) (by simp)

end Chain.IsRow

namespace Tape

variable [Symbol σ]

/-- What the cells of the tape of a word hold: the symbols of the word, or a blank if there are
none. -/
def cellsOf : List σ → List σ
  | [] => [Symbol.ofChar blank]
  | s :: rest => s :: rest

theorem length_cellsOf_pos (w : List σ) : 0 < (cellsOf w).length := by
  cases w <;> exact Nat.succ_pos _

theorem isRow_ofWord (w : List σ) : (ofWord w).chain.IsRow (cellsOf w) := by
  cases w with
  | nil => exact Chain.IsRow.make _
  | cons s rest => exact (Chain.IsRow.make s).foldl_appendCell (by simp) rest

theorem last_ofWord (w : List σ) : (ofWord w).last = (cellsOf w).length - 1 := by
  cases w <;> rfl

theorem lastPosition_ofWord (w : List σ) :
    (ofWord w).lastPosition = ((cellsOf w).length - 1 : Nat) := by
  cases w <;> rfl

theorem firstPosition_ofWord (w : List σ) : (ofWord w).firstPosition = 0 := by
  cases w <;> rfl

theorem mem_live_ofWord {w : List σ} {p : Int} :
    p ∈ (ofWord w).live ↔ 0 ≤ p ∧ p.toNat < (cellsOf w).length := by
  have := length_cellsOf_pos w
  rw [mem_live, firstPosition_ofWord, lastPosition_ofWord]
  omega

/-- **A layout for the tape of a word.** -/
theorem laidOut_ofWord (w : List σ) : (ofWord w).LaidOut Int.toNat := by
  have hrow := isRow_ofWord w
  have hpos := length_cellsOf_pos w
  have hlast := lastPosition_ofWord w
  have hfirst := firstPosition_ofWord w
  have hnames : (ofWord w).first = 0 ∧ (ofWord w).head = 0 ∧ (ofWord w).position = 0 := by
    cases w <;> exact ⟨rfl, rfl, rfl⟩
  obtain ⟨hfirst', hhead, hposition⟩ := hnames
  exact
    { position_mem := by
        rw [hposition, mem_live_ofWord]
        exact ⟨le_rfl, hpos⟩
      head := by rw [hposition, hhead, Int.toNat_zero]
      first := by rw [hfirst, hfirst', Int.toNat_zero]
      last := by rw [hlast, last_ofWord, Int.toNat_natCast]
      made := by
        intro p hp
        rw [hrow.size]
        exact (mem_live_ofWord.1 hp).2
      injOn := by
        intro p hp q hq hpq
        have h₁ := (mem_live_ofWord.1 hp).1
        have h₂ := (mem_live_ofWord.1 hq).1
        omega
      right := by
        intro p h₁ h₂
        rw [hrow.right, if_pos (by omega)]
        congr 1
        omega
      left := by
        intro p h₁ h₂
        rw [hrow.left, if_pos (by omega)]
        congr 1
        omega
      left_first := by rw [hfirst', hrow.left, if_neg (by omega)]
      right_last := by rw [last_ofWord, hrow.right, if_neg (by omega)] }

end Tape

end TapeMachine
