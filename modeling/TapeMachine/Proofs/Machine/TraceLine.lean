import TapeMachine.Configuration
import TapeMachine.Proofs.Text.Numeral

/-!
# Lines of configurations

The line of a configuration has its cells between two blanks and dots, with the state in brackets
before the cell under the head (`markedCells_eq`).  If no symbol is an opening bracket, there is one
opening bracket in the line, so the cells before it are told from what comes behind it, and a number
holds no closing bracket, so the state ends at the next one (`append_cons_inj`, used for both).

So such a configuration is **legible** (`Configuration.Legible`): its state, its cells and its head
can be read off its line, whatever else its symbols are (`line_eq_iff`).
-/

namespace TapeMachine.Configuration

open Text

variable {c d : Configuration} {state : Value} {head : Int}

/-- Two texts that go on behind the same character, which is not in what comes before it, agree
before and behind it. -/
theorem append_cons_inj {a : Char} {l l' r r' : List Char} (hl : a ∉ l) (hl' : a ∉ l')
    (h : l ++ a :: r = l' ++ a :: r') : l = l' ∧ r = r' := by
  induction l generalizing l' with
  | nil =>
    cases l' with
    | nil => exact ⟨rfl, (List.cons.inj h).2⟩
    | cons b l' =>
      obtain ⟨rfl, -⟩ := List.cons.inj h
      exact absurd List.mem_cons_self hl'
  | cons b l ih =>
    cases l' with
    | nil =>
      obtain ⟨rfl, -⟩ := List.cons.inj h
      exact absurd List.mem_cons_self hl
    | cons b' l' =>
      obtain ⟨rfl, hrest⟩ := List.cons.inj h
      obtain ⟨-, hl⟩ := List.ne_and_not_mem_of_not_mem_cons hl
      obtain ⟨-, hl'⟩ := List.ne_and_not_mem_of_not_mem_cons hl'
      obtain ⟨rfl, hr⟩ := ih hl hl' hrest
      exact ⟨rfl, hr⟩

/-! ### Where the marker stands -/

/-- Behind the head there is no marker. -/
theorem markedCells_of_neg (h : head < 0) (cells : List Char) :
    markedCells state head cells = cells := by
  induction cells generalizing head with
  | nil => rfl
  | cons s rest ih => rw [markedCells, if_neg h.ne, ih (by omega), List.nil_append]

/-- **The marker stands before the cell under the head.** -/
theorem markedCells_eq (state : Value) (left : List Char) (s : Char) (right : List Char) :
    markedCells state left.length (left ++ s :: right)
      = left ++ (marker state ++ s :: right) := by
  induction left with
  | nil =>
    have hrest : markedCells state (-1) right = right := markedCells_of_neg (by decide) right
    exact congrArg (marker state ++ s :: ·) hrest
  | cons a left ih =>
    have hhead : ((a :: left).length : Int) - 1 = left.length := by
      rw [List.length_cons]
      omega
    rw [List.cons_append, markedCells, if_neg (by rw [List.length_cons]; omega), hhead, ih]
    rfl

/-! ### What can be read off -/

/-- **A legible configuration**: its state is a number, its head is on one of its cells, and no cell
holds an opening bracket. -/
structure Legible (c : Configuration) : Prop where
  state : ∃ n, c.state = .int n
  head_nonneg : 0 ≤ c.head
  head_lt : c.head < c.cells.length
  bracket : '[' ∉ c.cells

/-- The parts of a legible configuration and of what its line has between the blanks at the ends. -/
theorem Legible.exists_parts (h : c.Legible) : ∃ n left s right, '[' ∉ left ∧
    c.state = .int n ∧ c.cells = left ++ s :: right ∧ c.head = left.length ∧
    markedCells c.state c.head c.cells
      = left ++ '[' :: (signed n ++ ']' :: (s :: right)) := by
  obtain ⟨n, hn⟩ := h.state
  obtain ⟨k, hk⟩ := Int.eq_ofNat_of_zero_le h.head_nonneg
  have hlt : k < c.cells.length := by
    have := h.head_lt
    omega
  have hcells : c.cells = c.cells.take k ++ c.cells[k] :: c.cells.drop (k + 1) := by
    rw [← List.drop_eq_getElem_cons hlt, List.take_append_drop]
  have hhead : c.head = (c.cells.take k).length := by
    rw [List.length_take, Nat.min_eq_left hlt.le]
    exact hk
  refine ⟨n, _, _, _, fun hmem => h.bracket (List.mem_of_mem_take hmem), hn, hcells, hhead, ?_⟩
  have hline := markedCells_eq c.state (c.cells.take k) c.cells[k] (c.cells.drop (k + 1))
  rw [← hcells, ← hhead] at hline
  rw [hline, hn, marker, Value.plainChars_int]
  simp

/-- **The line of a legible configuration** shows its state, its cells and its head, and nothing
else. -/
theorem line_eq_iff (hc : c.Legible) (hd : d.Legible) :
    c.line = d.line ↔ c.state = d.state ∧ c.cells = d.cells ∧ c.head = d.head := by
  constructor
  · intro h
    obtain ⟨m, left, s, right, hleft, hm, hcells, hhead, hmarked⟩ := hc.exists_parts
    obtain ⟨n, left', s', right', hleft', hn, hcells', hhead', hmarked'⟩ := hd.exists_parts
    have hchars : c.chars = d.chars := String.ofList_injective h
    rw [chars, chars, List.append_left_inj, List.append_right_inj, hmarked, hmarked'] at hchars
    obtain ⟨rfl, hrest⟩ := append_cons_inj hleft hleft' hchars
    have hdigits : ∀ k : Int, ']' ∉ signed k := by
      intro k hmem
      rcases mem_signed hmem with h | h
      · revert h
        decide
      · revert h
        decide
    obtain ⟨hsigned, hright⟩ := append_cons_inj (hdigits m) (hdigits n) hrest
    obtain rfl := signed_injective hsigned
    refine ⟨hm.trans hn.symm, ?_, hhead.trans hhead'.symm⟩
    rw [hcells, hcells', hright]
  · rintro ⟨hstate, hcells, hhead⟩
    rw [line, line, chars, chars, hstate, hcells, hhead]

/-- Brackets, digits and blanks among the cells are not taken for the marker. -/
theorem line_ne_of_digits :
    let c : Configuration := ⟨.int 1, [']', '1', 'B'], 1, 0, 4⟩
    let d : Configuration := ⟨.int 11, [']', 'B'], 1, 0, 4⟩
    c.Legible ∧ d.Legible ∧ c.line ≠ d.line := by
  intro c d
  have hc : c.Legible := ⟨⟨1, rfl⟩, by decide, by decide, by decide⟩
  have hd : d.Legible := ⟨⟨11, rfl⟩, by decide, by decide, by decide⟩
  refine ⟨hc, hd, fun h => ?_⟩
  obtain ⟨-, hcells, -⟩ := (line_eq_iff hc hd).1 h
  revert hcells
  decide

/-- With opening brackets among the cells, two places of the head may look alike. -/
example :
    let c : Configuration := ⟨.int 0, ['[', '0', ']', 'a'], 0, 0, 0⟩
    let d : Configuration := ⟨.int 0, ['[', '0', ']', 'a'], 3, 0, 0⟩
    c.line = d.line := by
  decide +kernel

end TapeMachine.Configuration
