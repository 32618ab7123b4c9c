import Mathlib.Data.Nat.Digits.Defs
import TapeMachine.Program.Bundled
import TapeMachine.Proofs.Program.Unbounded

/-!
# The binary increment

The bundled program that adds one walks to the right end of the number (`incrementer_scan`),
turns round, carries to the left over the ones (`incrementer_carry`), and writes a one where it
meets a zero or comes out of the number (`incrementer_reaches`).  The number grows by one digit on
the left then if it is made of ones only: `binaryIncrement_run`.
-/

namespace TapeMachine.Program

/-- The number that zeros and ones stand for, the highest digit first. -/
def binaryValue (word : List Char) : Nat :=
  Nat.ofDigits 2 (word.reverse.map fun c => if c = '1' then 1 else 0)

/-- What becomes of a word with so many ones at its end, and where it begins then. -/
inductive Increments : List Char → Nat → List Char → Int → Prop
  | grows (k : Nat) : Increments (.replicate k '1') k ('1' :: .replicate k '0') (-1)
  | fits (front : List Char) (k : Nat) :
      Increments (front ++ '0' :: .replicate k '1') k (front ++ '1' :: .replicate k '0') 0

/-- The binary increment as a program. -/
def incrementer : Program where
  alphabetSize := 3
  inputAlphabet := "01"
  tapeAlphabet := "01B"
  startState := 0
  endState := 2
  table :=
    [(⟨0, '0'⟩, ⟨0, '0', .right⟩), (⟨0, '1'⟩, ⟨0, '1', .right⟩), (⟨0, 'B'⟩, ⟨1, 'B', .left⟩),
      (⟨1, '1'⟩, ⟨1, '0', .left⟩), (⟨1, '0'⟩, ⟨2, '1', .stay⟩), (⟨1, 'B'⟩, ⟨2, '1', .stay⟩)]

theorem binaryIncrement_eq : binaryIncrement = .ok incrementer := by decide +kernel

open UnboundedTape

/-- **Walking to the right** changes nothing. -/
theorem incrementer_scan (left : List Char) {right : List Char}
    (h : ∀ c ∈ right, c = '0' ∨ c = '1') :
    (incrementer.unbounded 0 (placed 0 left right)).Reaches right.length
      (incrementer.unbounded 0 (placed 0 (left ++ right) [])) := by
  have hwalk := reaches_walk (p := incrementer) (s := 0) (by decide) 0 left right [] fun c hc => ?_
  · rwa [List.append_nil] at hwalk
  · rcases h c hc with rfl | rfl <;> rfl

/-- Behind the word the head turns round. -/
theorem incrementer_turn (word : List Char) :
    (incrementer.unbounded 0 (placed 0 word [])).Reaches 1
      (incrementer.unbounded 1 ((placed 0 word []).move .left)) :=
  reaches_turn (by decide) 0 word rfl

/-- **Carrying to the left** turns ones into zeros. -/
theorem incrementer_carry (left right : List Char) (k : Nat) :
    (incrementer.unbounded 1 ((placed 0 (left ++ .replicate k '1') right).move .left)).Reaches k
      (incrementer.unbounded 1 ((placed 0 left (.replicate k '0' ++ right)).move .left)) := by
  induction k generalizing right with
  | zero => simpa using UnboundedMachine.Reaches.refl _
  | succ k ih =>
    have hmove : incrementer.table.lookup?
        ⟨1, (placed 0 (left ++ .replicate k '1') ('1' :: right)).read⟩ = some ⟨1, '0', .left⟩ := by
      rw [read_placed]
      rfl
    have hreach := reaches_move (by decide) hmove
    rw [write_placed] at hreach
    have hrest := hreach.trans (ih ('0' :: right))
    rwa [Nat.add_comm, ← move_left_placed, List.append_assoc, ← List.replicate_succ',
      List.append_cons, ← List.replicate_succ'] at hrest

/-- On a zero or outside the number the head writes a one and is done. -/
theorem incrementer_finish (first : Int) (left : List Char) {s : Char} (hs : s = '0' ∨ s = blank)
    (right : List Char) :
    (incrementer.unbounded 1 (placed first left (s :: right))).Reaches 1
      (incrementer.unbounded 2 (placed first left ('1' :: right))) := by
  have hmove : incrementer.table.lookup? ⟨1, (placed first left (s :: right)).read⟩
      = some ⟨2, '1', .stay⟩ := by
    rw [read_placed]
    rcases hs with rfl | rfl <;> rfl
  have hreach := reaches_move (by decide) hmove
  rwa [write_placed, move_stay] at hreach

/-- **What the incrementer reaches**: it halts with the word incremented, on the digit that has
become a one. -/
theorem incrementer_reaches {word cells : List Char} {k : Nat} {first : Int}
    (hword : ∀ c ∈ word, c = '0' ∨ c = '1') (h : Increments word k cells first) :
    ∃ left, cells = left ++ '1' :: .replicate k '0' ∧ left.head? ≠ some blank ∧
      (incrementer.unbounded 0 (.ofWord word)).Reaches (word.length + k + 2)
        (incrementer.unbounded 2 (placed first left ('1' :: .replicate k '0'))) := by
  have hthere := (incrementer_scan [] hword).trans (incrementer_turn word)
  rw [ofWord_eq_placed, show word.length + k + 2 = word.length + 1 + k + 1 by omega]
  cases h with
  | grows =>
    have hback := incrementer_carry [] [] k
    rw [List.append_nil, move_left_placed_nil] at hback
    exact ⟨[], rfl, by simp, (hthere.trans hback).trans (incrementer_finish _ _ (.inr rfl) _)⟩
  | fits front =>
    have hback := incrementer_carry (front ++ ['0']) [] k
    rw [List.append_nil, move_left_placed, ← List.append_cons] at hback
    refine ⟨front, rfl, fun hb => ?_,
      (hthere.trans hback).trans (incrementer_finish _ _ (.inl rfl) _)⟩
    have hdigit := hword blank (List.mem_append_left _ (List.mem_of_head? hb))
    revert hdigit
    decide

/-! ### What incrementing is -/

/-- A word of zeros and ones can be incremented. -/
theorem exists_increments {word : List Char} (hword : ∀ c ∈ word, c = '0' ∨ c = '1') :
    ∃ k cells first, Increments word k cells first := by
  induction word using List.reverseRecOn with
  | nil => exact ⟨0, _, _, .grows 0⟩
  | append_singleton word c ih =>
    obtain ⟨hfront, hc⟩ := List.forall_mem_append.1 hword
    rcases hc c (List.mem_singleton_self c) with rfl | rfl
    · exact ⟨0, _, _, .fits word 0⟩
    · obtain ⟨k, cells, first, h⟩ := ih hfront
      cases h with
      | grows =>
        rw [← List.replicate_succ']
        exact ⟨k + 1, _, _, .grows (k + 1)⟩
      | fits front =>
        rw [List.append_assoc, List.cons_append, ← List.replicate_succ']
        exact ⟨k + 1, _, _, .fits front (k + 1)⟩

theorem binaryValue_concat (word : List Char) (c : Char) :
    binaryValue (word ++ [c]) = (if c = '1' then 1 else 0) + 2 * binaryValue word := by
  simp [binaryValue, Nat.ofDigits_cons]

/-- Zeros behind a word and ones behind the word before it keep them neighbours. -/
theorem binaryValue_carry {high low : List Char} (h : binaryValue high = binaryValue low + 1)
    (k : Nat) :
    binaryValue (high ++ .replicate k '0') = binaryValue (low ++ .replicate k '1') + 1 := by
  induction k with
  | zero => simpa using h
  | succ k ih =>
    rw [List.replicate_succ', List.replicate_succ', ← List.append_assoc, ← List.append_assoc,
      binaryValue_concat, binaryValue_concat, ih]
    simp
    omega

/-- **Incrementing adds one** to the number. -/
theorem Increments.binaryValue_eq {word cells : List Char} {k : Nat} {first : Int}
    (h : Increments word k cells first) : binaryValue cells = binaryValue word + 1 := by
  cases h with
  | grows =>
    have hone : binaryValue ['1'] = binaryValue [] + 1 := rfl
    exact binaryValue_carry hone k
  | fits front =>
    have hdigit : binaryValue (front ++ ['1']) = binaryValue (front ++ ['0']) + 1 := by
      rw [binaryValue_concat, binaryValue_concat]
      simp
      omega
    simpa using binaryValue_carry hdigit k

/-- **The binary increment increments.**  On any word of zeros and ones, the empty one too, it makes
two steps more than there are digits and ones at the end, and nothing ends the run before.  Then it
has halted with the incremented word in its live cells. -/
theorem binaryIncrement_run (word : String) (hword : ∀ c ∈ word.toList, c = '0' ∨ c = '1') :
    ∃ p k cells first, binaryIncrement = .ok p ∧ Increments word.toList k cells first ∧
      binaryValue cells = binaryValue word.toList + 1 ∧
      ∀ moments,
        let r := p.machine.run word none moments
        let last : Configuration :=
          ⟨.int 2, cells, cells.length - 1 - k, first, word.length + k + 2⟩
        (moments ≤ word.length + k + 2 → r.ending = none) ∧
          (word.length + k + 2 < moments →
            r.ending = some (.ok last) ∧ r.machine.configuration = .ok last) := by
  obtain ⟨k, cells, first, h⟩ := exists_increments hword
  obtain ⟨left, rfl, hleft, hreach⟩ := incrementer_reaches hword h
  refine ⟨incrementer, k, _, first, binaryIncrement_eq, h, h.binaryValue_eq, fun moments => ?_⟩
  have hblank : ∀ c ∈ word.toList, c ≠ blank := by
    intro c hc
    rcases hword c hc with rfl | rfl <;> decide
  have hright : (List.replicate k '0').getLast? ≠ some blank := by
    cases k <;> simp [blank, List.getLast?_replicate]
  have hrun := run_halts hreach hblank hleft hright moments
  have hhead : ((left ++ '1' :: List.replicate k '0').length : Int) - 1 - k = left.length := by
    simp
    omega
  rw [String.length_toList] at hrun
  rw [hhead]
  exact hrun

/-- Eleven in binary and one is twelve. -/
theorem binaryIncrement_run_eleven : (∀ c ∈ "1011".toList, c = '0' ∨ c = '1') ∧
    ∃ p k cells first, binaryIncrement = .ok p ∧ Increments "1011".toList k cells first ∧
      binaryValue cells = 12 ∧ ∃ c, (p.machine.run "1011" none (4 + k + 3)).ending = some (.ok c) ∧
        c.cells = cells := by
  have hword : ∀ c ∈ "1011".toList, c = '0' ∨ c = '1' := by simp
  obtain ⟨p, k, cells, first, hp, h, hvalue, hrun⟩ := binaryIncrement_run "1011" hword
  have hlong : "1011".length + k + 2 < 4 + k + 3 := by
    show 4 + k + 2 < 4 + k + 3
    omega
  exact ⟨hword, p, k, cells, first, hp, h, hvalue.trans (by decide), _, ((hrun _).2 hlong).1, rfl⟩

end TapeMachine.Program
