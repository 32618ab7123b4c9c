import TapeMachine.Program.Bundled
import TapeMachine.Proofs.Program.Unbounded

/-!
# The unary addition

The bundled program that adds walks over the first number, makes the zero behind it a one, walks
over the second number (`adder_joins`), turns round and takes the last one away (`adder_reaches`).
So it halts with the sum: `unaryAdd_run`.  Where there is no zero it comes out of the first number
and is stuck on the blank there.
-/

namespace TapeMachine.Program

open UnboundedTape

/-- A number as so many ones. -/
def ones (n : Nat) : List Char := .replicate n '1'

/-- The unary addition as a program. -/
def adder : Program where
  alphabetSize := 3
  inputAlphabet := "10"
  tapeAlphabet := "10B"
  startState := 0
  endState := 3
  table :=
    [(⟨0, '1'⟩, ⟨0, '1', .right⟩), (⟨0, '0'⟩, ⟨1, '1', .right⟩), (⟨1, '1'⟩, ⟨1, '1', .right⟩),
      (⟨1, 'B'⟩, ⟨2, 'B', .left⟩), (⟨2, '1'⟩, ⟨3, 'B', .stay⟩)]

theorem unaryAdd_eq : unaryAdd = .ok adder := by decide +kernel

theorem length_ones (n : Nat) : (ones n).length = n := List.length_replicate

theorem ones_append (m n : Nat) : ones m ++ ones n = ones (m + n) := List.replicate_append_replicate

theorem ones_concat (n : Nat) : ones n ++ ['1'] = ones (n + 1) := List.replicate_succ'.symm

theorem ne_blank_of_mem_ones {n : Nat} : ∀ c ∈ ones n, c ≠ blank := by
  intro c hc
  obtain rfl := List.eq_of_mem_replicate hc
  decide

/-- **Walking over ones** in a state that keeps them. -/
theorem adder_walk {s : Int} (hs : s = 0 ∨ s = 1) (left : List Char) (n : Nat) (rest : List Char) :
    (adder.unbounded s (placed 0 left (ones n ++ rest))).Reaches n
      (adder.unbounded s (placed 0 (left ++ ones n) rest)) := by
  have hend : s ≠ adder.endState := by
    rcases hs with rfl | rfl <;> decide
  have hwalk := reaches_walk hend 0 left (ones n) rest fun c hc => ?_
  · rwa [length_ones] at hwalk
  · obtain rfl := List.eq_of_mem_replicate hc
    rcases hs with rfl | rfl <;> rfl

/-- **Joining the numbers**: the zero between them becomes a one. -/
theorem adder_joins (m n : Nat) :
    (adder.unbounded 0 (placed 0 [] (ones m ++ '0' :: ones n))).Reaches (m + 1 + n)
      (adder.unbounded 1 (placed 0 (ones (m + n) ++ ['1']) [])) := by
  have hfirst := adder_walk (.inl rfl) [] m ('0' :: ones n)
  have hjoin : (adder.unbounded 0 (placed 0 (ones m) ('0' :: ones n))).Reaches 1
      (adder.unbounded 1 (placed 0 (ones m ++ ['1']) (ones n))) := by
    have hmove : adder.table.lookup? ⟨0, (placed 0 (ones m) ('0' :: ones n)).read⟩
        = some ⟨1, '1', .right⟩ := by
      rw [read_placed]
      rfl
    have hreach := reaches_move (by decide) hmove
    rwa [write_placed, move_right_placed] at hreach
  have hsecond := adder_walk (.inr rfl) (ones m ++ ['1']) n []
  have hsum : ones m ++ ['1'] ++ ones n = ones (m + n) ++ ['1'] := by
    rw [ones_concat, ones_concat, ones_append, Nat.add_right_comm]
  rw [List.append_nil, hsum] at hsecond
  exact (hfirst.trans hjoin).trans hsecond

/-- **What the adder reaches**: it halts behind the sum, on the blank that it has written over the
last one. -/
theorem adder_reaches (m n : Nat) :
    (adder.unbounded 0 (placed 0 [] (ones m ++ '0' :: ones n))).Reaches (m + n + 3)
      (adder.unbounded 3 (placed 0 (ones (m + n)) [blank])) := by
  have hturn : (adder.unbounded 1 (placed 0 (ones (m + n) ++ ['1']) [])).Reaches 1
      (adder.unbounded 2 (placed 0 (ones (m + n)) ['1'])) := by
    have hreach := reaches_turn (p := adder) (s := 1) (by decide) 0 (ones (m + n) ++ ['1']) rfl
    rwa [move_left_placed] at hreach
  have hfinish : (adder.unbounded 2 (placed 0 (ones (m + n)) ['1'])).Reaches 1
      (adder.unbounded 3 (placed 0 (ones (m + n)) [blank])) := by
    have hmove : adder.table.lookup? ⟨2, (placed 0 (ones (m + n)) ['1']).read⟩
        = some ⟨3, blank, .stay⟩ := by
      rw [read_placed]
      rfl
    have hreach := reaches_move (by decide) hmove
    rwa [write_placed, move_stay] at hreach
  have hall := ((adder_joins m n).trans hturn).trans hfinish
  rwa [show m + 1 + n + 1 + 1 = m + n + 3 by omega] at hall

theorem countP_ones (n : Nat) : (ones n ++ [blank]).countP (fun s => s ≠ blank) = n := by
  have hall : (ones n).countP (fun s => s ≠ blank) = n := by
    rw [List.countP_eq_length.2 fun c hc => decide_eq_true (ne_blank_of_mem_ones c hc), length_ones]
  rw [List.countP_append, hall]
  rfl

/-- The head does not stand before a blank. -/
theorem head?_ones_ne (n : Nat) : (ones n).head? ≠ some blank := by
  intro h
  exact ne_blank_of_mem_ones blank (List.mem_of_head? h) rfl

/-- **The unary addition adds.**  On two numbers in ones with a zero between them it makes three
steps more than there are ones, and nothing ends the run before.  Then it has halted with as many
ones as both numbers have in its live cells and a blank behind them under the head, and no cell is
to the left of where the word began.  On a single number the run ends after as many steps as there
are ones, with nothing to do on the blank behind it. -/
theorem unaryAdd_run : ∃ p, unaryAdd = .ok p ∧
    (∀ m n moments,
      let r := p.machine.run (String.ofList (ones m ++ '0' :: ones n)) none moments
      let last : Configuration := ⟨.int 3, ones (m + n) ++ [blank], (m + n : Nat), 0,
        (m + n + 3 : Nat)⟩
      (moments ≤ m + n + 3 → r.ending = none) ∧
        (m + n + 3 < moments → r.ending = some (.ok last) ∧ r.machine.configuration = .ok last ∧
          r.machine.countNonblanks = .ok (m + n))) ∧
    ∀ n moments,
      let r := p.machine.run (String.ofList (ones n)) none moments
      (moments ≤ n → r.ending = none) ∧
        (n < moments → r.ending = some (.error (.unmapped (.int 0) (.ofSymbol 'B'))) ∧
          ∃ c, r.machine.configuration = .ok c ∧ c.step = n) := by
  refine ⟨adder, unaryAdd_eq, fun m n moments => ?_, fun n moments => ?_⟩
  · intro r last
    have hreach := adder_reaches m n
    rw [← ofWord_eq_placed, ← String.toList_ofList (l := ones m ++ '0' :: ones n)] at hreach
    have hword : ∀ c ∈ (String.ofList (ones m ++ '0' :: ones n)).toList, c ≠ blank := by
      rw [String.toList_ofList]
      refine List.forall_mem_append.2 ⟨ne_blank_of_mem_ones, ?_⟩
      exact List.forall_mem_cons.2 ⟨by decide, ne_blank_of_mem_ones⟩
    obtain ⟨hbefore, hbehind⟩ :=
      run_halts (p := adder) hreach hword (head?_ones_ne _) nofun moments
    rw [length_ones] at hbehind
    refine ⟨hbefore, fun hlt => ?_⟩
    obtain ⟨hend, hc⟩ := hbehind hlt
    have hcount := Machine.countNonblanks_of_configuration hc
    rw [countP_ones] at hcount
    exact ⟨hend, hc, hcount⟩
  · intro r
    have hreach := adder_walk (.inl rfl) [] n []
    rw [List.append_nil, ← ofWord_eq_placed, List.nil_append, placed_nil,
      ← String.toList_ofList (l := ones n)] at hreach
    have hword : ∀ c ∈ (String.ofList (ones n)).toList, c ≠ blank := by
      rw [String.toList_ofList]
      exact ne_blank_of_mem_ones
    obtain ⟨hbefore, hbehind⟩ :=
      run_stuck (p := adder) hreach hword (by simpa using head?_ones_ne n) nofun (by decide) rfl
        moments
    refine ⟨hbefore, fun hlt => ?_⟩
    obtain ⟨hend, hc⟩ := hbehind hlt
    exact ⟨hend, _, hc, rfl⟩

/-- Two and three are five. -/
example : (adder.machine.run "110111" none 9).ending.isSome ∧
    (adder.machine.run "110111" none 9).trace.endsWith "...B11111[3]BB...\n" := by
  decide +kernel

end TapeMachine.Program
