import TapeMachine.Program.Text
import TapeMachine.Proofs.Machine.Reaches
import TapeMachine.Proofs.Value.Agreement

/-!
# Programs on unbounded tapes

`p.unbounded s u` is the unbounded machine of a program in a state, with a tape.  A program's table
is checked, so its machine can always go on (`sound_unbounded`) and what it does is looked up among
moves, which can be computed (`reaches_move`).  Two phases are the same in every program: walking
over symbols without a change (`reaches_walk`), and turning round behind the word
(`reaches_turn`).
-/

namespace TapeMachine.Program

variable {p : Program} {s : Int} {u : UnboundedTape}

/-- The unbounded machine of a program in a state, with a tape. -/
def unbounded (p : Program) (state : Int) (u : UnboundedTape) : UnboundedMachine :=
  ⟨.int state, .int p.endState, p.table.unchecked, u⟩

theorem isHalted_unbounded : (p.unbounded s u).isHalted ↔ s = p.endState := by
  show (Value.int s).same (.int p.endState) ↔ s = p.endState
  simp

theorem action?_unbounded :
    (p.unbounded s u).action? = (p.table.lookup? ⟨s, u.read⟩).map Move.action :=
  Table.lookup?_unchecked p.table ⟨s, u.read⟩

theorem sound_unbounded (p : Program) (s : Int) (u : UnboundedTape) : (p.unbounded s u).Sound where
  state := rfl
  table := by
    intro e he
    obtain ⟨e', -, rfl⟩ := List.mem_map.1 he
    exact ⟨by rw [Move.effect?_action]; rfl, rfl⟩

/-- The machine of a program reaches what a move leads to. -/
theorem reaches_move (hs : s ≠ p.endState) {m : Move} (hm : p.table.lookup? ⟨s, u.read⟩ = some m) :
    (p.unbounded s u).Reaches 1
      (p.unbounded m.nextState ((u.write m.nextSymbol).move m.direction)) :=
  UnboundedMachine.Reaches.of_action (mt isHalted_unbounded.1 hs)
    (by rw [action?_unbounded, hm]; rfl) m.effect?_action

open UnboundedTape (placed)

/-- **Walking to the right** over symbols that stay as they are, in a state that stays. -/
theorem reaches_walk (hs : s ≠ p.endState) (first : Int) (left right rest : List Char)
    (h : ∀ c ∈ right, p.table.lookup? ⟨s, c⟩ = some ⟨s, c, .right⟩) :
    (p.unbounded s (placed first left (right ++ rest))).Reaches right.length
      (p.unbounded s (placed first (left ++ right) rest)) := by
  induction right generalizing left with
  | nil =>
    rw [List.append_nil]
    exact .refl _
  | cons c right ih =>
    obtain ⟨hc, hright⟩ := List.forall_mem_cons.1 h
    have hstep : (p.unbounded s (placed first left (c :: (right ++ rest)))).Reaches 1
        (p.unbounded s (placed first (left ++ [c]) (right ++ rest))) := by
      have hmove : p.table.lookup? ⟨s, (placed first left (c :: (right ++ rest))).read⟩
          = some ⟨s, c, .right⟩ := by
        rw [UnboundedTape.read_placed]
        exact hc
      have hreach := reaches_move hs hmove
      rwa [UnboundedTape.write_placed, UnboundedTape.move_right_placed] at hreach
    have hrest := hstep.trans (ih (left ++ [c]) hright)
    rwa [List.append_assoc, List.singleton_append, Nat.add_comm] at hrest

/-- **Turning round** on the blank behind the word. -/
theorem reaches_turn {s' : Int} (hs : s ≠ p.endState) (first : Int) (word : List Char)
    (h : p.table.lookup? ⟨s, blank⟩ = some ⟨s', blank, .left⟩) :
    (p.unbounded s (placed first word [])).Reaches 1
      (p.unbounded s' ((placed first word []).move .left)) := by
  have hmove : p.table.lookup? ⟨s, (placed first word []).read⟩ = some ⟨s', blank, .left⟩ := by
    rw [UnboundedTape.read_placed]
    exact h
  have hreach := reaches_move hs hmove
  rwa [UnboundedTape.write_blank_placed_nil] at hreach

/-- **A run of a program halts where its unbounded machine does**, with the word that this has
reached in its live cells. -/
theorem run_halts {word : String} {k : Nat} {first : Int} {left right : List Char} {c : Char}
    (h : (p.unbounded p.startState (.ofWord word.toList)).Reaches k
      (p.unbounded p.endState (.placed first left (c :: right))))
    (hword : ∀ c ∈ word.toList, c ≠ blank) (hleft : left.head? ≠ some blank)
    (hright : right.getLast? ≠ some blank) (moments : Nat) :
    let r := p.machine.run word none moments
    let last : Configuration := ⟨.int p.endState, left ++ c :: right, left.length, first, k⟩
    (moments ≤ k → r.ending = none) ∧
      (k < moments → r.ending = some (.ok last) ∧ r.machine.configuration = .ok last) :=
  h.run_halts (p.sound_unbounded ..) hword rfl hleft hright (isHalted_unbounded.2 rfl) moments

/-- **A run of a program ends where its unbounded machine is stuck**, with the word that this has
reached in its live cells. -/
theorem run_stuck {word : String} {k : Nat} {first : Int} {left right : List Char} {c : Char}
    (h : (p.unbounded p.startState (.ofWord word.toList)).Reaches k
      (p.unbounded s (.placed first left (c :: right))))
    (hword : ∀ c ∈ word.toList, c ≠ blank) (hleft : left.head? ≠ some blank)
    (hright : right.getLast? ≠ some blank) (hs : s ≠ p.endState)
    (hnone : p.table.lookup? ⟨s, c⟩ = none) (moments : Nat) :
    let r := p.machine.run word none moments
    let last : Configuration := ⟨.int s, left ++ c :: right, left.length, first, k⟩
    (moments ≤ k → r.ending = none) ∧
      (k < moments → r.ending = some (.error (.unmapped (.int s) (.ofSymbol c))) ∧
        r.machine.configuration = .ok last) := by
  have hread : (placed first left (c :: right)).read = c := UnboundedTape.read_placed
  have haction : (p.unbounded s (placed first left (c :: right))).action? = none := by
    rw [action?_unbounded, hread, hnone]
    rfl
  have hrun := h.run_stuck (p.sound_unbounded ..) hword rfl hleft hright
    (mt isHalted_unbounded.1 hs) haction moments
  rwa [show (p.unbounded s (placed first left (c :: right))).tape.read = c from hread] at hrun

end TapeMachine.Program
