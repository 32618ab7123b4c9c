import TapeMachine.Machine.Basic
import TapeMachine.Proofs.Tape.Simulation

/-!
# The links of a tape

`WellLinked t` says what the links, the names and the counters of a tape have to do
with each other: walking from the first cell along the right links meets different
cells and ends at the last one, walking back meets the same cells, the head is one of
them, and they are as many as the positions say.  `Trimmable t` says that dropping
cells at the ends of `t` comes to an end and that every cell which is dropped on the
way has the neighbour that is to take its place.

Both hold after any operations on the tape of a word, refused ones among them
(`after_wellLinked`), since both follow from a layout (`LaidOut.wellLinked`,
`LaidOut.trimmable`).
-/

namespace TapeMachine.Tape

variable {σ : Type} {t : Tape σ} {f : Int → Nat}

/-- What iterating over a tape yields: the symbol of each live cell, and whether the head is on
it. -/
def marked [Symbol σ] (t : Tape σ) : List (σ × Bool) :=
  t.liveCells.map fun i => (t.symbolAt i, decide (i = t.head))

/-- **The links, the names and the counters of a tape fit together.**  A walk is the same however
far it may go beyond the number of live cells. -/
structure WellLinked [Symbol σ] (t : Tape σ) : Prop where
  left_first : t.chain.left? t.first = none
  right_last : t.chain.right? t.last = none
  rightward : ∀ n, t.chain.rightward (t.length + n) t.first = t.liveCells
  leftward : ∀ n, t.chain.leftward (t.length + n) t.last = t.liveCells.reverse
  head?_cells : t.liveCells.head? = some t.first
  getLast?_cells : t.liveCells.getLast? = some t.last
  nodup_cells : t.liveCells.Nodup
  made : ∀ i ∈ t.liveCells, i < t.chain.size
  length_cells : t.liveCells.length = t.length
  length_eq : (t.length : Int) = t.lastPosition - t.firstPosition + 1
  length_pos : 1 ≤ t.length
  head_mem : t.head ∈ t.liveCells
  getElem?_headIndex : t.liveCells[t.headIndex]? = some t.head
  headIndex_eq : (t.headIndex : Int) = t.position - t.firstPosition
  count_marked : t.marked.countP Prod.snd = 1

/-- **Dropping cells at both ends is safe.**  After any number of rounds of either loop a cell that
is to be dropped has a neighbour, and both loops end because there is no cell to drop. -/
structure Trimmable [Symbol σ] (t : Tape σ) : Prop where
  right_of_dropsFirst : ∀ n, let u := (dropAll newFirst? dropFirst n t).1
    u.DropsFirst → ∃ i < u.chain.size, u.chain.right? u.first = some i
  not_dropsFirst : ¬ (dropAll newFirst? dropFirst t.length t).1.DropsFirst
  left_of_dropsLast : ∀ n,
    let u := (dropAll newLast? dropLast n (dropAll newFirst? dropFirst t.length t).1).1
    u.DropsLast → ∃ i < u.chain.size, u.chain.left? u.last = some i
  not_dropsLast : ¬ t.trim.1.DropsLast

namespace LaidOut

variable [Symbol σ]

theorem count_marked (h : t.LaidOut f) : t.marked.countP Prod.snd = 1 := by
  have hmem : t.head ∈ t.positions.map f := List.mem_of_getElem? h.getElem?_head
  rw [marked, List.countP_map, h.liveCells_eq]
  have hcount := List.count_eq_one_of_mem h.nodup_cells hmem
  rw [List.count_eq_countP] at hcount
  rw [← hcount]
  exact List.countP_congr fun i _ => by simp

theorem wellLinked (h : t.LaidOut f) : t.WellLinked := by
  have hcells := h.liveCells_eq
  have hl := h.length_eq
  have hle := h.first_le_last
  have hidx := h.headIndex_eq
  have hhead : t.liveCells[t.headIndex]? = some t.head := by
    rw [hcells, show t.headIndex = (t.position - t.firstPosition).toNat by omega]
    exact h.getElem?_head
  exact
    { left_first := h.left_first
      right_last := h.right_last
      rightward := fun n => (h.rightward_eq (Nat.le_add_right _ n)).trans hcells.symm
      leftward := by
        intro n
        rw [h.leftward_eq (Nat.le_add_right _ n), hcells]
      head?_cells := by
        rw [hcells, List.head?_map, List.head?_eq_getElem?,
          List.getElem?_eq_getElem (by simp; omega)]
        simp [h.first]
      getLast?_cells := by
        obtain ⟨l, he, -⟩ := h.map_positions_eq
        rw [hcells, he, List.getLast?_concat]
      nodup_cells := hcells ▸ h.nodup_cells
      made := by
        intro i hi
        rw [hcells, List.mem_map] at hi
        obtain ⟨p, hp, rfl⟩ := hi
        exact h.made p (h.mem_positions.1 hp)
      length_cells := by rw [hcells, List.length_map, length_positions]
      length_eq := hl
      length_pos := by omega
      head_mem := List.mem_of_getElem? hhead
      getElem?_headIndex := hhead
      headIndex_eq := hidx
      count_marked := h.count_marked }

theorem right_of_dropsFirst (h : t.LaidOut f) (hd : t.DropsFirst) :
    ∃ i < t.chain.size, t.chain.right? t.first = some i := by
  have hlt := (h.dropsFirst_iff.1 hd).1
  have hle := h.le_last
  refine ⟨f (t.firstPosition + 1), h.made _ ⟨by omega, by omega⟩, ?_⟩
  rw [← h.first]
  exact h.right _ le_rfl (by omega)

theorem left_of_dropsLast (h : t.LaidOut f) (hd : t.DropsLast) :
    ∃ i < t.chain.size, t.chain.left? t.last = some i := by
  have hlt := (h.dropsLast_iff.1 hd).1
  have hle := h.first_le
  refine ⟨f (t.lastPosition - 1), h.made _ ⟨by omega, by omega⟩, ?_⟩
  rw [← h.last]
  exact h.left _ (by omega) le_rfl

theorem trimmable (h : t.LaidOut f) : t.Trimmable where
  right_of_dropsFirst n := (h.dropAllFirst n).right_of_dropsFirst
  not_dropsFirst := by
    have hl := h.length_eq
    have hle := h.le_last
    exact h.not_dropsFirst_dropAll (by omega)
  left_of_dropsLast n := ((h.dropAllFirst _).dropAllLast n).left_of_dropsLast
  not_dropsLast := by
    have hu := h.dropAllFirst t.length
    have hl := hu.length_eq
    have hle := hu.first_le
    exact hu.not_dropsLast_dropAll (by omega)

theorem headPosition_snapshot (h : t.LaidOut f) (m : Machine σ) :
    (m.snapshot t).headPosition = t.position := by
  have hidx := h.headIndex_eq
  show t.firstPosition + (t.headIndex : Int) = t.position
  omega

end LaidOut

/-- **The links of a tape are sound after any operations**, and so is whatever the next operation
does: a walk over the live cells, dropping cells, and dropping cells once the head has moved. -/
theorem after_wellLinked (w : List Char) (ops : List Operation) :
    let t := (ofWord w : Tape).after ops
    t.WellLinked ∧ (∀ m : Machine, (m.snapshot t).headPosition = t.position) ∧
      t.Trimmable ∧ ∀ d, (t.reach d).1.Trimmable := by
  intro t
  obtain ⟨f, h⟩ := shows_after w ops
  refine ⟨h.wellLinked, h.headPosition_snapshot, h.trimmable, fun d => ?_⟩
  obtain ⟨g, hg⟩ := h.reach d
  exact hg.trimmable

end TapeMachine.Tape
