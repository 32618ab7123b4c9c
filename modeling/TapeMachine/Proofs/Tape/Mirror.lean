import TapeMachine.Tape.Basic

/-!
# Mirror images

A chain is mirrored by swapping the links of every cell, a tape by mirroring its
chain, swapping its ends and counting positions the other way.  Whatever the tape
does at its left end it then does at its right end: `mirror_dropLast` and
`mirror_growRight` turn the operations of one end into those of the other, and
`mirror_dropAllLast` does so for the loop that drops cells.  What is shown of one
end therefore holds of the other.
-/

namespace TapeMachine

variable {σ : Type}

/-- A cell with its neighbours swapped. -/
def Cell.mirror (c : Cell σ) : Cell σ := ⟨c.symbol, c.right, c.left⟩

namespace Chain

/-- The chain with the neighbours of every cell swapped. -/
def mirror (c : Chain σ) : Chain σ := ⟨c.cells.map Cell.mirror⟩

@[simp] theorem size_mirror (c : Chain σ) : c.mirror.size = c.size := by simp [mirror, size]

@[simp] theorem symbol?_mirror (c : Chain σ) (i : Nat) : c.mirror.symbol? i = c.symbol? i := by
  simp [mirror, symbol?, Cell.mirror, Function.comp_def]

@[simp] theorem left?_mirror (c : Chain σ) (i : Nat) : c.mirror.left? i = c.right? i := by
  simp [mirror, left?, right?, Cell.mirror, Option.bind_map, Function.comp_def]

@[simp] theorem right?_mirror (c : Chain σ) (i : Nat) : c.mirror.right? i = c.left? i := by
  simp [mirror, left?, right?, Cell.mirror, Option.bind_map, Function.comp_def]

@[simp] theorem mirror_mirror (c : Chain σ) : c.mirror.mirror = c := by
  simp [mirror, Cell.mirror, Function.comp_def]

@[simp] theorem mirror_make (c : Chain σ) (s : σ) : (c.make s).mirror = c.mirror.make s := by
  simp [mirror, make, Cell.mirror]

theorem mirror_setLeft (c : Chain σ) (i : Nat) (l : Option Nat) :
    (c.setLeft i l).mirror = c.mirror.setRight i l := by
  rw [mirror, setLeft, mirror, setRight, Chain.mk.injEq]
  apply Array.ext_getElem?
  intro k
  by_cases h : i = k <;> simp [Array.getElem?_modify, h, Cell.mirror, Function.comp_def]

theorem mirror_setRight (c : Chain σ) (i : Nat) (r : Option Nat) :
    (c.setRight i r).mirror = c.mirror.setLeft i r := by
  rw [← mirror_mirror (c.mirror.setLeft i r), mirror_setLeft, mirror_mirror]

theorem setLeft_setRight (c : Chain σ) (i j : Nat) (l r : Option Nat) :
    (c.setRight i r).setLeft j l = (c.setLeft j l).setRight i r := by
  rw [setLeft, setRight, setRight, setLeft, Chain.mk.injEq]
  apply Array.ext_getElem?
  intro k
  by_cases hi : i = k <;> by_cases hj : j = k <;>
    simp [Array.getElem?_modify, hi, hj, Function.comp_def]

theorem mirror_link (c : Chain σ) (i j : Nat) : (c.link i j).mirror = c.mirror.link j i := by
  rw [link, mirror_setLeft, mirror_setRight, link, setLeft_setRight]

theorem mirror_unlink (c : Chain σ) (i j : Nat) : (c.unlink i j).mirror = c.mirror.unlink j i := by
  rw [unlink, mirror_setRight, mirror_setLeft, unlink, setLeft_setRight]

theorem leftward_mirror (c : Chain σ) (n i : Nat) : c.mirror.leftward n i = c.rightward n i := by
  induction n generalizing i with
  | zero => rfl
  | succ n ih =>
    rw [leftward, rightward, left?_mirror]
    cases c.right? i with
    | none => rfl
    | some j => simp only [ih]

end Chain

namespace Tape

/-- The tape seen from the other side: positions count the other way. -/
def mirror (t : Tape σ) : Tape σ where
  chain := t.chain.mirror
  first := t.last
  last := t.first
  head := t.head
  firstPosition := -t.lastPosition
  lastPosition := -t.firstPosition
  position := -t.position
  inDecimals := t.inDecimals

@[simp] theorem mirror_mirror (t : Tape σ) : t.mirror.mirror = t := by simp [mirror]

@[simp] theorem length_mirror (t : Tape σ) : t.mirror.length = t.length := by
  simp only [length, mirror]
  congr 1
  omega

theorem mirror_dropLast (t : Tape σ) (i : Nat) :
    (t.dropLast i).1.mirror = (t.mirror.dropFirst i).1 := by
  simp only [dropLast, dropFirst, mirror, Chain.mirror_unlink, Tape.mk.injEq]
  refine ⟨trivial, trivial, trivial, trivial, ?_, trivial, trivial, trivial⟩
  omega

theorem mirror_shift (t : Tape σ) (i : Nat) :
    (t.shift .right i).mirror = t.mirror.shift .left i := by
  simp only [shift, mirror, Direction.offset, Tape.mk.injEq]
  refine ⟨trivial, trivial, trivial, trivial, trivial, trivial, ?_, trivial⟩
  omega

variable [Symbol σ]

@[simp] theorem symbolAt_mirror (t : Tape σ) (i : Nat) : t.mirror.symbolAt i = t.symbolAt i := by
  simp [symbolAt, mirror]

@[simp] theorem blankAt_mirror (t : Tape σ) (i : Nat) : t.mirror.blankAt i = t.blankAt i := by
  simp [blankAt]

theorem newFirst?_mirror (t : Tape σ) : t.mirror.newFirst? = t.newLast? := by
  rw [newFirst?, blankAt_mirror]
  show (if t.last ≠ t.head ∧ t.blankAt t.last then t.chain.mirror.right? t.last else none) = _
  rw [Chain.right?_mirror, newLast?]

theorem mirror_growRight (t : Tape σ) : t.growRight.mirror = t.mirror.growLeft := by
  simp only [growRight, growLeft, mirror, Chain.mirror_link, Chain.mirror_make, Chain.size_mirror,
    Tape.mk.injEq]
  refine ⟨trivial, trivial, trivial, trivial, ?_, trivial, trivial, trivial⟩
  omega

/-- **Dropping at the right end is dropping at the left end of the mirror image.** -/
theorem mirror_dropAllLast (n : Nat) (t : Tape σ) :
    (dropAll newLast? dropLast n t).1.mirror = (dropAll newFirst? dropFirst n t.mirror).1 := by
  induction n generalizing t with
  | zero => rfl
  | succ n ih =>
    rw [dropAll, dropAll, newFirst?_mirror]
    cases t.newLast? with
    | none => rfl
    | some i =>
      show (dropAll newLast? dropLast n (t.dropLast i).1).1.mirror = _
      rw [ih, mirror_dropLast]

/-- **Reaching to the right is reaching to the left in the mirror image.** -/
theorem mirror_reach_right (t : Tape σ) : (t.reach .right).1.mirror = (t.mirror.reach .left).1 := by
  have hl : t.mirror.chain.left? t.mirror.head = t.chain.right? t.head := Chain.left?_mirror ..
  simp only [reach, hl]
  cases t.chain.right? t.head with
  | none =>
    show (t.growRight.shift .right t.growRight.last).mirror = _
    have hnew : t.growRight.last = t.mirror.growLeft.first := (Chain.size_mirror t.chain).symm
    rw [mirror_shift, mirror_growRight, hnew]
  | some i => exact mirror_shift t i

end Tape

end TapeMachine
