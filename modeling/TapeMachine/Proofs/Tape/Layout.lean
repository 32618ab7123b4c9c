import Mathlib.Data.Set.Function
import TapeMachine.Proofs.Tape.Mirror

/-!
# Layouts

A layout gives the live positions of a tape their cells.  `LaidOut t f` says that
`f` is one for `t`: the three cells that the tape names lie at the three positions
that it counts, no cell lies at two positions, and the links of a cell lead to the
cells beside it and nowhere at the ends.

Since positions count from the input word, a layout outlives the operations.
Dropping a cell (`LaidOut.dropFirst`, `LaidOut.dropLast`) and moving the head keep
it, and growing changes it at the new position only (`grown`, `LaidOut.growLeft`).
The loops at the ends stop because there is no cell to drop (`not_dropsFirst_dropAll`)
and never because a link is missing (`LaidOut.newFirst?_eq_none_iff`).
-/

namespace TapeMachine.Tape

variable {σ : Type} {t : Tape σ} {f : Int → Nat} {p q : Int}

/-- The positions of the live cells. -/
def live (t : Tape σ) : Set Int := {p | t.firstPosition ≤ p ∧ p ≤ t.lastPosition}

theorem mem_live : p ∈ t.live ↔ t.firstPosition ≤ p ∧ p ≤ t.lastPosition := Iff.rfl

theorem mem_live_mirror : p ∈ t.mirror.live ↔ -p ∈ t.live := by
  show -t.lastPosition ≤ p ∧ p ≤ -t.firstPosition ↔ t.firstPosition ≤ -p ∧ -p ≤ t.lastPosition
  omega

theorem mem_live_dropFirst {i : Nat} :
    p ∈ (t.dropFirst i).1.live ↔ p ∈ t.live ∧ p ≠ t.firstPosition := by
  show t.firstPosition + 1 ≤ p ∧ p ≤ t.lastPosition ↔ (t.firstPosition ≤ p ∧ p ≤ t.lastPosition) ∧ _
  omega

/-- **A layout**: `f` gives every live position its cell. -/
structure LaidOut (t : Tape σ) (f : Int → Nat) : Prop where
  position_mem : t.position ∈ t.live
  head : f t.position = t.head
  first : f t.firstPosition = t.first
  last : f t.lastPosition = t.last
  made : ∀ p ∈ t.live, f p < t.chain.size
  injOn : Set.InjOn f t.live
  right : ∀ p, t.firstPosition ≤ p → p < t.lastPosition → t.chain.right? (f p) = some (f (p + 1))
  left : ∀ p, t.firstPosition < p → p ≤ t.lastPosition → t.chain.left? (f p) = some (f (p - 1))
  left_first : t.chain.left? t.first = none
  right_last : t.chain.right? t.last = none

namespace LaidOut

theorem first_le (h : t.LaidOut f) : t.firstPosition ≤ t.position := h.position_mem.1

theorem le_last (h : t.LaidOut f) : t.position ≤ t.lastPosition := h.position_mem.2

theorem first_le_last (h : t.LaidOut f) : t.firstPosition ≤ t.lastPosition :=
  h.first_le.trans h.le_last

theorem first_mem (h : t.LaidOut f) : t.firstPosition ∈ t.live := ⟨le_rfl, h.first_le_last⟩

theorem last_mem (h : t.LaidOut f) : t.lastPosition ∈ t.live := ⟨h.first_le_last, le_rfl⟩

theorem length_eq (h : t.LaidOut f) : (t.length : Int) = t.lastPosition - t.firstPosition + 1 := by
  have := h.first_le_last
  rw [length]
  omega

theorem head_lt (h : t.LaidOut f) : t.head < t.chain.size := h.head ▸ h.made _ h.position_mem

theorem first_lt (h : t.LaidOut f) : t.first < t.chain.size := h.first ▸ h.made _ h.first_mem

theorem last_lt (h : t.LaidOut f) : t.last < t.chain.size := h.last ▸ h.made _ h.last_mem

theorem eq_iff (h : t.LaidOut f) (hp : p ∈ t.live) (hq : q ∈ t.live) : f p = f q ↔ p = q :=
  h.injOn.eq_iff hp hq

theorem first_eq_head_iff (h : t.LaidOut f) : t.first = t.head ↔ t.firstPosition = t.position := by
  rw [← h.first, ← h.head]
  exact h.eq_iff h.first_mem h.position_mem

theorem last_eq_head_iff (h : t.LaidOut f) : t.last = t.head ↔ t.lastPosition = t.position := by
  rw [← h.last, ← h.head]
  exact h.eq_iff h.last_mem h.position_mem

theorem mirror (h : t.LaidOut f) : t.mirror.LaidOut (fun p => f (-p)) where
  position_mem := ⟨Int.neg_le_neg h.le_last, Int.neg_le_neg h.first_le⟩
  head := (congrArg f (Int.neg_neg _)).trans h.head
  first := (congrArg f (Int.neg_neg _)).trans h.last
  last := (congrArg f (Int.neg_neg _)).trans h.first
  made := by
    intro p hp
    simpa [Tape.mirror] using h.made (-p) (mem_live_mirror.1 hp)
  injOn := by
    intro p hp q hq hpq
    have := h.injOn (mem_live_mirror.1 hp) (mem_live_mirror.1 hq) hpq
    omega
  right := by
    intro p (h₁ : -t.lastPosition ≤ p) (h₂ : p < -t.firstPosition)
    have hl := h.left (-p) (by omega) (by omega)
    rw [show -p - 1 = -(p + 1) by omega] at hl
    simpa [Tape.mirror] using hl
  left := by
    intro p (h₁ : -t.lastPosition < p) (h₂ : p ≤ -t.firstPosition)
    have hr := h.right (-p) (by omega) (by omega)
    rw [show -p + 1 = -(p - 1) by omega] at hr
    simpa [Tape.mirror] using hr
  left_first := (Chain.left?_mirror ..).trans h.right_last
  right_last := (Chain.right?_mirror ..).trans h.left_first

theorem of_mirror (h : t.mirror.LaidOut f) : t.LaidOut (fun p => f (-p)) := by
  simpa using h.mirror

/-! ### Dropping cells -/

/-- The first cell lies at no other live position. -/
theorem ne_first (h : t.LaidOut f) (hp : p ∈ t.live) (hne : p ≠ t.firstPosition) :
    f p ≠ t.first := by
  rw [← h.first]
  exact (h.eq_iff hp h.first_mem).not.2 hne

theorem right?_dropFirst (h : t.LaidOut f) {i k : Nat} (hk : k ≠ t.first) :
    (t.dropFirst i).1.chain.right? k = t.chain.right? k := by
  rw [Tape.dropFirst, Chain.right?_unlink h.first_lt, if_neg hk]

theorem left?_dropFirst {i : Nat} (hi : i < t.chain.size) (k : Nat) :
    (t.dropFirst i).1.chain.left? k = if k = i then none else t.chain.left? k := by
  rw [Tape.dropFirst, Chain.left?_unlink hi]

theorem dropFirst (h : t.LaidOut f) (hlt : t.firstPosition < t.position) :
    (t.dropFirst (f (t.firstPosition + 1))).1.LaidOut f := by
  have hle := h.le_last
  have hnext : t.firstPosition + 1 ∈ t.live := ⟨by omega, by omega⟩
  have hleft := left?_dropFirst (h.made _ hnext)
  exact
    { position_mem := mem_live_dropFirst.2 ⟨h.position_mem, hlt.ne'⟩
      head := h.head
      first := rfl
      last := h.last
      made := by
        intro p hp
        simpa [Tape.dropFirst] using h.made p (mem_live_dropFirst.1 hp).1
      injOn := h.injOn.mono fun p hp => (mem_live_dropFirst.1 hp).1
      right := by
        intro p (h₁ : t.firstPosition + 1 ≤ p) (h₂ : p < t.lastPosition)
        rw [h.right?_dropFirst (h.ne_first ⟨by omega, h₂.le⟩ (by omega)), h.right p (by omega) h₂]
      left := by
        intro p (h₁ : t.firstPosition + 1 < p) (h₂ : p ≤ t.lastPosition)
        have hne : f p ≠ f (t.firstPosition + 1) :=
          (h.eq_iff ⟨by omega, h₂⟩ hnext).not.2 (by omega)
        rw [hleft, if_neg hne, h.left p (by omega) h₂]
      left_first := by
        rw [hleft]
        exact if_pos rfl
      right_last := by
        have hlast : t.last ≠ t.first := h.last ▸ h.ne_first h.last_mem (by omega)
        exact (h.right?_dropFirst hlast).trans h.right_last }

/-- The second position of the mirror image is the last but one. -/
theorem neg_next_mirror (t : Tape σ) : -(t.mirror.firstPosition + 1) = t.lastPosition - 1 := by
  show -(-t.lastPosition + 1) = _
  omega

theorem dropLast (h : t.LaidOut f) (hlt : t.position < t.lastPosition) :
    (t.dropLast (f (t.lastPosition - 1))).1.LaidOut f := by
  have hd := h.mirror.dropFirst (Int.neg_lt_neg hlt)
  rw [neg_next_mirror, ← mirror_dropLast] at hd
  simpa using hd.of_mirror

end LaidOut

/-! ### The next cell to drop -/

section

variable [Symbol σ]

/-- The first cell is to be dropped: it is blank, and the head stands elsewhere. -/
def DropsFirst (t : Tape σ) : Prop := t.first ≠ t.head ∧ t.blankAt t.first

/-- The last cell is to be dropped: it is blank, and the head stands elsewhere. -/
def DropsLast (t : Tape σ) : Prop := t.last ≠ t.head ∧ t.blankAt t.last

theorem dropsFirst_mirror : t.mirror.DropsFirst ↔ t.DropsLast := by
  rw [DropsFirst, blankAt_mirror]
  rfl

namespace LaidOut

variable {i : Nat}

theorem dropsFirst_iff (h : t.LaidOut f) :
    t.DropsFirst ↔ t.firstPosition < t.position ∧ t.blankAt t.first := by
  have := h.first_le
  rw [DropsFirst, Ne, h.first_eq_head_iff, lt_iff_le_and_ne]
  simp [this]

theorem dropsLast_iff (h : t.LaidOut f) :
    t.DropsLast ↔ t.position < t.lastPosition ∧ t.blankAt t.last := by
  rw [← dropsFirst_mirror, h.mirror.dropsFirst_iff, blankAt_mirror]
  exact and_congr_left' Int.neg_lt_neg_iff

theorem newFirst?_eq_some_iff (h : t.LaidOut f) :
    t.newFirst? = some i ↔ t.DropsFirst ∧ i = f (t.firstPosition + 1) := by
  by_cases hd : t.DropsFirst
  · have hr := h.right t.firstPosition le_rfl
      ((h.dropsFirst_iff.1 hd).1.trans_le h.le_last)
    have hc : t.first ≠ t.head ∧ t.blankAt t.first := hd
    rw [newFirst?, if_pos hc, ← h.first, hr]
    simp [hd, @eq_comm _ i]
  · have hc : ¬ (t.first ≠ t.head ∧ t.blankAt t.first) := hd
    rw [newFirst?, if_neg hc]
    simp [hd]

theorem newLast?_eq_some_iff (h : t.LaidOut f) :
    t.newLast? = some i ↔ t.DropsLast ∧ i = f (t.lastPosition - 1) := by
  rw [← newFirst?_mirror, h.mirror.newFirst?_eq_some_iff, dropsFirst_mirror, neg_next_mirror]

/-- **A missing link is never the reason to stop.** -/
theorem newFirst?_eq_none_iff (h : t.LaidOut f) : t.newFirst? = none ↔ ¬ t.DropsFirst := by
  rw [Option.eq_none_iff_forall_ne_some]
  simp [h.newFirst?_eq_some_iff]

theorem newLast?_eq_none_iff (h : t.LaidOut f) : t.newLast? = none ↔ ¬ t.DropsLast := by
  rw [Option.eq_none_iff_forall_ne_some]
  simp [h.newLast?_eq_some_iff]

end LaidOut

end

/-! ### The loops that drop cells -/

section

variable {new? : Tape σ → Option Nat} {drop : Tape σ → Nat → Tape σ × Event}

theorem dropAll_of_none (h : new? t = none) (n : Nat) : dropAll new? drop n t = (t, []) := by
  cases n with
  | zero => rfl
  | succ n => rw [dropAll, h]

theorem dropAll_succ_of_some {i : Nat} (h : new? t = some i) (n : Nat) :
    (dropAll new? drop (n + 1) t).1 = (dropAll new? drop n (drop t i).1).1 := by
  rw [dropAll, h]

/-- What dropping one cell keeps, a loop that drops cells keeps. -/
theorem dropAll_keeps {P : Tape σ → Prop}
    (hstep : ∀ t i, P t → new? t = some i → P (drop t i).1) (n : Nat) (h : P t) :
    P (dropAll new? drop n t).1 := by
  induction n generalizing t with
  | zero => exact h
  | succ n ih =>
    cases hi : new? t with
    | none => rw [dropAll_of_none hi]; exact h
    | some i => rw [dropAll_succ_of_some hi]; exact ih (hstep t i h hi)

end

namespace LaidOut

variable [Symbol σ]

theorem dropAllFirst (h : t.LaidOut f) (n : Nat) :
    (dropAll newFirst? Tape.dropFirst n t).1.LaidOut f := by
  refine dropAll_keeps (P := fun t => t.LaidOut f) (fun t i h hi => ?_) n h
  obtain ⟨hd, rfl⟩ := h.newFirst?_eq_some_iff.1 hi
  exact h.dropFirst (h.dropsFirst_iff.1 hd).1

theorem dropAllLast (h : t.LaidOut f) (n : Nat) :
    (dropAll newLast? Tape.dropLast n t).1.LaidOut f := by
  refine dropAll_keeps (P := fun t => t.LaidOut f) (fun t i h hi => ?_) n h
  obtain ⟨hd, rfl⟩ := h.newLast?_eq_some_iff.1 hi
  exact h.dropLast (h.dropsLast_iff.1 hd).1

/-- **The loop at the left end ends by itself** after as many rounds as there are cells to the left
of the head. -/
theorem not_dropsFirst_dropAll (h : t.LaidOut f) {n : Nat} (hn : t.position - t.firstPosition ≤ n) :
    ¬ (dropAll newFirst? Tape.dropFirst n t).1.DropsFirst := by
  induction n generalizing t with
  | zero =>
    show ¬ t.DropsFirst
    rw [h.dropsFirst_iff]
    omega
  | succ n ih =>
    cases hi : t.newFirst? with
    | none => rwa [dropAll_of_none hi, ← h.newFirst?_eq_none_iff]
    | some i =>
      obtain ⟨hd, rfl⟩ := h.newFirst?_eq_some_iff.1 hi
      -- A round leaves one cell less to the left of the head.
      rw [dropAll_succ_of_some hi]
      refine ih (h.dropFirst (h.dropsFirst_iff.1 hd).1) ?_
      show t.position - (t.firstPosition + 1) ≤ n
      omega

theorem not_dropsLast_dropAll (h : t.LaidOut f) {n : Nat} (hn : t.lastPosition - t.position ≤ n) :
    ¬ (dropAll newLast? Tape.dropLast n t).1.DropsLast := by
  rw [← (h.dropAllLast n).newLast?_eq_none_iff, ← newFirst?_mirror, mirror_dropAllLast,
    (h.mirror.dropAllFirst n).newFirst?_eq_none_iff]
  refine h.mirror.not_dropsFirst_dropAll ?_
  show -t.position - -t.lastPosition ≤ n
  omega

end LaidOut

/-! ### Writing and moving -/

namespace LaidOut

theorem write (h : t.LaidOut f) (s : σ) : (t.write s).LaidOut f where
  position_mem := h.position_mem
  head := h.head
  first := h.first
  last := h.last
  made := by
    intro p hp
    simpa [Tape.write] using h.made p hp
  injOn := h.injOn
  right := by
    intro p h₁ h₂
    simpa [Tape.write] using h.right p h₁ h₂
  left := by
    intro p h₁ h₂
    simpa [Tape.write] using h.left p h₁ h₂
  left_first := (Chain.left?_setSymbol ..).trans h.left_first
  right_last := (Chain.right?_setSymbol ..).trans h.right_last

theorem shift_left (h : t.LaidOut f) (hlt : t.firstPosition < t.position) :
    (t.shift .left (f (t.position - 1))).LaidOut f :=
  { h with
    position_mem := by
      have := h.le_last
      exact ⟨show t.firstPosition ≤ t.position + -1 by omega,
        show t.position + -1 ≤ t.lastPosition by omega⟩
    head := rfl }

end LaidOut

/-! ### Growing -/

/-- The layout `f` with the next cell to be made before the first one. -/
def grown (t : Tape σ) (f : Int → Nat) : Int → Nat :=
  Function.update f (t.firstPosition - 1) t.chain.size

@[simp] theorem grown_new : t.grown f (t.firstPosition - 1) = t.chain.size :=
  Function.update_self ..

theorem grown_of_le (h : t.firstPosition ≤ p) : t.grown f p = f p :=
  Function.update_of_ne (by omega) _ _

variable [Symbol σ]

theorem live_growLeft (h : t.firstPosition ≤ t.lastPosition) :
    t.growLeft.live = insert (t.firstPosition - 1) t.live := by
  ext p
  rw [Set.mem_insert_iff, mem_live, mem_live]
  show t.firstPosition - 1 ≤ p ∧ p ≤ t.lastPosition ↔ _
  omega

namespace LaidOut

theorem mem_live_growLeft (h : t.LaidOut f) :
    p ∈ t.growLeft.live ↔ p = t.firstPosition - 1 ∨ p ∈ t.live := by
  rw [live_growLeft h.first_le_last, Set.mem_insert_iff]

theorem right?_growLeft (t : Tape σ) (k : Nat) : t.growLeft.chain.right? k
    = if k = t.chain.size then some t.head else t.chain.right? k :=
  Chain.right?_make_link le_rfl ..

theorem left?_growLeft (h : t.LaidOut f) (k : Nat) : t.growLeft.chain.left? k
    = if k = t.head then some t.chain.size else t.chain.left? k :=
  Chain.left?_make_link h.head_lt.le ..

theorem injOn_grown (h : t.LaidOut f) : Set.InjOn (t.grown f) t.growLeft.live := by
  have hold : Set.EqOn (t.grown f) f t.live := fun p hp => grown_of_le hp.1
  have hout : t.firstPosition - 1 ∉ t.live := fun hmem => absurd hmem.1 (by omega)
  rw [live_growLeft h.first_le_last, Set.injOn_insert hout, hold.injOn_iff, hold.image_eq,
    grown_new]
  refine ⟨h.injOn, ?_⟩
  rintro ⟨p, hp, he⟩
  exact (h.made p hp).ne he

theorem growLeft (h : t.LaidOut f) (he : t.firstPosition = t.position) :
    t.growLeft.LaidOut (t.grown f) where
  position_mem := h.mem_live_growLeft.2 (.inr h.position_mem)
  head := (grown_of_le he.le).trans h.head
  first := grown_new
  last := (grown_of_le h.first_le_last).trans h.last
  made := by
    intro p hp
    rw [Tape.growLeft, Chain.size_link, Chain.size_make, Nat.lt_succ_iff]
    rcases h.mem_live_growLeft.1 hp with rfl | hp
    · exact grown_new.le
    · exact (grown_of_le hp.1).trans_le (h.made p hp).le
  injOn := h.injOn_grown
  right := by
    intro p (h₁ : t.firstPosition - 1 ≤ p) (h₂ : p < t.lastPosition)
    -- The new cell leads to the head; the other links are those of before.
    rw [right?_growLeft, grown_of_le (p := p + 1) (by omega)]
    rcases h₁.lt_or_eq with hlt | rfl
    · have hp : t.firstPosition ≤ p := by omega
      rw [grown_of_le hp, if_neg (h.made p ⟨hp, h₂.le⟩).ne, h.right p hp h₂]
    · rw [grown_new, if_pos rfl, Int.sub_add_cancel, he, h.head]
  left := by
    intro p (h₁ : t.firstPosition - 1 < p) (h₂ : p ≤ t.lastPosition)
    have hp : t.firstPosition ≤ p := by omega
    rw [h.left?_growLeft, grown_of_le hp]
    rcases hp.lt_or_eq with hlt | rfl
    · have hne : f p ≠ t.head := by
        rw [← h.head]
        exact (h.eq_iff ⟨hp, h₂⟩ h.position_mem).not.2 (by omega)
      rw [if_neg hne, h.left p hlt h₂, grown_of_le (by omega)]
    · rw [h.first, if_pos (h.first_eq_head_iff.2 he), grown_new]
  left_first := by
    rw [h.left?_growLeft]
    exact (if_neg h.head_lt.ne').trans (Chain.left?_size _)
  right_last := by
    rw [right?_growLeft]
    exact (if_neg h.last_lt.ne).trans h.right_last

end LaidOut

end TapeMachine.Tape
