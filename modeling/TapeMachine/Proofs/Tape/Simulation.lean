import Mathlib.Data.Set.Card
import TapeMachine.Proofs.Tape.LiveCells
import TapeMachine.Proofs.Tape.Row
import TapeMachine.Proofs.Tape.Unbounded

/-!
# Tapes simulate unbounded tapes

`Shows t f u` says that the tape `t` with the layout `f` shows the unbounded tape `u`:
the heads are at the same position, a live cell holds the symbol of its position, and
`u` is blank wherever `t` has no live cell.  A tape that holds a word shows the
unbounded one (`shows_ofWord`), and every operation keeps that
(`Shows.perform`), although it may need another layout when the tape grows.

So a tape agrees with an unbounded tape after any operations, in all that can be seen
of it: `after_agrees`.
-/

namespace TapeMachine.Tape

section

variable {σ : Type} [Symbol σ] {t : Tape σ} {f : Int → Nat} {u : UnboundedTape σ} {p : Int}

/-- **A tape shows an unbounded tape** with a layout. -/
structure Shows (t : Tape σ) (f : Int → Nat) (u : UnboundedTape σ) : Prop extends
    t.LaidOut f where
  position_eq : t.position = u.head
  symbol : ∀ p ∈ t.live, t.chain.symbol? (f p) = some (u.symbol p)
  blank : ∀ p, p ∉ t.live → u.symbol p = Symbol.ofChar blank

namespace Shows

theorem symbolAt (h : t.Shows f u) (hp : p ∈ t.live) : t.symbolAt (f p) = u.symbol p := by
  rw [Tape.symbolAt, h.symbol p hp, Option.getD_some]

theorem blankAt_iff [LawfulBEq σ] (h : t.Shows f u) (hp : p ∈ t.live) :
    t.blankAt (f p) ↔ u.symbol p = Symbol.ofChar TapeMachine.blank := by
  rw [blankAt, h.symbolAt hp, beq_iff_eq]

theorem read_eq (h : t.Shows f u) : t.read = u.read := by
  rw [Tape.read, ← h.head, h.symbolAt h.position_mem, h.position_eq, UnboundedTape.read]

theorem mirror (h : t.Shows f u) : t.mirror.Shows (fun p => f (-p)) u.mirror where
  toLaidOut := h.toLaidOut.mirror
  position_eq := congrArg Neg.neg h.position_eq
  symbol := by
    intro p hp
    simpa [Tape.mirror, UnboundedTape.mirror] using h.symbol (-p) (mem_live_mirror.1 hp)
  blank := by
    intro p hp
    exact h.blank (-p) (mt mem_live_mirror.2 hp)

theorem of_mirror (h : t.mirror.Shows f u) : t.Shows (fun p => f (-p)) u.mirror := by
  simpa using h.mirror

/-! ### Dropping cells -/

section

variable [LawfulBEq σ]

theorem dropFirst (h : t.Shows f u) (hlt : t.firstPosition < t.position)
    (hb : t.blankAt t.first) : (t.dropFirst (f (t.firstPosition + 1))).1.Shows f u where
  toLaidOut := h.toLaidOut.dropFirst hlt
  position_eq := h.position_eq
  symbol := by
    intro p hp
    simpa [Tape.dropFirst] using h.symbol p (mem_live_dropFirst.1 hp).1
  blank := by
    intro p hp
    by_cases he : p = t.firstPosition
    · rw [he, ← h.blankAt_iff h.first_mem, h.first, hb]
    · exact h.blank p fun hmem => hp (mem_live_dropFirst.2 ⟨hmem, he⟩)

theorem dropAllFirst (h : t.Shows f u) (n : Nat) :
    (dropAll newFirst? Tape.dropFirst n t).1.Shows f u := by
  refine dropAll_keeps (P := fun t => t.Shows f u) (fun t i h hi => ?_) n h
  obtain ⟨hd, rfl⟩ := h.newFirst?_eq_some_iff.1 hi
  exact h.dropFirst (h.dropsFirst_iff.1 hd).1 hd.2

theorem dropAllLast (h : t.Shows f u) (n : Nat) :
    (dropAll newLast? Tape.dropLast n t).1.Shows f u := by
  have hd := h.mirror.dropAllFirst n
  rw [← mirror_dropAllLast] at hd
  simpa using hd.of_mirror

theorem trim (h : t.Shows f u) : t.trim.1.Shows f u := (h.dropAllFirst _).dropAllLast _

end

/-! ### Writing and moving -/

theorem write (h : t.Shows f u) (c : σ) : (t.write c).Shows f (u.write c) where
  toLaidOut := h.toLaidOut.write c
  position_eq := h.position_eq
  symbol := by
    intro p hp
    rw [Tape.write, Chain.symbol?_setSymbol, ← h.head, h.symbol p hp, UnboundedTape.write,
      ← h.position_eq]
    by_cases he : p = t.position
    · simp [he]
    · have hne : f p ≠ f t.position := (h.eq_iff hp h.position_mem).not.2 he
      simp [he, hne]
  blank := by
    intro p hp
    have hne : p ≠ t.position := fun he => hp (he ▸ h.position_mem)
    rw [UnboundedTape.write, ← h.position_eq]
    simpa [hne] using h.blank p hp

theorem shift_left (h : t.Shows f u) (hlt : t.firstPosition < t.position) :
    (t.shift .left (f (t.position - 1))).Shows f (u.move .left) where
  toLaidOut := h.toLaidOut.shift_left hlt
  position_eq := congrArg (· + -1) h.position_eq
  symbol := h.symbol
  blank := h.blank

theorem growLeft (h : t.Shows f u) (he : t.firstPosition = t.position) :
    t.growLeft.Shows (t.grown f) u where
  toLaidOut := h.toLaidOut.growLeft he
  position_eq := h.position_eq
  symbol := by
    intro p hp
    rw [Tape.growLeft, Chain.symbol?_make_link]
    rcases h.mem_live_growLeft.1 hp with rfl | hp
    · have hout : t.firstPosition - 1 ∉ t.live := fun hmem => absurd hmem.1 (by omega)
      rw [grown_new, if_pos rfl, h.blank _ hout]
    · rw [grown_of_le hp.1, if_neg (h.made p hp).ne, h.symbol p hp]
  blank := by
    intro p hp
    exact h.blank p fun hmem => hp (h.mem_live_growLeft.2 (.inr hmem))

theorem reach_left (h : t.Shows f u) : ∃ g, (t.reach .left).1.Shows g (u.move .left) := by
  rcases lt_or_eq_of_le h.first_le with hlt | he
  · have hl := h.left t.position hlt h.le_last
    rw [h.head] at hl
    rw [reach, hl]
    exact ⟨f, h.shift_left hlt⟩
  · -- The head is on the first cell, so the tape grows before it moves.
    have hl : t.chain.left? t.head = none := by
      rw [← h.first_eq_head_iff.2 he, h.left_first]
    have hs := (h.growLeft he).shift_left (show t.firstPosition - 1 < t.position by omega)
    have hnew : t.grown f (t.growLeft.position - 1) = t.growLeft.first := by
      show t.grown f (t.position - 1) = t.chain.size
      rw [← he, grown_new]
    rw [hnew] at hs
    rw [reach, hl]
    exact ⟨_, hs⟩

theorem reach (h : t.Shows f u) (d : Direction) : ∃ g, (t.reach d).1.Shows g (u.move d) := by
  cases d with
  | left => exact h.reach_left
  | stay => exact ⟨f, by simpa [Tape.reach] using h⟩
  | right =>
    obtain ⟨g, hg⟩ := h.mirror.reach_left
    rw [← mirror_reach_right, ← UnboundedTape.mirror_move_right] at hg
    exact ⟨_, by simpa using hg.of_mirror⟩

theorem move [LawfulBEq σ] (h : t.Shows f u) (d : Direction) :
    ∃ g, (t.move d).1.Shows g (u.move d) := by
  by_cases hd : d = .stay
  · subst hd
    exact ⟨f, by simpa [Tape.move] using h⟩
  · obtain ⟨g, hg⟩ := h.reach d
    rw [Tape.move, if_neg hd]
    exact ⟨g, hg.trim⟩

theorem markOffset (h : t.Shows f u) (v : Value) (d : Direction) : (t.markOffset v d).Shows f u :=
  { h with }

/-- **Every operation keeps the tape in step with the unbounded one.** -/
theorem perform [LawfulBEq σ] (h : t.Shows f u) (o : Operation) :
    ∃ g, (t.perform o).Shows g (u.perform o) := by
  cases o with
  | read => exact ⟨f, h⟩
  | write v =>
    cases hv : (Symbol.written? v : Option σ) with
    | none => exact ⟨f, by simpa [perform_write_of_none t hv, UnboundedTape.perform, hv] using h⟩
    | some c =>
      refine ⟨f, ?_⟩
      simpa [perform_write_of_some t hv, UnboundedTape.perform, hv] using h.write c
  | move v =>
    cases hv : Direction.ofValue? v with
    | none => exact ⟨f, by simpa [perform_move_of_none t hv, UnboundedTape.perform, hv] using h⟩
    | some d =>
      obtain ⟨g, hg⟩ := h.move d
      refine ⟨g, ?_⟩
      simpa [perform_move_of_some t hv, UnboundedTape.perform, hv] using hg.markOffset v d
  | trim => exact ⟨f, h.trim⟩

/-- The tape stays in step through operations one after another. -/
theorem after [LawfulBEq σ] (h : t.Shows f u) (ops : List Operation) :
    ∃ g, (t.after ops).Shows g (u.after ops) := by
  refine after_keeps (P := fun t u => ∃ f, t.Shows f u) ?_ ⟨f, h⟩ ops
  rintro t u o ⟨f, h⟩
  exact h.perform o

end Shows

/-! ### The tape of a word -/

theorem symbol_ofWord (w : List σ) (p : Int) : (UnboundedTape.ofWord w).symbol p
    = if 0 ≤ p then (cellsOf w)[p.toNat]?.getD (Symbol.ofChar blank) else Symbol.ofChar blank := by
  cases w with
  | nil =>
    rw [UnboundedTape.ofWord]
    cases p.toNat <;> rfl
  | cons s rest => rfl

/-- **A tape that holds a word shows the unbounded tape that holds it.** -/
theorem shows_ofWord (w : List σ) :
    (ofWord w).Shows Int.toNat (UnboundedTape.ofWord w) where
  toLaidOut := laidOut_ofWord w
  position_eq := by cases w <;> rfl
  symbol := by
    intro p hp
    obtain ⟨h₁, h₂⟩ := mem_live_ofWord.1 hp
    rw [(isRow_ofWord w).symbol, symbol_ofWord, if_pos h₁, List.getElem?_eq_getElem h₂,
      Option.getD_some]
  blank := by
    intro p hp
    rw [symbol_ofWord]
    split
    · next h₁ =>
      have h₂ : (cellsOf w).length ≤ p.toNat := by
        by_contra hlt
        exact hp (mem_live_ofWord.2 ⟨h₁, by omega⟩)
      rw [List.getElem?_eq_none h₂, Option.getD_none]
    · rfl

/-- **A tape shows the unbounded tape after any operations.** -/
theorem shows_after [LawfulBEq σ] (w : List σ) (ops : List Operation) :
    ∃ f, ((ofWord w).after ops).Shows f ((UnboundedTape.ofWord w).after ops) :=
  (shows_ofWord w).after ops

/-! ### What can be seen of a tape -/

namespace Shows

theorem symbols_eq (h : t.Shows f u) : t.symbols = t.positions.map u.symbol := by
  rw [symbols, h.liveCells_eq, List.map_map]
  exact List.map_congr_left fun p hp => h.symbolAt (h.mem_positions.1 hp)

end Shows

end

namespace Shows

variable {t : Tape} {f : Int → Nat} {u : UnboundedTape}

theorem countNonblanks_eq (h : t.Shows f u) :
    t.countNonblanks = t.positions.countP fun p => u.symbol p ≠ TapeMachine.blank := by
  rw [countNonblanks, h.liveCells_eq, List.countP_map]
  refine List.countP_congr fun p hp => ?_
  have hb : t.blankAt (f p) ↔ u.symbol p = TapeMachine.blank := h.blankAt_iff (h.mem_positions.1 hp)
  simp [← hb]

/-- The live cells hold all symbols but blanks. -/
theorem encard_nonblank (h : t.Shows f u) :
    {p | u.symbol p ≠ TapeMachine.blank}.encard = t.countNonblanks := by
  have hset : {p | u.symbol p ≠ TapeMachine.blank}
      = ↑(t.positions.filter fun p => u.symbol p ≠ TapeMachine.blank).toFinset := by
    ext p
    simp only [Set.mem_ofPred_eq, List.coe_toFinset, List.mem_filter, decide_eq_true_iff]
    refine ⟨fun hp => ⟨?_, hp⟩, And.right⟩
    by_contra hout
    exact hp (h.blank p fun hmem => hout (h.mem_positions.2 hmem))
  rw [hset, Set.encard_coe_eq_coe_finsetCard,
    List.toFinset_card_of_nodup (t.nodup_positions.filter _), ← List.countP_eq_length_filter,
    h.countNonblanks_eq]

end Shows

/-- **A tape simulates an unbounded one.**  After any operations the two agree in the symbol under
the head, in the head's position, in every live cell and in the number of symbols that are not
blank, and the unbounded tape is blank outside the live cells. -/
theorem after_agrees (w : List Char) (ops : List Operation) :
    let t := (ofWord w : Tape).after ops
    let u := (UnboundedTape.ofWord w).after ops
    t.read = u.read ∧ t.position = u.head ∧
      t.symbols = (List.range t.length).map (fun i : Nat => u.symbol (t.firstPosition + i)) ∧
      (∀ p, p < t.firstPosition ∨ t.firstPosition + t.length - 1 < p → u.symbol p = blank) ∧
      {p | u.symbol p ≠ blank}.encard = t.countNonblanks := by
  intro t u
  obtain ⟨f, h⟩ : ∃ f, t.Shows f u := shows_after w ops
  have hlast : t.firstPosition + t.length - 1 = t.lastPosition := by
    have := h.length_eq
    omega
  rw [hlast]
  refine ⟨h.read_eq, h.position_eq, ?_, fun p hp => h.blank p ?_, h.encard_nonblank⟩
  · rw [h.symbols_eq, positions, List.map_map]
    rfl
  · rw [mem_live]
    omega

end TapeMachine.Tape
