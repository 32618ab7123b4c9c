import Mathlib.Logic.Relation
import TapeMachine.Proofs.Tape.LiveCells
import TapeMachine.Proofs.Tape.Unbounded

/-!
# Single changes of a tape

An operation works on a tape by one change after another (`Change`): a symbol is written, the
head is brought to the next cell, for which one may be made, or the cell at one end is dropped.
`Carries o t u` says what a change has to do with the cells of a tape.  Those that are live
afterwards lie where they lay or are new, only the cell under the head is written on, and a cell
that is dropped is blank and not under the head.

A cell that is made and not live is **loose** (`Chain.Loose`): it holds a blank, and none of its
links leads anywhere.  `Intact` is a layout of a tape all of whose other cells are loose.  Every
change of an intact tape carries its cells and leaves it intact: `Change.carries`.
-/

namespace TapeMachine

/-- A cell without neighbours that holds a blank. -/
structure Chain.Loose (c : Chain Char) (i : Nat) : Prop where
  left : c.left? i = none
  right : c.right? i = none
  symbol : c.symbol? i = some blank

namespace Tape

variable {t u : Tape} {f g : Int → Nat} {o : Option Operation} {i : Nat} {p : Int}

/-! ### Where cells lie -/

/-- **A cell lies at a position** if it is the live cell there. -/
def LiesAt (t : Tape) (i : Nat) (p : Int) : Prop :=
  ∃ n : Nat, t.liveCells[n]? = some i ∧ p = t.firstPosition + n

theorem mem_liveCells_iff : i ∈ t.liveCells ↔ ∃ p, t.LiesAt i p := by
  rw [List.mem_iff_getElem?]
  exact ⟨fun ⟨n, hn⟩ => ⟨_, n, hn, rfl⟩, fun ⟨_, n, hn, _⟩ => ⟨n, hn⟩⟩

theorem LiesAt.eq_of_same {j : Nat} (h : t.LiesAt i p) (h' : t.LiesAt j p) : i = j := by
  obtain ⟨n, hn, hp⟩ := h
  obtain ⟨m, hm, hp'⟩ := h'
  obtain rfl : n = m := by omega
  rw [hn] at hm
  exact Option.some.inj hm

theorem LaidOut.liesAt_iff (h : t.LaidOut f) : t.LiesAt i p ↔ p ∈ t.live ∧ f p = i := by
  have hl := h.length_eq
  simp only [LiesAt, h.liveCells_eq, List.getElem?_map, Option.map_eq_some_iff, mem_live]
  constructor
  · rintro ⟨n, ⟨q, hq, rfl⟩, rfl⟩
    obtain ⟨hn, rfl⟩ := List.getElem?_eq_some_iff.1 hq
    rw [length_positions] at hn
    exact ⟨by omega, by rw [getElem_positions]⟩
  · rintro ⟨hp, rfl⟩
    refine ⟨(p - t.firstPosition).toNat, ⟨p, ?_, rfl⟩, by omega⟩
    rw [List.getElem?_eq_some_iff]
    exact ⟨by rw [length_positions]; omega, by rw [getElem_positions]; omega⟩

theorem LaidOut.liesAt_mirror (h : t.LaidOut f) : t.mirror.LiesAt i p ↔ t.LiesAt i (-p) := by
  rw [h.mirror.liesAt_iff, h.liesAt_iff, mem_live_mirror]

/-- A live cell lies at one position only. -/
theorem LaidOut.eq_of_liesAt (h : t.LaidOut f) {q : Int} (hp : t.LiesAt i p) (hq : t.LiesAt i q) :
    p = q := by
  obtain ⟨hmem, he⟩ := h.liesAt_iff.1 hp
  obtain ⟨hmem', he'⟩ := h.liesAt_iff.1 hq
  exact h.injOn hmem hmem' (he.trans he'.symm)

theorem LaidOut.lt_of_liesAt (h : t.LaidOut f) (hi : t.LiesAt i p) : i < t.chain.size := by
  obtain ⟨hp, rfl⟩ := h.liesAt_iff.1 hi
  exact h.made p hp

/-! ### What is loose -/

/-- **An intact tape**: with a layout, and no cell outside it but loose ones. -/
structure Intact (t : Tape) (f : Int → Nat) : Prop extends t.LaidOut f where
  loose : ∀ i < t.chain.size, (∀ p ∈ t.live, f p ≠ i) → t.chain.Loose i

theorem Intact.mirror (h : t.Intact f) : t.mirror.Intact (fun p => f (-p)) where
  toLaidOut := h.toLaidOut.mirror
  loose := by
    intro i hi hout
    have hloose : t.chain.Loose i := by
      refine h.loose i (by simpa [Tape.mirror] using hi) fun p hp => ?_
      have hp' : -p ∈ t.mirror.live := mem_live_mirror.2 (by rwa [Int.neg_neg])
      simpa using hout (-p) hp'
    exact
      { left := (Chain.left?_mirror ..).trans hloose.right
        right := (Chain.right?_mirror ..).trans hloose.left
        symbol := (Chain.symbol?_mirror ..).trans hloose.symbol }

theorem Intact.of_mirror (h : t.mirror.Intact f) : t.Intact (fun p => f (-p)) := by
  simpa using h.mirror

/-- **How a tape carries on the cells of another** that was there before one change, which an
operation has made. -/
structure Carries (o : Option Operation) (t u : Tape) : Prop where
  size_le : t.chain.size ≤ u.chain.size
  liesAt : ∀ i p, u.LiesAt i p → t.LiesAt i p ∨ t.chain.size ≤ i ∧ ∀ j, ¬ t.LiesAt j p
  made : ∀ i, t.chain.size ≤ i → i < u.chain.size → ∃ p, u.LiesAt i p
  symbol : ∀ i < t.chain.size, u.chain.symbol? i ≠ t.chain.symbol? i →
    ∃ v c, o = some (.write v) ∧ v.symbol? = some c ∧ i = t.head ∧ u.chain.symbol? i = some c
  dropped : ∀ i p, t.LiesAt i p → ¬ u.LiesAt i p → t.blankAt i ∧ i ≠ t.head

theorem Carries.of_mirror (ht : t.LaidOut f) (hu : u.LaidOut g)
    (h : Carries o t.mirror u.mirror) : Carries o t u := by
  have ht' : ∀ i p, t.mirror.LiesAt i (-p) ↔ t.LiesAt i p := fun i p => by
    rw [ht.liesAt_mirror, Int.neg_neg]
  have hu' : ∀ i p, u.mirror.LiesAt i (-p) ↔ u.LiesAt i p := fun i p => by
    rw [hu.liesAt_mirror, Int.neg_neg]
  have hsize : ∀ t : Tape, t.mirror.chain.size = t.chain.size := fun t => Chain.size_mirror _
  have hsymbol : ∀ (t : Tape) i, t.mirror.chain.symbol? i = t.chain.symbol? i := fun t =>
    Chain.symbol?_mirror _
  exact
    { size_le := by simpa [hsize] using h.size_le
      liesAt := by
        intro i p hp
        simpa [ht', hsize] using h.liesAt i (-p) ((hu' i p).2 hp)
      made := by
        intro i hi hlt
        obtain ⟨p, hp⟩ := h.made i (by rwa [hsize]) (by rwa [hsize])
        exact ⟨-p, hu.liesAt_mirror.1 hp⟩
      symbol := by
        intro i hi hne
        rw [← hsymbol u]
        exact h.symbol i (by rwa [hsize]) (by rwa [hsymbol, hsymbol])
      dropped := by
        intro i p hp hn
        rw [← blankAt_mirror]
        exact h.dropped i (-p) ((ht' i p).2 hp) (mt (hu' i p).1 hn) }

/-! ### The changes -/

/-- **One change of a tape** that an operation makes. -/
inductive Change : Option Operation → Tape → Tape → Prop
  | none (o : Option Operation) (t : Tape) : Change o t t
  | write (t : Tape) {v : Value} {c : Char} (h : v.symbol? = some c) :
      Change (some (.write v)) t (t.write c)
  | growLeft (o : Option Operation) {t : Tape} (h : t.chain.left? t.head = Option.none) :
      Change o t t.growLeft
  | growRight (o : Option Operation) {t : Tape} (h : t.chain.right? t.head = Option.none) :
      Change o t t.growRight
  | shiftLeft (o : Option Operation) {t : Tape} {i : Nat} (h : t.chain.left? t.head = some i) :
      Change o t (t.shift .left i)
  | shiftRight (o : Option Operation) {t : Tape} {i : Nat} (h : t.chain.right? t.head = some i) :
      Change o t (t.shift .right i)
  | dropFirst (o : Option Operation) {t : Tape} {i : Nat} (h : t.newFirst? = some i) :
      Change o t (t.dropFirst i).1
  | dropLast (o : Option Operation) {t : Tape} {i : Nat} (h : t.newLast? = some i) :
      Change o t (t.dropLast i).1
  | mark (o : Option Operation) (t : Tape) (v : Value) (d : Direction) :
      Change o t (t.markOffset v d)

/-- A change that makes no cell and gives none another position carries the cells. -/
theorem Carries.of_subset (ht : t.LaidOut f) (hu : u.LaidOut f) (hsub : u.live ⊆ t.live)
    (hsize : u.chain.size = t.chain.size)
    (hsymbol : ∀ i < t.chain.size, u.chain.symbol? i ≠ t.chain.symbol? i →
      ∃ v c, o = some (.write v) ∧ v.symbol? = some c ∧ i = t.head ∧ u.chain.symbol? i = some c)
    (hdropped : ∀ p ∈ t.live, p ∉ u.live → t.blankAt (f p) ∧ f p ≠ t.head) : Carries o t u where
  size_le := hsize.ge
  liesAt := by
    intro i p hp
    obtain ⟨hmem, he⟩ := hu.liesAt_iff.1 hp
    exact .inl (ht.liesAt_iff.2 ⟨hsub hmem, he⟩)
  made := fun i hi hlt => absurd hlt (by omega)
  symbol := hsymbol
  dropped := by
    intro i p hp hn
    obtain ⟨hmem, rfl⟩ := ht.liesAt_iff.1 hp
    exact hdropped p hmem fun hmem' => hn (hu.liesAt_iff.2 ⟨hmem', rfl⟩)

/-- A made cell that counts as blank holds a blank. -/
theorem symbol?_of_blankAt (hi : i < t.chain.size) (hb : t.blankAt i) :
    t.chain.symbol? i = some blank := by
  rw [blankAt_char, decide_eq_true_iff, symbolAt, Chain.symbol?, Array.getElem?_eq_getElem hi] at hb
  rw [Chain.symbol?, Array.getElem?_eq_getElem hi]
  exact congrArg some hb

namespace Intact

/-! ### Dropping cells -/

theorem dropFirst (h : t.Intact f) (hi : t.newFirst? = some i) :
    (t.dropFirst i).1.Intact f ∧ Carries o t (t.dropFirst i).1 := by
  obtain ⟨hd, rfl⟩ := h.newFirst?_eq_some_iff.1 hi
  obtain ⟨hlt, hblank⟩ := h.dropsFirst_iff.1 hd
  have hle := h.le_last
  have hnext := h.made (t.firstPosition + 1) ⟨by omega, by omega⟩
  have hu := h.toLaidOut.dropFirst hlt
  have hsymbol : ∀ k, (t.dropFirst (f (t.firstPosition + 1))).1.chain.symbol? k =
      t.chain.symbol? k :=
    Chain.symbol?_unlink _ _ _
  have hsize : (t.dropFirst (f (t.firstPosition + 1))).1.chain.size = t.chain.size :=
    Chain.size_unlink ..
  refine ⟨⟨hu, fun k hk hout => ?_⟩, .of_subset h.toLaidOut hu ?_ hsize ?_ ?_⟩
  · rw [hsize] at hk
    by_cases hfirst : k = t.first
    · -- The cell that is dropped had no left link, and its right link is undone.
      subst hfirst
      exact
        { left := by rw [LaidOut.left?_dropFirst hnext, h.left_first, ite_self]
          right := by rw [Tape.dropFirst, Chain.right?_unlink h.first_lt, if_pos rfl]
          symbol := (hsymbol _).trans (symbol?_of_blankAt h.first_lt hblank) }
    · have hloose := h.loose k hk fun p hp => ?_
      · exact
          { left := by rw [LaidOut.left?_dropFirst hnext, hloose.left, ite_self]
            right := (h.right?_dropFirst hfirst).trans hloose.right
            symbol := (hsymbol k).trans hloose.symbol }
      · by_cases hp' : p = t.firstPosition
        · rw [hp', h.first]
          exact Ne.symm hfirst
        · exact hout p (mem_live_dropFirst.2 ⟨hp, hp'⟩)
  · exact fun p hp => (mem_live_dropFirst.1 hp).1
  · exact fun k _ hne => absurd (hsymbol k) hne
  · intro p hp hout
    obtain rfl : p = t.firstPosition := by
      by_contra hne
      exact hout (mem_live_dropFirst.2 ⟨hp, hne⟩)
    rw [h.first]
    exact ⟨hblank, hd.1⟩

/-- What is so of a change in the mirror image is so of the change. -/
theorem of_mirror_change (h : t.Intact f) (hm : u.mirror.Intact g)
    (hc : Carries o t.mirror u.mirror) : ∃ g, u.Intact g ∧ Carries o t u :=
  ⟨_, hm.of_mirror, hc.of_mirror h.toLaidOut hm.of_mirror.toLaidOut⟩

theorem dropLast (h : t.Intact f) (hi : t.newLast? = some i) :
    ∃ g, (t.dropLast i).1.Intact g ∧ Carries o t (t.dropLast i).1 := by
  rw [← newFirst?_mirror] at hi
  obtain ⟨hm, hc⟩ := h.mirror.dropFirst (o := o) hi
  rw [← mirror_dropLast] at hm hc
  exact h.of_mirror_change hm hc

/-! ### Writing and moving -/

theorem write (h : t.Intact f) {v : Value} {c : Char} (hv : v.symbol? = some c) :
    (t.write c).Intact f ∧ Carries (some (.write v)) t (t.write c) := by
  have hsymbol : ∀ k, (t.write c).chain.symbol? k
      = if k = t.head then (t.chain.symbol? k).map fun _ => c else t.chain.symbol? k :=
    Chain.symbol?_setSymbol _ _ _
  have hsize : (t.write c).chain.size = t.chain.size := Chain.size_setSymbol ..
  have hu := h.toLaidOut.write c
  refine ⟨⟨hu, fun k hk hout => ?_⟩,
    .of_subset h.toLaidOut hu subset_rfl hsize (fun k hk hne => ?_)
      fun p hp hout => absurd hp hout⟩
  · rw [hsize] at hk
    have hloose := h.loose k hk hout
    have hhead : k ≠ t.head := by
      rw [← h.head]
      exact (hout _ h.position_mem).symm
    exact
      { left := (Chain.left?_setSymbol ..).trans hloose.left
        right := (Chain.right?_setSymbol ..).trans hloose.right
        symbol := by rw [hsymbol, if_neg hhead, hloose.symbol] }
  · rw [hsymbol] at hne ⊢
    obtain rfl : k = t.head := by
      by_contra hhead
      exact hne (if_neg hhead)
    refine ⟨v, c, rfl, hv, rfl, ?_⟩
    rw [if_pos rfl, Chain.symbol?, Array.getElem?_eq_getElem hk]
    rfl

/-- A change of nothing but what the tape says of its head. -/
theorem of_chain_eq (h : t.Intact f) (hu : u.LaidOut f) (hc : u.chain = t.chain)
    (hl : u.live = t.live) : u.Intact f ∧ Carries o t u := by
  refine ⟨⟨hu, ?_⟩, .of_subset h.toLaidOut hu hl.subset (by rw [hc]) ?_ ?_⟩
  · rw [hc, hl]
    exact h.loose
  · exact fun k _ hne => absurd (by rw [hc]) hne
  · exact fun p hp hout => absurd (hl ▸ hp) hout

theorem shiftLeft (h : t.Intact f) (hi : t.chain.left? t.head = some i) :
    (t.shift .left i).Intact f ∧ Carries o t (t.shift .left i) := by
  rcases h.first_le.lt_or_eq with hlt | he
  · have hl := h.left t.position hlt h.le_last
    rw [h.head, hi, Option.some.injEq] at hl
    subst hl
    exact h.of_chain_eq (h.toLaidOut.shift_left hlt) rfl rfl
  · rw [← h.first_eq_head_iff.2 he, h.left_first] at hi
    contradiction

theorem shiftRight (h : t.Intact f) (hi : t.chain.right? t.head = some i) :
    ∃ g, (t.shift .right i).Intact g ∧ Carries o t (t.shift .right i) := by
  obtain ⟨hm, hc⟩ := h.mirror.shiftLeft (o := o) ((Chain.left?_mirror ..).trans hi)
  rw [← mirror_shift] at hm hc
  exact h.of_mirror_change hm hc

theorem markOffset (h : t.Intact f) (v : Value) (d : Direction) :
    (t.markOffset v d).Intact f ∧ Carries o t (t.markOffset v d) :=
  h.of_chain_eq { h.toLaidOut with } rfl rfl

/-! ### Growing -/

theorem growLeft (h : t.Intact f) (hn : t.chain.left? t.head = none) :
    t.growLeft.Intact (t.grown f) ∧ Carries o t t.growLeft := by
  have he : t.firstPosition = t.position := by
    refine h.first_le.eq_of_not_lt fun hlt => ?_
    have hl := h.left t.position hlt h.le_last
    rw [h.head, hn] at hl
    contradiction
  have hu := h.toLaidOut.growLeft he
  have hsize : t.growLeft.chain.size = t.chain.size + 1 := by
    rw [Tape.growLeft, Chain.size_link, Chain.size_make]
  have hsymbol : ∀ k, t.growLeft.chain.symbol? k
      = if k = t.chain.size then some blank else t.chain.symbol? k :=
    Chain.symbol?_make_link _ _ _ _
  -- The cells that were there lie where they lay; the new one lies where none did.
  have hlies : ∀ k p, t.growLeft.LiesAt k p ↔
      t.LiesAt k p ∨ k = t.chain.size ∧ p = t.firstPosition - 1 := by
    intro k p
    rw [hu.liesAt_iff, h.liesAt_iff, h.mem_live_growLeft]
    constructor
    · rintro ⟨rfl | hp, hk⟩
      · exact .inr ⟨hk.symm.trans grown_new, rfl⟩
      · exact .inl ⟨hp, (grown_of_le hp.1).symm.trans hk⟩
    · rintro (⟨hp, hk⟩ | ⟨rfl, rfl⟩)
      · exact ⟨.inr hp, (grown_of_le hp.1).trans hk⟩
      · exact ⟨.inl rfl, grown_new⟩
  refine ⟨⟨hu, fun k hk hout => ?_⟩, ?_⟩
  · have hnew : k ≠ t.chain.size := by
      rintro rfl
      exact hout _ (h.mem_live_growLeft.2 (.inl rfl)) grown_new
    have hout' : ∀ p ∈ t.live, f p ≠ k := fun p hp he =>
      hout p (h.mem_live_growLeft.2 (.inr hp)) ((grown_of_le hp.1).trans he)
    have hloose := h.loose k (by omega) hout'
    have hhead : k ≠ t.head := by
      rw [← h.head]
      exact (hout' _ h.position_mem).symm
    exact
      { left := by rw [h.left?_growLeft, if_neg hhead, hloose.left]
        right := by rw [LaidOut.right?_growLeft, if_neg hnew, hloose.right]
        symbol := by rw [hsymbol, if_neg hnew, hloose.symbol] }
  · exact
      { size_le := by omega
        liesAt := by
          intro k p hp
          refine ((hlies k p).1 hp).imp_right ?_
          rintro ⟨rfl, rfl⟩
          refine ⟨le_rfl, fun j hj => ?_⟩
          have := (h.liesAt_iff.1 hj).1.1
          omega
        made := fun k hk hlt => ⟨_, (hlies k _).2 (.inr ⟨by omega, rfl⟩)⟩
        symbol := fun k hk hne => absurd ((hsymbol k).trans (if_neg hk.ne)) hne
        dropped := fun k p hp hn => absurd ((hlies k p).2 (.inl hp)) hn }

theorem growRight (h : t.Intact f) (hn : t.chain.right? t.head = none) :
    ∃ g, t.growRight.Intact g ∧ Carries o t t.growRight := by
  obtain ⟨hm, hc⟩ := h.mirror.growLeft (o := o) ((Chain.left?_mirror ..).trans hn)
  rw [← mirror_growRight] at hm hc
  exact h.of_mirror_change hm hc

end Intact

/-- **Every change of an intact tape carries its cells and leaves it intact.** -/
theorem Change.carries (hc : Change o t u) (h : t.Intact f) : ∃ g, u.Intact g ∧ Carries o t u := by
  cases hc with
  | none => exact ⟨f, h.of_chain_eq h.toLaidOut rfl rfl⟩
  | write _ hv => exact ⟨f, h.write hv⟩
  | growLeft _ hn => exact ⟨_, h.growLeft hn⟩
  | growRight _ hn => exact h.growRight hn
  | shiftLeft _ hi => exact ⟨f, h.shiftLeft hi⟩
  | shiftRight _ hi => exact h.shiftRight hi
  | dropFirst _ hi => exact ⟨f, h.dropFirst hi⟩
  | dropLast _ hi => exact h.dropLast hi
  | mark => exact ⟨f, h.markOffset _ _⟩

end Tape

end TapeMachine
