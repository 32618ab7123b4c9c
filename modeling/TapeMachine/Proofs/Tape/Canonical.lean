import TapeMachine.Proofs.Tape.Links

/-!
# The live extent is canonical

A tape is trimmed (`Trimmed`) if no cell is to be dropped at either end.  The tape of a
word need not be, since a word may begin or end in blanks.  Trimming and every move of
the head away from its cell leave a trimmed tape, and no operation makes a trimmed tape
untrimmed (`Trimmed.perform`), so a tape is trimmed from the first such operation on.

The live positions of a trimmed tape are the smallest interval that holds the head and
every symbol that is not blank (`Shows.isLeast_firstPosition`,
`Shows.isGreatest_lastPosition`).  What is on the tape and where the head is therefore
determine all that can be seen of it, whatever has happened before: `extent_canonical`.
-/

namespace TapeMachine.Tape

variable {σ : Type} [Symbol σ] {t : Tape σ} {f : Int → Nat} {u : UnboundedTape σ}

/-- No cell is to be dropped at either end. -/
def Trimmed (t : Tape σ) : Prop := ¬ t.DropsFirst ∧ ¬ t.DropsLast

/-- The operations that trim a tape: trimming itself, and moves of the head to another cell. -/
def Operation.Trims : Operation → Prop
  | .read | .write _ => False
  | .move v => ∃ d, Direction.ofValue? v = some d ∧ d ≠ .stay
  | .trim => True

/-- The symbol at a position, which is blank where no cell is live. -/
def contents (t : Tape σ) (p : Int) : σ :=
  if p < t.firstPosition then Symbol.ofChar blank
  else t.symbols[(p - t.firstPosition).toNat]?.getD (Symbol.ofChar blank)

/-! ### Trimmed tapes stay trimmed -/

theorem dropsFirst_dropLast (t : Tape σ) (i : Nat) :
    (t.dropLast i).1.DropsFirst ↔ t.DropsFirst := by
  simp [DropsFirst, Tape.dropLast, blankAt, symbolAt]

theorem LaidOut.trimmed_trim (h : t.LaidOut f) : t.trim.1.Trimmed := by
  refine ⟨?_, h.trimmable.not_dropsLast⟩
  refine dropAll_keeps (P := fun t => ¬ t.DropsFirst) (fun t i ht _ => ?_) _
    h.trimmable.not_dropsFirst
  rwa [dropsFirst_dropLast]

/-- The head is on the cell that a write changes, so no other cell becomes blank. -/
theorem dropsFirst_write (t : Tape σ) (c : σ) : (t.write c).DropsFirst ↔ t.DropsFirst := by
  by_cases he : t.first = t.head
  · simp [DropsFirst, Tape.write, he]
  · simp [DropsFirst, Tape.write, blankAt, symbolAt, Chain.symbol?_setSymbol, he]

theorem dropsLast_write (t : Tape σ) (c : σ) : (t.write c).DropsLast ↔ t.DropsLast := by
  by_cases he : t.last = t.head
  · simp [DropsLast, Tape.write, he]
  · simp [DropsLast, Tape.write, blankAt, symbolAt, Chain.symbol?_setSymbol, he]

theorem Trimmed.write (h : t.Trimmed) (c : σ) : (t.write c).Trimmed := by
  rwa [Trimmed, dropsFirst_write, dropsLast_write]

/-- Trimming a trimmed tape changes and reports nothing. -/
theorem Trimmed.trim_eq (h : t.Trimmed) (hl : t.LaidOut f) : t.trim = (t, []) := by
  rw [trim, dropAll_of_none (hl.newFirst?_eq_none_iff.2 h.1)]
  show ((dropAll newLast? dropLast t.length t).1, [] ++ (dropAll newLast? dropLast t.length t).2)
    = _
  rw [dropAll_of_none (hl.newLast?_eq_none_iff.2 h.2)]
  rfl

theorem Shows.trimmed_move (h : t.Shows f u) {d : Direction} (hd : d ≠ .stay) :
    (t.move d).1.Trimmed := by
  obtain ⟨g, hg⟩ := h.reach d
  rw [Tape.move, if_neg hd]
  exact hg.trimmed_trim

theorem Shows.trimmed_perform (h : t.Shows f u) {o : Operation} (ho : o.Trims) :
    (t.perform o).Trimmed := by
  cases o with
  | read => exact ho.elim
  | write v => exact ho.elim
  | move v =>
    obtain ⟨d, hv, hd⟩ := ho
    rw [perform_move_of_some t hv]
    exact h.trimmed_move hd
  | trim => exact h.trimmed_trim

theorem Trimmed.perform (ht : t.Trimmed) (h : t.Shows f u) (o : Operation) :
    (t.perform o).Trimmed := by
  by_cases ho : o.Trims
  · exact h.trimmed_perform ho
  cases o with
  | read => exact ht
  | write v =>
    cases hv : (Symbol.written? v : Option σ) with
    | none => rwa [perform_write_of_none t hv]
    | some c => rw [perform_write_of_some t hv]; exact ht.write c
  | move v =>
    cases hv : Direction.ofValue? v with
    | none => rwa [perform_move_of_none t hv]
    | some d =>
      have hd : d = .stay := by_contra fun hd => ho ⟨d, hv, hd⟩
      rw [perform_move_of_some t hv, hd, Tape.move, if_pos rfl]
      exact ht
  | trim => exact absurd trivial ho

/-- A tape stays trimmed from the first operation that trims it on. -/
theorem trimmed_after [LawfulBEq σ] {ops : List Operation} (hops : ∃ o ∈ ops, o.Trims)
    (h : t.Shows f u) : (t.after ops).Trimmed := by
  obtain ⟨o, ho, htrims⟩ := hops
  obtain ⟨before, rest, rfl⟩ := List.append_of_mem ho
  obtain ⟨g, hg⟩ := h.after before
  obtain ⟨g', hg'⟩ := hg.perform o
  rw [after, List.foldl_append, List.foldl_cons]
  refine (after_keeps (P := fun t u => t.Trimmed ∧ ∃ f, t.Shows f u) ?_
    ⟨hg.trimmed_perform htrims, g', hg'⟩ rest).1
  rintro t u o ⟨ht, f, h⟩
  exact ⟨ht.perform h o, h.perform o⟩

/-! ### The smallest interval -/

namespace Shows

theorem contents_eq (h : t.Shows f u) : t.contents = u.symbol := by
  funext p
  have hl := h.length_eq
  rw [contents]
  split
  · next hp => exact (h.blank p fun hmem => absurd hmem.1 (by omega)).symm
  · next hp =>
    rw [h.symbols_eq, List.getElem?_map]
    by_cases hlast : p ≤ t.lastPosition
    · rw [List.getElem?_eq_getElem (by simp; omega), getElem_positions]
      show u.symbol _ = u.symbol p
      congr 1
      omega
    · rw [List.getElem?_eq_none (by simp; omega)]
      exact (h.blank p fun hmem => hlast hmem.2).symm

theorem mem_live_of_contents (h : t.Shows f u) {p : Int}
    (hp : p = t.position ∨ t.contents p ≠ Symbol.ofChar TapeMachine.blank) : p ∈ t.live := by
  rcases hp with rfl | hp
  · exact h.position_mem
  · by_contra hout
    rw [h.contents_eq] at hp
    exact hp (h.blank p hout)

theorem isLeast_firstPosition [LawfulBEq σ] (h : t.Shows f u) (ht : t.Trimmed) :
    IsLeast {p | p = t.position ∨ t.contents p ≠ Symbol.ofChar TapeMachine.blank}
      t.firstPosition := by
  refine ⟨?_, fun p hp => (h.mem_live_of_contents hp).1⟩
  by_contra hn
  obtain ⟨hne, hb⟩ := not_or.1 hn
  refine ht.1 ⟨fun he => hne (h.first_eq_head_iff.1 he), ?_⟩
  rw [← h.first, h.blankAt_iff h.first_mem, ← h.contents_eq]
  exact not_not.1 hb

theorem isGreatest_lastPosition [LawfulBEq σ] (h : t.Shows f u) (ht : t.Trimmed) :
    IsGreatest {p | p = t.position ∨ t.contents p ≠ Symbol.ofChar TapeMachine.blank}
      t.lastPosition := by
  refine ⟨?_, fun p hp => (h.mem_live_of_contents hp).2⟩
  by_contra hn
  obtain ⟨hne, hb⟩ := not_or.1 hn
  refine ht.2 ⟨fun he => hne (h.last_eq_head_iff.1 he), ?_⟩
  rw [← h.last, h.blankAt_iff h.last_mem, ← h.contents_eq]
  exact not_not.1 hb

theorem marked_eq (h : t.Shows f u) :
    t.marked = t.positions.map fun p => (t.contents p, decide (p = t.position)) := by
  rw [marked, h.liveCells_eq, List.map_map]
  refine List.map_congr_left fun p hp => ?_
  have hmem := h.mem_positions.1 hp
  show (t.symbolAt (f p), decide (f p = t.head)) = _
  rw [h.symbolAt hmem, h.contents_eq, ← h.head]
  simp only [h.eq_iff hmem h.position_mem]

/-- Trimmed tapes with the same contents and the head at the same position look the same. -/
theorem eq_of_contents_eq [LawfulBEq σ] {t' : Tape σ} {f' : Int → Nat} {u' : UnboundedTape σ}
    (h : t.Shows f u) (h' : t'.Shows f' u') (ht : t.Trimmed) (ht' : t'.Trimmed)
    (hc : t'.contents = t.contents) (hp : t'.position = t.position) :
    t'.firstPosition = t.firstPosition ∧ t'.length = t.length ∧ t'.marked = t.marked ∧
      t'.symbols = t.symbols := by
  have hfirst' := h'.isLeast_firstPosition ht'
  have hlast' := h'.isGreatest_lastPosition ht'
  rw [hc, hp] at hfirst' hlast'
  have hfirst : t'.firstPosition = t.firstPosition :=
    hfirst'.unique (h.isLeast_firstPosition ht)
  have hlast : t'.lastPosition = t.lastPosition :=
    hlast'.unique (h.isGreatest_lastPosition ht)
  have hlength : t'.length = t.length := by rw [length, length, hfirst, hlast]
  have hpositions : t'.positions = t.positions := by rw [positions, positions, hfirst, hlength]
  refine ⟨hfirst, hlength, ?_, ?_⟩
  · rw [h'.marked_eq, h.marked_eq, hpositions, hc, hp]
  · rw [h'.symbols_eq, h.symbols_eq, hpositions, ← h'.contents_eq, ← h.contents_eq, hc]

end Shows

/-- **The live extent is canonical.**  Once an operation has trimmed the tape, each end is under the
head or not blank, and the live positions are the smallest interval with the head and all symbols
but blanks.  Any other tape with such a history and the same contents and position of the head
therefore looks the same, and trimming once more changes and reports nothing. -/
theorem extent_canonical (w : List Char) (ops : List Operation) (hops : ∃ o ∈ ops, o.Trims) :
    let t := (ofWord w : Tape).after ops
    (t.first = t.head ∨ ¬ t.blankAt t.first) ∧ (t.last = t.head ∨ ¬ t.blankAt t.last) ∧
      IsLeast {p | p = t.position ∨ t.contents p ≠ blank} t.firstPosition ∧
      IsGreatest {p | p = t.position ∨ t.contents p ≠ blank} (t.firstPosition + t.length - 1) ∧
      (∀ w' ops', (∃ o ∈ ops', o.Trims) →
        let t' := (ofWord w' : Tape).after ops'
        t'.contents = t.contents → t'.position = t.position →
          t'.marked = t.marked ∧ t'.text = t.text ∧ t'.firstPosition = t.firstPosition ∧
            t'.length = t.length) ∧
      t.trim = (t, []) := by
  intro t
  obtain ⟨f, h⟩ := shows_after w ops
  have ht : t.Trimmed := trimmed_after hops (shows_ofWord w)
  have hlast : t.firstPosition + t.length - 1 = t.lastPosition := by
    have hl : (t.length : Int) = t.lastPosition - t.firstPosition + 1 := h.length_eq
    omega
  rw [hlast]
  refine ⟨or_iff_not_imp_left.2 fun hne hb => ht.1 ⟨hne, hb⟩,
    or_iff_not_imp_left.2 fun hne hb => ht.2 ⟨hne, hb⟩, h.isLeast_firstPosition ht,
    h.isGreatest_lastPosition ht, fun w' ops' hops' => ?_, ht.trim_eq h.toLaidOut⟩
  intro t' hc hp
  obtain ⟨f', h'⟩ := shows_after w' ops'
  have ht' : t'.Trimmed := trimmed_after hops' (shows_ofWord w')
  obtain ⟨hfirst, hlength, hmarked, hsymbols⟩ := h.eq_of_contents_eq h' ht ht' hc hp
  exact ⟨hmarked, by rw [text_char, text_char, hsymbols], hfirst, hlength⟩

/-- Two histories that leave a blank under the head and a `b` to its right: one from a word with
blanks at both ends, with a blank written at the left end, a move that stays and a refused one, the
other from the empty word. -/
theorem extent_canonical_two_histories :
    let ops := [.move (.int 1), .write (.text "B"), .move (.int 0), .move (.int 2)]
    let ops' := [.move (.int 1), .move (.int 1), .write (.text "b"), .move (.int (-1))]
    let t := (ofWord "BabBB".toList : Tape).after ops
    let t' := (ofWord [] : Tape).after ops'
    (∃ o ∈ ops, Operation.Trims o) ∧ (∃ o ∈ ops', Operation.Trims o) ∧
      IsLeast {p | p = t.position ∨ t.contents p ≠ blank} 1 ∧
      IsGreatest {p | p = t.position ∨ t.contents p ≠ blank} 2 ∧
      t'.marked = t.marked ∧ t.trim = (t, []) := by
  intro ops ops' t t'
  have hops : ∃ o ∈ ops, Operation.Trims o :=
    ⟨.move (.int 1), List.mem_cons_self .., .right, by decide, by decide⟩
  have hops' : ∃ o ∈ ops', Operation.Trims o :=
    ⟨.move (.int 1), List.mem_cons_self .., .right, by decide, by decide⟩
  have hc : t'.contents = t.contents := by
    funext p
    rw [contents, contents, show t'.firstPosition = t.firstPosition by decide,
      show t'.symbols = t.symbols by decide]
  obtain ⟨-, -, hleast, hgreatest, hother, htrim⟩ := extent_canonical "BabBB".toList ops hops
  exact ⟨hops, hops', hleast, hgreatest, (hother [] ops' hops' hc (by decide)).1, htrim⟩

end TapeMachine.Tape
