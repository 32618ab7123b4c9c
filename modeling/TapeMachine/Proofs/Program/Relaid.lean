import TapeMachine.Proofs.Machine.Retabled

/-!
# Transitions that are laid out anew

A line **respells** another (`Respells`) if it has the same words, with any blanks around them, or
the same tokens with zeros put in front of the two states.  The lines of some transitions are
**laid out anew** (`Relaid`) if they are put in another order, lines that are skipped are put in or
left out, and lines are respelled.

None of this is told from the entries that the lines list but for their order
(`Relaid.exists_lists`), and no machine reads that: `ofText_relaid`.
-/

namespace TapeMachine.Program

open TapeMachine.Text

variable {line line' token : List Char} {lines lines' : List (List Char)} {e : Key × Move}
  {es : Table Key Move} {ws : List (List Char)} {n : Nat}

/-- **A line respells another**: it has the same words, or the same tokens with some zeros in front
of the states. -/
inductive Respells : List Char → List Char → Prop
  | blanks {line line' : List Char} {ws : List (List Char)} (h : Spells line ws)
      (h' : Spells line' ws) : Respells line line'
  | zeros {line line' state symbol next nextSymbol direction : List Char} (i j : Nat)
      (h : Spells line [state, symbol, next, nextSymbol, direction])
      (hstate : ∃ n, Denotes state n) (hnext : ∃ n, Denotes next n)
      (hlength : i + state.length ≤ maxDigits) (hlength' : j + next.length ≤ maxDigits)
      (h' : Spells line' [List.replicate i '0' ++ state, symbol, List.replicate j '0' ++ next,
        nextSymbol, direction]) : Respells line line'

/-- **Lines are laid out anew**: in another order, with or without lines that are skipped, and
respelled. -/
inductive Relaid : List (List Char) → List (List Char) → Prop
  | perm {lines lines' : List (List Char)} (h : lines.Perm lines') : Relaid lines lines'
  | insert {line : List Char} (before behind : List (List Char)) (h : IsSkipped line) :
      Relaid (before ++ behind) (before ++ line :: behind)
  | delete {line : List Char} (before behind : List (List Char)) (h : IsSkipped line) :
      Relaid (before ++ line :: behind) (before ++ behind)
  | respell {line line' : List Char} (before behind : List (List Char)) (h : Respells line line') :
      Relaid (before ++ line :: behind) (before ++ line' :: behind)
  | trans {lines lines' lines'' : List (List Char)} (h : Relaid lines lines')
      (h' : Relaid lines' lines'') : Relaid lines lines''

/-! ### Respelled lines -/

/-- Zeros in front of a numeral make no difference. -/
theorem Denotes.zeros (h : Denotes token n) {i : Nat} (hi : i + token.length ≤ maxDigits) :
    Denotes (List.replicate i '0' ++ token) n := by
  refine ⟨List.append_ne_nil_of_right_ne_nil _ h.ne_nil, fun c hc => ?_, ?_, ?_⟩
  · rcases List.mem_append.1 hc with hc | hc
    · obtain rfl := List.eq_of_mem_replicate hc
      decide
    · exact h.isAsciiDigit c hc
  · rwa [List.length_append, List.length_replicate]
  · have hzero : digitValue '0' = 0 := by decide
    rw [List.reverse_append, List.reverse_replicate, List.map_append, List.map_replicate, hzero,
      Nat.ofDigits_append_replicate_zero]
    exact h.eq

/-- **The words of a line tell whether it is skipped**: there are none, or the first begins with
`#`. -/
theorem isSkipped_iff_of_spells (h : Spells line ws) :
    IsSkipped line ↔ ∀ w ∈ ws.head?, w.head? = some '#' := by
  simp only [IsSkipped, ← trim_eq_iff, exists_eq_left']
  cases h with
  | none h =>
    have hnil : Strips line [] := ⟨⟨line, [], h, List.forall_mem_nil _, by simp⟩, by simp, by simp⟩
    simp [hnil.trim_eq]
  | word hbefore hw hrest h =>
    have hhead := (Spells.word hbefore hw hrest h).head?_eq (strips_trim _)
    rw [hhead]
    obtain ⟨c, w, rfl⟩ := List.exists_cons_of_ne_nil hw.ne_nil
    constructor
    · rintro (hnil | hmark)
      · rw [hnil] at hhead
        contradiction
      · intro w' hw'
        obtain rfl := Option.some.inj hw'
        exact hmark
    · intro hmark
      exact .inr (hmark _ rfl)

theorem Respells.isSkipped (h : Respells line line') (hskip : IsSkipped line) :
    IsSkipped line' := by
  cases h with
  | blanks h h' => rwa [isSkipped_iff_of_spells h', ← isSkipped_iff_of_spells h]
  | @zeros state _ _ _ _ i j h hstate =>
    -- A line that is skipped has no state.
    exfalso
    obtain ⟨n, hn⟩ := hstate
    have hmark : state.head? = some '#' := (isSkipped_iff_of_spells h).1 hskip state rfl
    have hdigit := hn.isAsciiDigit '#' (List.mem_of_head? hmark)
    contradiction

theorem Respells.isTransition (h : Respells line line') (ht : IsTransition line e) :
    IsTransition line' e := by
  obtain ⟨state, next, m, n, hspells, hm, hem, hn, hen⟩ := ht
  cases h with
  | blanks h h' =>
    obtain rfl := h.words_eq.symm.trans hspells.words_eq
    exact ⟨state, next, m, n, h', hm, hem, hn, hen⟩
  | zeros i j h _ _ hlength hlength' h' =>
    obtain ⟨rfl, rfl, rfl, rfl, rfl, -⟩ := by simpa using h.words_eq.symm.trans hspells.words_eq
    exact ⟨_, _, m, n, h', hm.zeros hlength, hem, hn.zeros hlength', hen⟩

/-! ### What lines list -/

theorem lists_append_iff : Lists (lines ++ lines') es ↔
    ∃ es₁ es₂, Lists lines es₁ ∧ Lists lines' es₂ ∧ es = es₁ ++ es₂ := by
  induction lines generalizing es with
  | nil =>
    constructor
    · intro h
      exact ⟨[], es, .nil, h, rfl⟩
    · rintro ⟨_, es₂, ⟨⟩, h, rfl⟩
      exact h
  | cons line lines ih =>
    rw [List.cons_append]
    constructor
    · intro h
      cases h with
      | skipped h hrest =>
        obtain ⟨es₁, es₂, h₁, h₂, rfl⟩ := ih.1 hrest
        exact ⟨es₁, es₂, .skipped h h₁, h₂, rfl⟩
      | @transition _ _ e _ h hrest =>
        obtain ⟨es₁, es₂, h₁, h₂, rfl⟩ := ih.1 hrest
        exact ⟨e :: es₁, es₂, .transition h h₁, h₂, rfl⟩
    · rintro ⟨es₁, es₂, h₁, h₂, rfl⟩
      cases h₁ with
      | skipped h hrest => exact .skipped h (ih.2 ⟨_, _, hrest, h₂, rfl⟩)
      | transition h hrest => exact .transition h (ih.2 ⟨_, _, hrest, h₂, rfl⟩)

/-- Lines in another order list the entries in another order. -/
theorem Lists.exists_of_perm (h : Lists lines es) (hperm : lines.Perm lines') :
    ∃ es' : Table Key Move, es.Perm es' ∧ Lists lines' es' := by
  induction hperm generalizing es with
  | nil => exact ⟨es, .refl _, h⟩
  | cons line _ ih =>
    cases h with
    | skipped h hrest =>
      obtain ⟨es', hperm, hes'⟩ := ih hrest
      exact ⟨es', hperm, .skipped h hes'⟩
    | @transition _ _ e _ h hrest =>
      obtain ⟨es', hperm, hes'⟩ := ih hrest
      exact ⟨e :: es', hperm.cons e, .transition h hes'⟩
  | swap line line' lines =>
    cases h with
    | skipped h hrest =>
      cases hrest with
      | skipped h' hrest => exact ⟨_, .refl _, .skipped h' (.skipped h hrest)⟩
      | transition h' hrest => exact ⟨_, .refl _, .transition h' (.skipped h hrest)⟩
    | transition h hrest =>
      cases hrest with
      | skipped h' hrest => exact ⟨_, .refl _, .skipped h' (.transition h hrest)⟩
      | transition h' hrest => exact ⟨_, .swap _ _ _, .transition h' (.transition h hrest)⟩
  | trans _ _ ih ih' =>
    obtain ⟨es', hperm, hes'⟩ := ih h
    obtain ⟨es'', hperm', hes''⟩ := ih' hes'
    exact ⟨es'', hperm.trans hperm', hes''⟩

/-- **Lines that are laid out anew list the same entries**, in any order. -/
theorem Relaid.exists_lists (h : Relaid lines lines') (hes : Lists lines es) :
    ∃ es' : Table Key Move, es.Perm es' ∧ Lists lines' es' := by
  induction h generalizing es with
  | perm h => exact hes.exists_of_perm h
  | insert before behind h =>
    obtain ⟨es₁, es₂, h₁, h₂, rfl⟩ := lists_append_iff.1 hes
    exact ⟨_, .refl _, lists_append_iff.2 ⟨es₁, es₂, h₁, .skipped h h₂, rfl⟩⟩
  | delete before behind h =>
    obtain ⟨es₁, es₂, h₁, h₂, rfl⟩ := lists_append_iff.1 hes
    have h₂ : Lists behind es₂ := (lists_cons_of_skipped h).1 h₂
    exact ⟨_, .refl _, lists_append_iff.2 ⟨es₁, es₂, h₁, h₂, rfl⟩⟩
  | respell before behind h =>
    obtain ⟨es₁, es₂, h₁, h₂, rfl⟩ := lists_append_iff.1 hes
    refine ⟨_, .refl _, lists_append_iff.2 ⟨es₁, es₂, h₁, ?_, rfl⟩⟩
    cases h₂ with
    | skipped hskip hrest => exact .skipped (h.isSkipped hskip) hrest
    | transition ht hrest => exact .transition (h.isTransition ht) hrest
  | trans _ _ ih ih' =>
    obtain ⟨es', hperm, hes'⟩ := ih hes
    obtain ⟨es'', hperm', hes''⟩ := ih' hes'
    exact ⟨es'', hperm.trans hperm', hes''⟩

/-! ### Texts and runs -/

open Machine in
/-- **The layout of the transitions carries no meaning.**  A text with the header of a program and
its transitions laid out anew is a program with the same entries, in any order, and otherwise the
same.  On every word, under every limit and whatever somebody hears of it, the machines of both
have emitted the same configurations at every moment, have reported the same, and have ended
alike if at all. -/
theorem ofText_relaid {text text' : String} {p : Program} {header rest rest' : List (List Char)}
    (h : ofText text = .ok p) (hlines : HasLines text.toList (header ++ rest))
    (hlines' : HasLines text'.toList (header ++ rest')) (hheader : header.length = headerLines)
    (hrelaid : Relaid rest rest') :
    ∃ table : Table Key Move, p.table.Perm table ∧ ofText text' = .ok { p with table := table } ∧
      ∀ (σ : Type) [Symbol σ] (word limit : Value) (traced heard : Bool) (moments : Nat),
        let run := fun p : Program => Run.drive moments
          (.ofStart ((p.machine : Machine σ).startTo heard word) limit traced heard)
        (run { p with table := table }).configurations = (run p).configurations ∧
          (run { p with table := table }).ending = (run p).ending ∧
          (run { p with table := table }).log = (run p).log := by
  obtain ⟨⟨size, input, tape, start, halt, rest₀, a, s, b, hparts, ha, hpa, hinput, htape, hs, hps,
    hb, hpb, hes⟩, hkeys⟩ := ofLines_eq_ok_iff.1 h
  have hsplit : [size, input, tape, start, halt] ++ rest₀ = header ++ rest :=
    hparts.symm.trans hlines.splitLines_eq
  obtain ⟨rfl, rfl⟩ := List.append_inj hsplit hheader.symm
  obtain ⟨table, hperm, hes'⟩ := hrelaid.exists_lists hes
  have hkeys' : table.KeysDiffer := hperm.pairwise hkeys fun hne => hne.symm
  refine ⟨table, hperm, ofLines_eq_ok_iff.2 ⟨⟨size, input, tape, start, halt, rest', a, s, b,
    hlines'.splitLines_eq, ha, hpa, hinput, htape, hs, hps, hb, hpb, hes'⟩, hkeys'⟩, ?_⟩
  intro σ _ word limit traced heard moments run
  have hsame : SaysSame (p.machine : Machine σ).table table.unchecked :=
    Table.lookup?_unchecked_of_perm hperm hkeys
  have hrun : run { p with table := table } = (run p).withTable table.unchecked :=
    Run.drive_startTo_withTable hsame word limit traced heard moments
  rw [hrun]
  exact ⟨rfl, rfl, rfl⟩

/-- A comment more, the transitions the other way round, and one of them with zeros and blanks. -/
theorem ofText_relaid_two_transitions : ∃ p p' : Program,
    ofText "1\na\naB\n0\n1\n0 a 0 a R\n0 B 1 B N" = .ok p ∧
      ofText "1\na\naB\n0\n1\n # c\n\t00 B 001  B N \n0 a 0 a R" = .ok p' ∧
      p.table.Perm p'.table ∧ ∀ (word : String) (limit : Option Int) (moments : Nat),
        (p'.machine.run word limit moments).configurations =
            (p.machine.run word limit moments).configurations ∧
          (p'.machine.run word limit moments).ending =
            (p.machine.run word limit moments).ending := by
  let p : Program := ⟨1, "a", "aB", 0, 1,
    [(⟨0, 'a'⟩, ⟨0, 'a', .right⟩), (⟨0, 'B'⟩, ⟨1, 'B', .stay⟩)]⟩
  have h : ofText "1\na\naB\n0\n1\n0 a 0 a R\n0 B 1 B N" = .ok p := by rfl
  have hrelaid : Relaid ["0 a 0 a R".toList, "0 B 1 B N".toList]
      [" # c".toList, "\t00 B 001  B N ".toList, "0 a 0 a R".toList] := by
    have hzero : Denotes ['0'] 0 := readState_eq_ok_iff.1 rfl
    have hone : Denotes ['1'] 1 := readState_eq_ok_iff.1 rfl
    have hrespells : Respells "0 B 1 B N".toList "\t00 B 001  B N ".toList :=
      .zeros 1 2 (words_eq_iff.1 rfl) ⟨0, hzero⟩ ⟨1, hone⟩ (by decide) (by decide)
        (words_eq_iff.1 rfl)
    have hswap : Relaid ["0 a 0 a R".toList, "0 B 1 B N".toList]
        ["0 B 1 B N".toList, "0 a 0 a R".toList] := .perm (.swap _ _ _)
    have hcomment : IsSkipped " # c".toList := isSkipped_iff.1 rfl
    exact (hswap.trans (.respell [] _ hrespells)).trans (.insert [] _ hcomment)
  let header := ["1".toList, "a".toList, "aB".toList, "0".toList, "1".toList]
  have hlines : HasLines "1\na\naB\n0\n1\n0 a 0 a R\n0 B 1 B N".toList
      (header ++ ["0 a 0 a R".toList, "0 B 1 B N".toList]) := splitLines_eq_iff.1 rfl
  have hlines' : HasLines "1\na\naB\n0\n1\n # c\n\t00 B 001  B N \n0 a 0 a R".toList
      (header ++ [" # c".toList, "\t00 B 001  B N ".toList, "0 a 0 a R".toList]) :=
    splitLines_eq_iff.1 rfl
  obtain ⟨table, hperm, h', hruns⟩ := ofText_relaid h hlines hlines' rfl hrelaid
  refine ⟨p, _, h, h', hperm, ?_⟩
  intro word limit moments
  have hrun : ∀ q : Program, q.machine.run word limit moments = Machine.Run.drive moments
      (.ofStart (q.machine.startTo false (.text word)) (Machine.limitValue limit) true false) := by
    intro q
    rw [Machine.startTo_false]
    rfl
  obtain ⟨hconfigurations, hending, -⟩ := hruns Char (.text word) (Machine.limitValue limit) true
    false moments
  rw [hrun, hrun]
  exact ⟨hconfigurations, hending⟩

end TapeMachine.Program
