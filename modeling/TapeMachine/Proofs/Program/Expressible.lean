import TapeMachine.Proofs.Program.Grammar
import TapeMachine.Proofs.Text.Numeral

/-!
# What programs can be written

A program is **expressible** (`Expressible`) if its states are numbers of at most `maxDigits`
digits, no symbol of its table is blank, and no two entries have the same key.  Such an entry is
written on a line that is a transition with it, whatever its symbols (`isTransition_entryLine`): its
tokens stand between single blanks, and none of its characters breaks the line.

So every program that is read is expressible, and every expressible program is read from its lines:
`ofText_expresses_exactly`.
-/

namespace TapeMachine.Program

open TapeMachine.Text

variable {token s w : List Char} {ws : List (List Char)} {c : Char} {n : Nat} {x : Int}
  {e : Key × Move} {p : Program}

/-- An integer is a state that can be written. -/
def IsState (x : Int) : Prop := 0 ≤ x ∧ x < 10 ^ maxDigits

/-- **An entry can be written**: its states can, its symbols are not blank, and it goes in one of
the three directions. -/
structure IsEntry (e : Key × Move) : Prop where
  state : IsState e.1.state
  symbol : ¬ isBlank e.1.symbol
  nextState : IsState e.2.nextState
  nextSymbol : ¬ isBlank e.2.nextSymbol
  direction : e.2.direction.letter ∈ ['L', 'N', 'R']

/-- **A program is expressible** if its states and entries can be written and the keys differ. -/
structure Expressible (p : Program) : Prop where
  startState : IsState p.startState
  endState : IsState p.endState
  entries : ∀ e ∈ p.table, IsEntry e
  keys : p.table.KeysDiffer

/-! ### Numerals and words -/

theorem Denotes.isState (h : Denotes token n) : IsState n := by
  have hdigits : ∀ d ∈ token.reverse.map digitValue, d < 10 := by
    intro d hd
    obtain ⟨c, hc, rfl⟩ := List.mem_map.1 hd
    exact digitValue_lt (h.isAsciiDigit c (List.mem_reverse.1 hc))
  have hlt := Nat.ofDigits_lt_base_pow_length (by decide : 1 < 10) hdigits
  rw [← h.eq, List.length_map, List.length_reverse] at hlt
  have hle : n < 10 ^ maxDigits :=
    hlt.trans_le (Nat.pow_le_pow_right (by decide) h.length_le)
  exact ⟨Int.natCast_nonneg n, by exact_mod_cast hle⟩

/-- **A state is written as a numeral that denotes it.** -/
theorem IsState.exists_denotes (h : IsState x) : ∃ n : Nat, x = n ∧ Denotes (signed x) n := by
  obtain ⟨n, rfl⟩ := Int.eq_ofNat_of_zero_le h.1
  have hlt : n < 10 ^ maxDigits := by exact_mod_cast h.2
  refine ⟨n, rfl, decimal_ne_nil n, fun c hc => isAsciiDigit_of_mem_decimal hc,
    length_decimal_le (by decide) hlt, ?_⟩
  rw [← ofDigits_eq]
  exact (ofDigits_decimal n).symm

theorem Denotes.isWord (h : Denotes token n) : IsWord token :=
  ⟨h.ne_nil, fun c hc => not_isBlank_of_isAsciiDigit (h.isAsciiDigit c hc)⟩

theorem noBreak_cons_word (hw : IsWord w) (hs : NoBreak s) : NoBreak (w ++ ' ' :: s) := by
  intro c hc
  rcases List.mem_append.1 hc with hc | hc
  · exact noBreak_of_not_isBlank hw.noBlank c hc
  · rcases List.mem_cons.1 hc with rfl | hc
    · decide
    · exact hs c hc

/-! ### Entries -/

theorem letter_mem (d : Direction) : d.letter ∈ ['L', 'N', 'R'] := by
  cases d <;> decide

theorem not_isBlank_letter (d : Direction) : ¬ isBlank d.letter := by
  cases d <;> decide

theorem IsTransition.isEntry {line : List Char} (h : IsTransition line e) : IsEntry e := by
  obtain ⟨state, next, m, n, hspells, hm, hem, hn, hen⟩ := h
  have hword := hspells.isWord
  have hsymbol : IsWord [e.1.symbol] := hword _ (by simp)
  have hnextSymbol : IsWord [e.2.nextSymbol] := hword _ (by simp)
  exact ⟨hem ▸ hm.isState, hsymbol.noBlank _ (List.mem_singleton_self _), hen ▸ hn.isState,
    hnextSymbol.noBlank _ (List.mem_singleton_self _), letter_mem _⟩

/-- The line of an entry as its tokens with blanks between them. -/
theorem entryLine_eq (e : Key × Move) :
    entryLine e = signed e.1.state ++ ' ' :: ([e.1.symbol] ++ ' ' :: (signed e.2.nextState ++
      ' ' :: ([e.2.nextSymbol] ++ ' ' :: [e.2.direction.letter]))) := by
  simp [entryLine]

/-- **An entry is read from its line**, whatever its symbols. -/
theorem isTransition_entryLine (h : IsEntry e) : IsTransition (entryLine e) e := by
  obtain ⟨m, hem, hm⟩ := h.state.exists_denotes
  obtain ⟨n, hen, hn⟩ := h.nextState.exists_denotes
  refine ⟨_, _, m, n, words_eq_iff.1 ?_, hm, hem, hn, hen⟩
  rw [entryLine_eq, words_cons_word hm.isWord, words_cons_word (isWord_singleton h.symbol),
    words_cons_word hn.isWord, words_cons_word (isWord_singleton h.nextSymbol)]
  have hletter : words ([e.2.direction.letter] ++ []) = [[e.2.direction.letter]] :=
    words_append_word (isWord_singleton (not_isBlank_letter _)) (by simp)
  rw [List.append_nil] at hletter
  rw [hletter]

/-- No line break is in the line of an entry. -/
theorem noBreak_entryLine (h : IsEntry e) : NoBreak (entryLine e) := by
  obtain ⟨m, -, hm⟩ := h.state.exists_denotes
  obtain ⟨n, -, hn⟩ := h.nextState.exists_denotes
  rw [entryLine_eq]
  apply noBreak_cons_word hm.isWord
  apply noBreak_cons_word (isWord_singleton h.symbol)
  apply noBreak_cons_word hn.isWord
  apply noBreak_cons_word (isWord_singleton h.nextSymbol)
  exact noBreak_of_not_isBlank (isWord_singleton (not_isBlank_letter _)).noBlank

/-! ### Texts -/

/-- The lines of a program, with a line of its own for the size of its alphabet. -/
def linesOf (size : List Char) (p : Program) : List (List Char) :=
  [size, p.inputAlphabet.toList, p.tapeAlphabet.toList, signed p.startState, signed p.endState] ++
    p.table.map entryLine

theorem lists_entryLines {es : Table Key Move} (h : ∀ e ∈ es, IsEntry e) :
    Lists (es.map entryLine) es := by
  induction es with
  | nil => exact .nil
  | cons e es ih =>
    obtain ⟨he, hes⟩ := List.forall_mem_cons.1 h
    exact .transition (isTransition_entryLine he) (ih hes)

theorem ofText_of_hasLines {text : String} {size : List Char} (hp : Expressible p)
    (hsize : Denotes size n) (hinput : ∀ c ∈ p.inputAlphabet.toList, ¬ isBlank c)
    (htape : ∀ c ∈ p.tapeAlphabet.toList, ¬ isBlank c)
    (h : HasLines text.toList (linesOf size p)) :
    ofText text = .ok { p with alphabetSize := n } := by
  obtain ⟨s, hps, hs⟩ := hp.startState.exists_denotes
  obtain ⟨b, hpb, hb⟩ := hp.endState.exists_denotes
  have hholds : ∀ {token n}, Denotes token n → HoldsNumber token n := fun hn =>
    ⟨_, strips_self hn.isWord.noBlank, hn⟩
  refine ofLines_eq_ok_iff.2 ⟨⟨_, _, _, _, _, _, n, s, b, h.splitLines_eq, hholds hsize, rfl,
    strips_self hinput, strips_self htape, hholds hs, hps, hholds hb, hpb,
    lists_entryLines hp.entries⟩, hp.keys⟩

theorem noBreak_linesOf {size : List Char} (hp : Expressible p)
    (hsize : Denotes size n) (hinput : ∀ c ∈ p.inputAlphabet.toList, ¬ isBlank c)
    (htape : ∀ c ∈ p.tapeAlphabet.toList, ¬ isBlank c) :
    ∀ line ∈ linesOf size p, NoBreak line := by
  obtain ⟨s, -, hs⟩ := hp.startState.exists_denotes
  obtain ⟨b, -, hb⟩ := hp.endState.exists_denotes
  have hentries : ∀ line ∈ p.table.map entryLine, NoBreak line := by
    intro line hl
    obtain ⟨e, he, rfl⟩ := List.mem_map.1 hl
    exact noBreak_entryLine (hp.entries e he)
  simp only [linesOf, List.cons_append, List.nil_append, List.forall_mem_cons]
  exact ⟨noBreak_of_not_isBlank hsize.isWord.noBlank, noBreak_of_not_isBlank hinput,
    noBreak_of_not_isBlank htape, noBreak_of_not_isBlank hs.isWord.noBlank,
    noBreak_of_not_isBlank hb.isWord.noBlank, hentries⟩

/-- A text is a program only if that is expressible. -/
theorem expressible_of_ofText {text : String} (h : ofText text = .ok p) : Expressible p := by
  obtain ⟨⟨size, input, tape, start, halt, rest, a, s, b, -, -, -, -, -, ⟨_, -, hs⟩, hps,
    ⟨_, -, hb⟩, hpb, hes⟩, hkeys⟩ := ofLines_eq_ok_iff.1 h
  refine ⟨hps ▸ hs.isState, hpb ▸ hb.isState, ?_, hkeys⟩
  intro e he
  obtain ⟨line, -, ht⟩ := hes.mem_iff.1 he
  exact ht.isEntry

/-- **A program is read back from the text that is written for it.** -/
theorem ofText_toText (hp : Expressible p) (hsize : IsState p.alphabetSize)
    (hinput : ∀ c ∈ p.inputAlphabet.toList, ¬ isBlank c)
    (htape : ∀ c ∈ p.tapeAlphabet.toList, ¬ isBlank c) : ofText p.toText = .ok p := by
  obtain ⟨n, hpn, hn⟩ := hsize.exists_denotes
  have hlines : HasLines p.toText.toList (linesOf (signed p.alphabetSize) p) := by
    have happend := hasLines_append (noBreak_linesOf hp hn hinput htape) .none
    simpa [toText, lines, linesOf] using happend
  rw [ofText_of_hasLines hp hn hinput htape hlines, ← hpn]

/-- **The texts express exactly the tables over states that can be written and symbols that are not
blank.**  Every program that is read is expressible.  Every expressible program is read from its
lines, the size of the alphabet being any numeral and the alphabets having no blank: from the text
in which each line is ended, and from every other text that has these lines. -/
theorem ofText_expresses_exactly :
    (∀ (text : String) (p : Program), ofText text = .ok p → Expressible p) ∧
    ∀ (p : Program) (size : List Char), Expressible p →
      size ≠ [] → (∀ c ∈ size, isAsciiDigit c) → size.length ≤ maxDigits →
      (∀ c ∈ p.inputAlphabet.toList, ¬ isBlank c) → (∀ c ∈ p.tapeAlphabet.toList, ¬ isBlank c) →
      ofText (joinLines ((linesOf size p).map String.ofList)) =
          .ok { p with alphabetSize := ofDigits size } ∧
        ∀ text : String, HasLines text.toList (linesOf size p) →
          ofText text = .ok { p with alphabetSize := ofDigits size } := by
  refine ⟨fun _ _ => expressible_of_ofText, ?_⟩
  intro p size hp hne hdigits hlength hinput htape
  have hsize : Denotes size (ofDigits size) := ⟨hne, hdigits, hlength, ofDigits_eq size⟩
  have hbreak := noBreak_linesOf hp hsize hinput htape
  exact ⟨ofText_of_hasLines hp hsize hinput htape (hasLines_joinLines hbreak),
    fun text => ofText_of_hasLines hp hsize hinput htape⟩

/-- A number sign, a bracket, quotation marks, digits and letters of other scripts are symbols like
all others. -/
theorem odd_symbols_expressed :
    ofText "3\nab\n\n0\n7\n0 # 7 [ L\n3 \" 0 0 N\n0 é 10 中 R" = .ok ⟨3, "ab", "", 0, 7,
      [(⟨0, '#'⟩, ⟨7, '[', .left⟩), (⟨3, '"'⟩, ⟨0, '0', .stay⟩),
        (⟨0, 'é'⟩, ⟨10, '中', .right⟩)]⟩ := by
  let p : Program := ⟨3, "ab", "", 0, 7,
    [(⟨0, '#'⟩, ⟨7, '[', .left⟩), (⟨3, '"'⟩, ⟨0, '0', .stay⟩), (⟨0, 'é'⟩, ⟨10, '中', .right⟩)]⟩
  have hzero : IsState 0 := (readState_eq_ok_iff.1 rfl : Denotes ['0'] 0).isState
  have hthree : IsState 3 := (readState_eq_ok_iff.1 rfl : Denotes ['3'] 3).isState
  have hseven : IsState 7 := (readState_eq_ok_iff.1 rfl : Denotes ['7'] 7).isState
  have hten : IsState 10 := (readState_eq_ok_iff.1 rfl : Denotes ['1', '0'] 10).isState
  have hp : Expressible p := by
    refine ⟨hzero, hseven, ?_, by unfold Table.KeysDiffer; decide⟩
    simp only [p, List.forall_mem_cons]
    refine ⟨⟨hzero, by decide, hseven, by decide, letter_mem _⟩,
      ⟨hthree, by decide, hzero, by decide, letter_mem _⟩,
      ⟨hzero, by decide, hten, by decide, letter_mem _⟩, List.forall_mem_nil _⟩
  have hlines : HasLines "3\nab\n\n0\n7\n0 # 7 [ L\n3 \" 0 0 N\n0 é 10 中 R".toList
      (linesOf ['3'] p) := splitLines_eq_iff.1 (by decide +kernel)
  have hsize : ∀ c ∈ ['3'], isAsciiDigit c := List.forall_mem_singleton.2 (by decide)
  have hinput : ∀ c ∈ "ab".toList, ¬ isBlank c :=
    List.forall_mem_cons.2 ⟨by decide, List.forall_mem_singleton.2 (by decide)⟩
  have htape : ∀ c ∈ "".toList, ¬ isBlank c := List.forall_mem_nil _
  have hread := ofText_expresses_exactly.2 p ['3'] hp (by decide) hsize (by decide) hinput htape
  exact hread.2 _ hlines

end TapeMachine.Program
