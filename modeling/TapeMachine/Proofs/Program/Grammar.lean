import Mathlib.Data.List.Forall2
import Mathlib.Data.Nat.Digits.Defs
import TapeMachine.Program.Text
import TapeMachine.Proofs.Result
import TapeMachine.Proofs.Text.Lines
import TapeMachine.Proofs.Text.Words

/-!
# The grammar of programs

A **numeral** denotes a number in the digits `0` to `9` (`Denotes`).  Among the transitions a line
is **skipped** if it is blank or begins with `#` (`IsSkipped`), and it is a **transition** if it
spells five tokens of the right kinds (`IsTransition`); no line is both.  Some lines **list**
the entries of their transitions in order (`Lists`).

Each reader of `Program.ofText` reads what one of these says (`readState_eq_ok_iff`,
`readLine_eq_ok_iff`, `readTable_eq_ok_iff`), so a text is read if and only if it is in the
grammar: `ofText_accepts_exactly`.
-/

namespace TapeMachine

open TapeMachine.Text

/-! ### Tables with different keys -/

namespace Table

variable {κ α : Type} {t : Table κ α} {k : κ}

/-- No two entries of a table have the same key. -/
def KeysDiffer (t : Table κ α) : Prop := t.Pairwise fun e e' => e.1 ≠ e'.1

/-- What is put under a new key comes last. -/
theorem put_of_lookup?_eq_none [BEq κ] (h : t.lookup? k = none) (a : α) :
    t.put k a = t ++ [(k, a)] := by
  induction t with
  | nil => rfl
  | cons e rest ih =>
    rw [lookup?_cons] at h
    by_cases he : e.1 == k
    · simp [he] at h
    · rw [if_neg he] at h
      rw [put, if_neg he, ih h]
      rfl

theorem keysDiffer_concat_iff [BEq κ] [LawfulBEq κ] {a : α} :
    KeysDiffer (t ++ [(k, a)]) ↔ t.KeysDiffer ∧ t.lookup? k = none := by
  rw [KeysDiffer, List.pairwise_append, lookup?, Option.map_eq_none_iff, List.find?_eq_none]
  simp [KeysDiffer]

end Table

namespace Program

variable {line token : List Char} {lines : List (List Char)} {e : Key × Move}
  {t es : Table Key Move} {n : Nat}

/-! ### Numerals -/

/-- **A numeral denotes a number**: it is not empty, has at most `maxDigits` digits `0` to `9`, and
they are those of the number, leading zeros aside. -/
structure Denotes (token : List Char) (n : Nat) : Prop where
  ne_nil : token ≠ []
  isAsciiDigit : ∀ c ∈ token, isAsciiDigit c
  length_le : token.length ≤ maxDigits
  eq : n = Nat.ofDigits 10 (token.reverse.map digitValue)

theorem ofDigits_eq (ds : List Char) :
    ofDigits ds = Nat.ofDigits 10 (ds.reverse.map digitValue) := by
  induction ds using List.reverseRecOn with
  | nil => rfl
  | append_singleton ds d ih =>
    rw [ofDigits, ofDigitValues, List.map_append, List.foldl_append] at *
    rw [List.reverse_append]
    simp only [List.map_cons, List.map_nil, List.foldl_cons, List.foldl_nil, List.reverse_cons,
      List.reverse_nil, List.nil_append, List.cons_append, Nat.ofDigits_cons]
    rw [← ih]
    exact Nat.add_comm ..

theorem readState_eq_ok_iff : readState token = .ok n ↔ Denotes token n := by
  have hrefused : (token.isEmpty || !token.all isAsciiDigit) = true ↔
      ¬ (token ≠ [] ∧ ∀ c ∈ token, isAsciiDigit c) := by
    simp [List.isEmpty_iff, or_iff_not_imp_left]
  rw [readState]
  by_cases hdigits : token ≠ [] ∧ ∀ c ∈ token, isAsciiDigit c
  · rw [if_neg fun h => hrefused.1 h hdigits]
    by_cases hlong : maxDigits < token.length
    · rw [if_pos hlong]
      exact ⟨nofun, fun h => absurd h.length_le (by omega)⟩
    · rw [if_neg hlong, ofDigits_eq, Except.ok.injEq]
      exact ⟨fun h => ⟨hdigits.1, hdigits.2, by omega, h.symm⟩, fun h => h.eq.symm⟩
  · rw [if_pos (hrefused.2 hdigits)]
    exact ⟨nofun, fun h => absurd ⟨h.ne_nil, h.isAsciiDigit⟩ hdigits⟩

/-! ### Lines -/

/-- A line of the header holds a number by itself. -/
def HoldsNumber (line : List Char) (n : Nat) : Prop := ∃ token, Strips line token ∧ Denotes token n

/-- **A line is skipped** among the transitions if it is blank or begins with `#`. -/
def IsSkipped (line : List Char) : Prop :=
  ∃ s, Strips line s ∧ (s = [] ∨ s.head? = some '#')

/-- **A line is a transition** with an entry: its tokens are the state and the symbol, the next
state and the symbol that is written, and the letter of the direction. -/
def IsTransition (line : List Char) (e : Key × Move) : Prop :=
  ∃ state next m n,
    Spells line [state, [e.1.symbol], next, [e.2.nextSymbol], [e.2.direction.letter]] ∧
    Denotes state m ∧ e.1.state = m ∧ Denotes next n ∧ e.2.nextState = n

theorem isSkipped_iff : isSkipped line ↔ IsSkipped line := by
  have hs : ∀ s, Strips line s ↔ trim line = s := fun s => trim_eq_iff.symm
  simp only [IsSkipped, hs, exists_eq_left']
  rw [isSkipped]
  cases trim line <;> simp

theorem readSymbol_eq_ok_iff {c : Char} : readSymbol token = .ok c ↔ token = [c] := by
  unfold readSymbol
  split <;> simp_all [eq_comm]

theorem readDirection_eq_ok_iff {d : Direction} :
    readDirection token = .ok d ↔ token = [d.letter] := by
  rw [← Direction.ofToken?_eq_some_iff, readDirection]
  cases Direction.ofToken? token <;> simp

theorem readTokens_eq_ok_iff {state symbol next nextSymbol direction : List Char} :
    readTokens state symbol next nextSymbol direction = .ok e ↔
      ∃ m n, Denotes state m ∧ e.1.state = m ∧ symbol = [e.1.symbol] ∧ Denotes next n ∧
        e.2.nextState = n ∧ nextSymbol = [e.2.nextSymbol] ∧ direction = [e.2.direction.letter] := by
  simp only [readTokens, bind_eq_ok_iff, readState_eq_ok_iff, readSymbol_eq_ok_iff,
    readDirection_eq_ok_iff]
  constructor
  · rintro ⟨m, hm, c, hc, n, hn, c', hc', d, hd, he⟩
    obtain rfl := Except.ok.inj he
    exact ⟨m, n, hm, rfl, hc, hn, rfl, hc', hd⟩
  · rintro ⟨m, n, hm, hem, hc, hn, hen, hc', hd⟩
    refine ⟨m, hm, _, hc, n, hn, _, hc', _, hd, ?_⟩
    rw [← hem, ← hen]
    rfl

theorem readLine_eq_ok_iff : readLine line = .ok e ↔ IsTransition line e := by
  have hs : ∀ ws, Spells line ws ↔ words line = ws := fun ws => words_eq_iff.symm
  simp only [IsTransition, hs]
  rw [readLine]
  split
  · rename_i state symbol next nextSymbol direction hwords
    rw [mapError_eq_ok_iff, readTokens_eq_ok_iff, hwords]
    constructor
    · rintro ⟨m, n, hm, hem, rfl, hn, hen, rfl, rfl⟩
      exact ⟨state, next, m, n, rfl, hm, hem, hn, hen⟩
    · rintro ⟨state, next, m, n, heq, hm, hem, hn, hen⟩
      obtain ⟨rfl, rfl, rfl, rfl, rfl, -⟩ := by simpa using heq
      exact ⟨m, n, hm, hem, rfl, hn, hen, rfl, rfl⟩
  · rename_i tokens hwords
    refine ⟨nofun, ?_⟩
    rintro ⟨state, next, m, n, hspells, -⟩
    exact absurd hspells (hwords _ _ _ _ _)

theorem IsTransition.unique {e' : Key × Move} (h : IsTransition line e)
    (h' : IsTransition line e') : e = e' :=
  Except.ok.inj ((readLine_eq_ok_iff.2 h).symm.trans (readLine_eq_ok_iff.2 h'))

/-- No transition is skipped: it has tokens, the first of which begins with a digit. -/
theorem IsTransition.not_isSkipped (h : IsTransition line e) : ¬ IsSkipped line := by
  obtain ⟨state, next, m, n, hspells, hm, -⟩ := h
  rintro ⟨s, hs, hcases⟩
  have hhead := hspells.head?_eq hs
  obtain ⟨c, state, rfl⟩ := List.exists_cons_of_ne_nil hm.ne_nil
  have hc := hm.isAsciiDigit c (List.mem_cons_self ..)
  rcases hcases with rfl | hmark
  · contradiction
  · obtain rfl : c = '#' := by simpa [hmark, eq_comm] using hhead
    contradiction

/-! ### Transitions -/

/-- **Lines list the entries of their transitions** in order, some lines being skipped. -/
inductive Lists : List (List Char) → Table Key Move → Prop
  | nil : Lists [] []
  | skipped {line : List Char} {rest : List (List Char)} {es : Table Key Move} (h : IsSkipped line)
      (hrest : Lists rest es) : Lists (line :: rest) es
  | transition {line : List Char} {rest : List (List Char)} {e : Key × Move} {es : Table Key Move}
      (h : IsTransition line e) (hrest : Lists rest es) : Lists (line :: rest) (e :: es)

theorem lists_cons_of_skipped (h : IsSkipped line) : Lists (line :: lines) es ↔ Lists lines es := by
  refine ⟨?_, .skipped h⟩
  rintro (_ | ⟨-, hrest⟩ | ⟨h', -⟩)
  · exact hrest
  · exact absurd h h'.not_isSkipped

theorem lists_cons_of_transition (h : IsTransition line e) :
    Lists (line :: lines) es ↔ ∃ es', Lists lines es' ∧ es = e :: es' := by
  constructor
  · rintro (_ | ⟨h', -⟩ | ⟨h', hrest⟩)
    · exact absurd h' h.not_isSkipped
    · exact ⟨_, hrest, by rw [h.unique h']⟩
  · rintro ⟨es', hrest, rfl⟩
    exact .transition h hrest

/-- **Lines are read into a table** if they list entries under new keys, which are put behind those
that it has. -/
theorem readTable_eq_ok_iff {number : Nat} {table : Table Key Move} (hkeys : table.KeysDiffer) :
    readTable number lines table = .ok t ↔
      ∃ es, Lists lines es ∧ Table.KeysDiffer (table ++ es) ∧ t = table ++ es := by
  -- The table is general, as each line is read with the entries of those before it.
  induction lines generalizing number table with
  | nil =>
    rw [readTable, Except.ok.injEq]
    constructor
    · rintro rfl
      exact ⟨[], .nil, by rwa [List.append_nil], (List.append_nil _).symm⟩
    · rintro ⟨es, ⟨⟩, -, rfl⟩
      exact (List.append_nil _).symm
  | cons line rest ih =>
    rw [readTable]
    by_cases hskip : isSkipped line
    · simp only [if_pos hskip, ih hkeys, lists_cons_of_skipped (isSkipped_iff.1 hskip)]
    rw [if_neg hskip]
    cases hread : readLine line with
    | error f =>
      refine ⟨nofun, ?_⟩
      rintro ⟨es, _ | ⟨h, -⟩ | ⟨h, -⟩, -⟩
      · exact absurd (isSkipped_iff.2 h) hskip
      · rw [readLine_eq_ok_iff.2 h] at hread
        contradiction
    | ok e =>
      obtain ⟨k, m⟩ := e
      simp only [lists_cons_of_transition (readLine_eq_ok_iff.1 hread)]
      cases hk : table.lookup? k with
      | some a =>
        refine ⟨nofun, ?_⟩
        rintro ⟨_, ⟨es, -, rfl⟩, hdiffer, -⟩
        rw [List.append_cons] at hdiffer
        have hnone := (Table.keysDiffer_concat_iff.1 (List.pairwise_append.1 hdiffer).1).2
        rw [hk] at hnone
        contradiction
      | none =>
        dsimp only
        rw [Table.put_of_lookup?_eq_none hk, ih (Table.keysDiffer_concat_iff.2 ⟨hkeys, hk⟩)]
        simp only [List.append_assoc, List.singleton_append]
        constructor
        · rintro ⟨es, hes, hdiffer, rfl⟩
          exact ⟨_, ⟨es, hes, rfl⟩, hdiffer, rfl⟩
        · rintro ⟨_, ⟨es, hes, rfl⟩, hdiffer, rfl⟩
          exact ⟨es, hes, hdiffer, rfl⟩

theorem Lists.mem_iff (h : Lists lines es) : e ∈ es ↔ ∃ line ∈ lines, IsTransition line e := by
  induction h with
  | nil => simp
  | skipped h _ ih =>
    rw [ih]
    simp only [List.mem_cons, exists_eq_or_imp]
    exact ⟨.inr, fun h' => h'.resolve_left fun ht => ht.not_isSkipped h⟩
  | transition h _ ih =>
    simp only [List.mem_cons, exists_eq_or_imp, ih]
    refine or_congr_left ⟨?_, fun h' => h'.unique h⟩
    rintro rfl
    exact h

/-- Lines list entries with keys of their own if each is skipped or a transition, and no two
transitions have the same key. -/
theorem exists_lists_iff : (∃ es, Lists lines es ∧ es.KeysDiffer) ↔
    (∀ line ∈ lines, IsSkipped line ∨ ∃ e, IsTransition line e) ∧
      lines.Pairwise fun line line' => ∀ e e', IsTransition line e → IsTransition line' e' →
        e.1 ≠ e'.1 := by
  constructor
  · rintro ⟨es, hes, hpairwise⟩
    induction hes with
    | nil => simp
    | @skipped line rest es h hes ih =>
      obtain ⟨hall, hrest⟩ := ih hpairwise
      refine ⟨fun line' hl => ?_, .cons (fun line' _ e e' he => absurd h he.not_isSkipped) hrest⟩
      rcases List.mem_cons.1 hl with rfl | hl
      · exact .inl h
      · exact hall line' hl
    | @transition line rest e es h hes ih =>
      obtain ⟨hfirst, hpairwise⟩ := List.pairwise_cons.1 hpairwise
      obtain ⟨hall, hrest⟩ := ih hpairwise
      refine ⟨fun line' hl => ?_, .cons (fun line' hl e' e'' he' he'' => ?_) hrest⟩
      · rcases List.mem_cons.1 hl with rfl | hl
        · exact .inr ⟨e, h⟩
        · exact hall line' hl
      · obtain rfl := he'.unique h
        exact hfirst e'' (hes.mem_iff.2 ⟨line', hl, he''⟩)
  · rintro ⟨hall, hpairwise⟩
    induction lines with
    | nil => exact ⟨[], .nil, .nil⟩
    | cons line rest ih =>
      obtain ⟨hfirst, hpairwise⟩ := List.pairwise_cons.1 hpairwise
      obtain ⟨es, hes, hkeys⟩ := ih (fun l hl => hall l (List.mem_cons_of_mem _ hl)) hpairwise
      rcases hall line (List.mem_cons_self ..) with h | ⟨e, h⟩
      · exact ⟨es, .skipped h hes, hkeys⟩
      · refine ⟨e :: es, .transition h hes, .cons (fun e' he' => ?_) hkeys⟩
        obtain ⟨line', hl, he'⟩ := hes.mem_iff.1 he'
        exact hfirst line' hl e e' h he'

/-! ### Texts -/

theorem readHeader_eq_ok_iff {number : Nat} {name : String} :
    readHeader number name line = .ok n ↔ HoldsNumber line n := by
  have hs : ∀ s, Strips line s ↔ trim line = s := fun s => trim_eq_iff.symm
  simp only [HoldsNumber, hs, exists_eq_left', readHeader, mapError_eq_ok_iff, readState_eq_ok_iff]

/-- **What it is for lines to be those of a program**: five of the header, of which three hold
numbers and two the alphabets, and then its transitions, no two of them with the same key. -/
structure HasParts (lines : List (List Char)) (p : Program) : Prop where
  parts : ∃ size input tape start halt rest a s h,
    lines = size :: input :: tape :: start :: halt :: rest ∧
    HoldsNumber size a ∧ p.alphabetSize = a ∧
    Strips input p.inputAlphabet.toList ∧ Strips tape p.tapeAlphabet.toList ∧
    HoldsNumber start s ∧ p.startState = s ∧ HoldsNumber halt h ∧ p.endState = h ∧
    Lists rest p.table
  keys : p.table.KeysDiffer

/-- **Lines are read as the program whose lines they are.** -/
theorem ofLines_eq_ok_iff {p : Program} : ofLines lines = .ok p ↔ HasParts lines p := by
  unfold ofLines
  split
  · rename_i size input tape start halt rest
    have hnil : Table.KeysDiffer ([] : Table Key Move) := .nil
    simp only [bind_eq_ok_iff, readHeader_eq_ok_iff, readTable_eq_ok_iff hnil, List.nil_append]
    constructor
    · rintro ⟨a, ha, s, hs, h, hh, _, ⟨es, hes, hkeys, rfl⟩, hp⟩
      obtain rfl := Except.ok.inj hp
      exact ⟨⟨size, input, tape, start, halt, rest, a, s, h, rfl, ha, rfl,
        by simpa using strips_trim input, by simpa using strips_trim tape, hs, rfl, hh, rfl, hes⟩,
        hkeys⟩
    · rintro ⟨⟨_, _, _, _, _, _, a, s, h, ⟨⟩, ha, hpa, hinput, htape, hs, hps, hh, hph, hes⟩, hkeys⟩
      refine ⟨a, ha, s, hs, h, hh, p.table, ⟨p.table, hes, hkeys, rfl⟩, ?_⟩
      rw [hinput.trim_eq, htape.trim_eq, String.ofList_toList, String.ofList_toList, ← hpa, ← hps,
        ← hph]
      rfl
  · rename_i hshort
    refine ⟨nofun, ?_⟩
    rintro ⟨⟨_, _, _, _, _, _, a, s, h, hlines, -⟩, -⟩
    exact absurd hlines (hshort _ _ _ _ _ _)

/-- **A text is read if and only if it is in the grammar of programs**, and what is read is what it
says. -/
theorem ofText_accepts_exactly (text : String) :
    ((∃ p, ofText text = .ok p) ↔ ∃ size input tape start halt rest,
      HasLines text.toList (size :: input :: tape :: start :: halt :: rest) ∧
      (∃ n, HoldsNumber size n) ∧ (∃ n, HoldsNumber start n) ∧ (∃ n, HoldsNumber halt n) ∧
      (∀ line ∈ rest, IsSkipped line ∨ ∃ e, IsTransition line e) ∧
      rest.Pairwise fun line line' => ∀ e e', IsTransition line e → IsTransition line' e' →
        e.1 ≠ e'.1) ∧
    ∀ p, ofText text = .ok p → ∃ size input tape start halt rest a s h,
      HasLines text.toList (size :: input :: tape :: start :: halt :: rest) ∧
      HoldsNumber size a ∧ p.alphabetSize = a ∧
      Strips input p.inputAlphabet.toList ∧ Strips tape p.tapeAlphabet.toList ∧
      HoldsNumber start s ∧ p.startState = s ∧ HoldsNumber halt h ∧ p.endState = h ∧
      Lists rest p.table := by
  have hlines : ∀ ls, HasLines text.toList ls ↔ splitLines text.toList = ls := fun ls =>
    splitLines_eq_iff.symm
  simp only [hlines, ofText, ofLines_eq_ok_iff]
  refine ⟨⟨?_, ?_⟩, ?_⟩
  · rintro ⟨p, ⟨size, input, tape, start, halt, rest, a, s, h, hparts, ha, -, -, -, hs, -, hh, -,
      hes⟩, hkeys⟩
    obtain ⟨hall, hpairwise⟩ := exists_lists_iff.1 ⟨p.table, hes, hkeys⟩
    exact ⟨size, input, tape, start, halt, rest, hparts, ⟨a, ha⟩, ⟨s, hs⟩, ⟨h, hh⟩, hall, hpairwise⟩
  · rintro ⟨size, input, tape, start, halt, rest, hparts, ⟨a, ha⟩, ⟨s, hs⟩, ⟨h, hh⟩, hall,
      hpairwise⟩
    obtain ⟨es, hes, hkeys⟩ := exists_lists_iff.2 ⟨hall, hpairwise⟩
    refine ⟨⟨a, String.ofList (trim input), String.ofList (trim tape), s, h, es⟩,
      ⟨size, input, tape, start, halt, rest, a, s, h, hparts, ha, rfl, ?_, ?_, hs, rfl, hh, rfl,
        hes⟩, hkeys⟩
    · simpa using strips_trim input
    · simpa using strips_trim tape
  · rintro p ⟨⟨size, input, tape, start, halt, rest, a, s, h, hparts, hp⟩, -⟩
    exact ⟨size, input, tape, start, halt, rest, a, s, h, hparts, hp⟩

/-- Leading zeros do not tell states apart. -/
example : ofText "1\na\naB\n0\n1\n00 a 0 a R\n0 a 1 a L" =
    .error (.line "0 a 1 a L".toList (.alreadyMapped ⟨0, 'a'⟩) 7) := by rfl

end Program

end TapeMachine
