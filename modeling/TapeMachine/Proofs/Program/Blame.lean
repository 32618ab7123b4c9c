import TapeMachine.Proofs.Program.Grammar

/-!
# What a refused text is blamed for

A token **breaks the rule for states** (`BreaksState`) if it is no row of digits or too long a one.
A transition line **breaks rules** of which the first is named (`BreaksFirst`): first it has to have
five tokens, and then each of them has to be of its kind.  Readers fail with the rule that is
broken (`readState_eq_error_iff`, `readLine_eq_error_iff`).

A text is refused for one of three reasons: it has too few lines, a line of its header is the first
to hold no number where one has to be (`IsFirstBadNumber`), or a transition line is to blame
(`LineBlamed`).  Whatever comes after the line that is named has no part in it:
`ofText_blames_first`.
-/

namespace TapeMachine.Program

open TapeMachine.Text

variable {line token : List Char} {lines : List (List Char)} {e : Key × Move}
  {table : Table Key Move} {n number : Nat}

/-! ### Tokens -/

/-- **A token breaks the rule for states**: it is no row of digits, or too long a one. -/
inductive BreaksState : List Char → TokenFault → Prop
  | notUnsigned {token : List Char} (h : token = [] ∨ ∃ c ∈ token, ¬ isAsciiDigit c) :
      BreaksState token (.notUnsigned token)
  | tooLong {token : List Char} (h : ∀ c ∈ token, isAsciiDigit c)
      (hlong : maxDigits < token.length) : BreaksState token (.tooLong token.length)

theorem readState_eq_error_iff {f : TokenFault} :
    readState token = .error f ↔ BreaksState token f := by
  have hrefused : (token.isEmpty || !token.all isAsciiDigit) = true ↔
      token = [] ∨ ∃ c ∈ token, ¬ isAsciiDigit c := by
    simp [List.isEmpty_iff]
  rw [readState]
  by_cases hdigits : token = [] ∨ ∃ c ∈ token, ¬ isAsciiDigit c
  · rw [if_pos (hrefused.2 hdigits), Except.error.injEq]
    constructor
    · rintro rfl
      exact .notUnsigned hdigits
    · rintro (- | ⟨hall, hlong⟩)
      · rfl
      · rcases hdigits with rfl | ⟨c, hc, hne⟩
        · exact absurd hlong (Nat.not_lt_zero _)
        · exact absurd (hall c hc) hne
  · rw [if_neg (mt hrefused.1 hdigits)]
    have hall : ∀ c ∈ token, isAsciiDigit c := fun c hc =>
      by_contra fun hne => hdigits (.inr ⟨c, hc, hne⟩)
    by_cases hlong : maxDigits < token.length
    · rw [if_pos hlong, Except.error.injEq]
      constructor
      · rintro rfl
        exact .tooLong hall hlong
      · rintro (h | -)
        · exact absurd h hdigits
        · rfl
    · rw [if_neg hlong]
      constructor
      · intro h
        contradiction
      · rintro (h | ⟨-, h⟩)
        · exact absurd h hdigits
        · exact absurd h hlong

theorem readSymbol_eq_error_iff {f : TokenFault} :
    readSymbol token = .error f ↔ (∀ c, token ≠ [c]) ∧ f = .notASymbol token := by
  unfold readSymbol
  split <;> simp_all [eq_comm]

theorem readDirection_eq_error_iff {f : TokenFault} : readDirection token = .error f ↔
    (∀ d : Direction, token ≠ [d.letter]) ∧ f = .notADirection token := by
  simp only [ne_eq, ← Direction.ofToken?_eq_some_iff, ← Option.eq_none_iff_forall_ne_some,
    readDirection]
  cases Direction.ofToken? token <;> simp [eq_comm]

/-! ### Lines -/

/-- **The first of five tokens that is not of its kind**, and the rule that it breaks. -/
inductive BreaksTokens (state symbol next nextSymbol direction : List Char) : TokenFault → Prop
  | state {f : TokenFault} (h : BreaksState state f) :
      BreaksTokens state symbol next nextSymbol direction f
  | symbol (hstate : ∃ n, Denotes state n) (h : ∀ c, symbol ≠ [c]) :
      BreaksTokens state symbol next nextSymbol direction (.notASymbol symbol)
  | next {f : TokenFault} (hstate : ∃ n, Denotes state n) (hsymbol : ∃ c, symbol = [c])
      (h : BreaksState next f) : BreaksTokens state symbol next nextSymbol direction f
  | nextSymbol (hstate : ∃ n, Denotes state n) (hsymbol : ∃ c, symbol = [c])
      (hnext : ∃ n, Denotes next n) (h : ∀ c, nextSymbol ≠ [c]) :
      BreaksTokens state symbol next nextSymbol direction (.notASymbol nextSymbol)
  | direction (hstate : ∃ n, Denotes state n) (hsymbol : ∃ c, symbol = [c])
      (hnext : ∃ n, Denotes next n) (hnextSymbol : ∃ c, nextSymbol = [c])
      (h : ∀ d : Direction, direction ≠ [d.letter]) :
      BreaksTokens state symbol next nextSymbol direction (.notADirection direction)

/-- **The first rule that a line breaks** if it is to be a transition: the number of its tokens
comes before the kinds of them. -/
inductive BreaksFirst (line : List Char) : LineFault → Prop
  | tokenCount {ws : List (List Char)} (h : Spells line ws) (hn : ws.length ≠ 5) :
      BreaksFirst line (.tokenCount ws.length)
  | token {state symbol next nextSymbol direction : List Char} {f : TokenFault}
      (h : Spells line [state, symbol, next, nextSymbol, direction])
      (hf : BreaksTokens state symbol next nextSymbol direction f) : BreaksFirst line (.token f)

theorem readTokens_eq_error_iff {state symbol next nextSymbol direction : List Char}
    {f : TokenFault} : readTokens state symbol next nextSymbol direction = .error f ↔
      BreaksTokens state symbol next nextSymbol direction f := by
  simp only [readTokens, bind_eq_error_iff, readState_eq_error_iff, readSymbol_eq_error_iff,
    readDirection_eq_error_iff, readState_eq_ok_iff, readSymbol_eq_ok_iff, readDirection_eq_ok_iff]
  constructor
  · rintro (h | ⟨m, hm, ⟨h, rfl⟩ | ⟨c, hc, h | ⟨n, hn, ⟨h, rfl⟩ |
      ⟨c', hc', ⟨h, rfl⟩ | ⟨d, -, hd⟩⟩⟩⟩⟩)
    · exact .state h
    · exact .symbol ⟨m, hm⟩ h
    · exact .next ⟨m, hm⟩ ⟨c, hc⟩ h
    · exact .nextSymbol ⟨m, hm⟩ ⟨c, hc⟩ ⟨n, hn⟩ h
    · exact .direction ⟨m, hm⟩ ⟨c, hc⟩ ⟨n, hn⟩ ⟨c', hc'⟩ h
    · contradiction
  · rintro (h | ⟨⟨m, hm⟩, h⟩ | ⟨⟨m, hm⟩, ⟨c, hc⟩, h⟩ | ⟨⟨m, hm⟩, ⟨c, hc⟩, ⟨n, hn⟩, h⟩ |
      ⟨⟨m, hm⟩, ⟨c, hc⟩, ⟨n, hn⟩, ⟨c', hc'⟩, h⟩)
    · exact .inl h
    · exact .inr ⟨m, hm, .inl ⟨h, rfl⟩⟩
    · exact .inr ⟨m, hm, .inr ⟨c, hc, .inl h⟩⟩
    · exact .inr ⟨m, hm, .inr ⟨c, hc, .inr ⟨n, hn, .inl ⟨h, rfl⟩⟩⟩⟩
    · exact .inr ⟨m, hm, .inr ⟨c, hc, .inr ⟨n, hn, .inr ⟨c', hc', .inl ⟨h, rfl⟩⟩⟩⟩⟩

/-- **A line is refused for the first rule that it breaks.** -/
theorem readLine_eq_error_iff {f : LineFault} : readLine line = .error f ↔ BreaksFirst line f := by
  have hspells : Spells line (words line) := words_eq_iff.1 rfl
  rw [readLine]
  split
  · rename_i state symbol next nextSymbol direction hwords
    rw [mapError_eq_error_iff]
    rw [hwords] at hspells
    constructor
    · rintro ⟨g, hg, rfl⟩
      exact .token hspells (readTokens_eq_error_iff.1 hg)
    · rintro (⟨h, hn⟩ | ⟨h, hf⟩)
      · rw [← h.words_eq, hwords] at hn
        exact absurd rfl hn
      · obtain ⟨rfl, rfl, rfl, rfl, rfl, -⟩ := by simpa using hwords.symm.trans h.words_eq
        exact ⟨_, readTokens_eq_error_iff.2 hf, rfl⟩
  · rename_i tokens hwords
    have hn : (words line).length ≠ 5 := by
      intro hn
      obtain ⟨a, ws, he⟩ := List.exists_cons_of_length_eq_add_one hn
      obtain ⟨b, c, d, e, rfl⟩ := List.length_eq_four.1 (by simpa [he] using hn)
      exact hwords a b c d e he
    rw [Except.error.injEq]
    constructor
    · rintro rfl
      exact .tokenCount hspells hn
    · rintro (⟨h, -⟩ | ⟨h, -⟩)
      · rw [h.words_eq]
      · exact absurd h.words_eq (hwords _ _ _ _ _)

/-! ### Transitions -/

/-- **Why a line is no transition** behind some lines with entries: it breaks a rule, or its key is
that of one of the entries. -/
inductive Offends (entries : Table Key Move) (line : List Char) : LineFault → Prop
  | breaks {f : LineFault} (hskip : ¬ IsSkipped line) (h : BreaksFirst line f) :
      Offends entries line f
  | alreadyMapped {e : Key × Move} (h : IsTransition line e) (hmem : ∃ e' ∈ entries, e'.1 = e.1) :
      Offends entries line (.alreadyMapped e.1)

theorem lookup?_ne_none_iff {k : Key} : table.lookup? k ≠ none ↔ ∃ e ∈ table, e.1 = k := by
  rw [Table.lookup?, ne_eq, Option.map_eq_none_iff, List.find?_eq_none]
  simp

/-- Lines that list entries under new keys put them into the table. -/
theorem readTable_append {es : Table Key Move} (h : Lists lines es)
    (hkeys : Table.KeysDiffer (table ++ es)) (number : Nat) (rest : List (List Char)) :
    readTable number (lines ++ rest) table
      = readTable (number + lines.length) rest (table ++ es) := by
  induction h generalizing number table with
  | nil => rw [List.append_nil]; rfl
  | skipped h _ ih =>
    rw [List.cons_append, readTable, if_pos (isSkipped_iff.2 h), ih hkeys, List.length_cons,
      Nat.add_right_comm, Nat.add_assoc]
  | @transition line lines e es h _ ih =>
    have hnew : table.lookup? e.1 = none := by
      rw [List.append_cons] at hkeys
      exact (Table.keysDiffer_concat_iff.1 (List.pairwise_append.1 hkeys).1).2
    rw [List.cons_append, readTable, if_neg (mt isSkipped_iff.1 h.not_isSkipped),
      readLine_eq_ok_iff.2 h]
    simp only [hnew]
    rw [Table.put_of_lookup?_eq_none hnew, ih (by simpa using hkeys), List.length_cons,
      Nat.add_right_comm, Nat.add_assoc, List.append_assoc]
    rfl

/-- A line that offends is blamed. -/
theorem Offends.readTable_eq {g : LineFault} (h : Offends table line g) (number : Nat)
    (rest : List (List Char)) :
    readTable number (line :: rest) table = .error (.line line g number) := by
  cases h with
  | breaks hskip h =>
    rw [readTable, if_neg (mt isSkipped_iff.1 hskip), readLine_eq_error_iff.2 h]
  | alreadyMapped h hmem =>
    obtain ⟨a, ha⟩ := Option.ne_none_iff_exists'.1 (lookup?_ne_none_iff.2 hmem)
    rw [readTable, if_neg (mt isSkipped_iff.1 h.not_isSkipped), readLine_eq_ok_iff.2 h]
    simp only [ha]

theorem Offends.eq_alreadyMapped {g : LineFault} (h : Offends table line g)
    (he : IsTransition line e) : g = .alreadyMapped e.1 := by
  cases h with
  | breaks _ h =>
    have hread := readLine_eq_ok_iff.2 he
    rw [readLine_eq_error_iff.2 h] at hread
    contradiction
  | alreadyMapped h => rw [h.unique he]

/-- **Reading lines into a table fails at the first line that offends**, with the entries of those
before it in the table. -/
theorem exists_offends {f : Fault} (hkeys : table.KeysDiffer)
    (h : readTable number lines table = .error f) : ∃ before line rest es g,
      lines = before ++ line :: rest ∧ Lists before es ∧ Table.KeysDiffer (table ++ es) ∧
        Offends (table ++ es) line g ∧ f = .line line g (number + before.length) := by
  -- The table is general, as each line is read with the entries of those before it.
  induction lines generalizing number table with
  | nil => contradiction
  | cons line rest ih =>
    rw [readTable] at h
    by_cases hskip : isSkipped line
    · rw [if_pos hskip] at h
      obtain ⟨before, line', rest', es, g, rfl, hes, hdiffer, hg, rfl⟩ := ih hkeys h
      refine ⟨line :: before, line', rest', es, g, rfl, .skipped (isSkipped_iff.1 hskip) hes,
        hdiffer, hg, ?_⟩
      rw [List.length_cons, Nat.add_right_comm, Nat.add_assoc]
    rw [if_neg hskip] at h
    have hfirst : table ++ [] = table := List.append_nil _
    cases hread : readLine line with
    | error g =>
      rw [hread] at h
      obtain rfl := Except.error.inj h
      have hg : Offends table line g :=
        .breaks (mt isSkipped_iff.2 hskip) (readLine_eq_error_iff.1 hread)
      exact ⟨[], line, rest, [], g, rfl, .nil, hfirst.symm ▸ hkeys, hfirst.symm ▸ hg, rfl⟩
    | ok e =>
      obtain ⟨k, m⟩ := e
      have ht := readLine_eq_ok_iff.1 hread
      simp only [hread] at h
      cases hk : table.lookup? k with
      | some a =>
        rw [hk] at h
        obtain rfl := Except.error.inj h
        have hmem : ∃ e' ∈ table, e'.1 = k := lookup?_ne_none_iff.1 (by simp [hk])
        have hg : Offends table line (.alreadyMapped k) := .alreadyMapped ht hmem
        exact ⟨[], line, rest, [], _, rfl, .nil, hfirst.symm ▸ hkeys, hfirst.symm ▸ hg, rfl⟩
      | none =>
        simp only [hk] at h
        rw [Table.put_of_lookup?_eq_none hk] at h
        obtain ⟨before, line', rest', es, g, rfl, hes, hdiffer, hg, rfl⟩ :=
          ih (Table.keysDiffer_concat_iff.2 ⟨hkeys, hk⟩) h
        rw [List.append_assoc, List.singleton_append] at hdiffer hg
        refine ⟨line :: before, line', rest', (k, m) :: es, g, rfl, .transition ht hes, hdiffer, hg,
          ?_⟩
        rw [List.length_cons, Nat.add_right_comm, Nat.add_assoc]

/-! ### Headers -/

/-- Where numbers stand in the header: the numbers of the lines, and the names of what they hold. -/
def headerNumbers : List (Nat × String) :=
  [(1, "alphabet size"), (4, "start state"), (5, "halting state")]

/-- The line with a number holds a number. -/
def HoldsNumberAt (lines : List (List Char)) (number : Nat) : Prop :=
  ∃ line n, lines[number - 1]? = some line ∧ HoldsNumber line n

/-- The lines that come before the transitions of a program. -/
structure IsHeader (header : List (List Char)) : Prop where
  length_eq : header.length = headerLines
  holds : ∀ x ∈ headerNumbers, HoldsNumberAt header x.1

/-- **A line of the header is the first that holds no number** where one has to be. -/
structure IsFirstBadNumber (lines : List (List Char)) (number : Nat) (name : String)
    (line : List Char) : Prop where
  enough : headerLines ≤ lines.length
  mem : (number, name) ∈ headerNumbers
  getElem?_eq : lines[number - 1]? = some line
  noNumber : ∀ n, ¬ HoldsNumber line n
  first : ∀ x ∈ headerNumbers, x.1 < number → HoldsNumberAt lines x.1

theorem BreaksState.not_denotes {f : TokenFault} (h : BreaksState token f) : ¬ Denotes token n := by
  intro hn
  have := readState_eq_ok_iff.2 hn
  rw [readState_eq_error_iff.2 h] at this
  contradiction

theorem BreaksState.not_holdsNumber {f : TokenFault} (ht : Strips line token)
    (h : BreaksState token f) : ¬ HoldsNumber line n := by
  rintro ⟨token', ht', hn⟩
  obtain rfl : token = token' := ht.trim_eq.symm.trans ht'.trim_eq
  exact h.not_denotes hn

theorem readHeader_eq_error_iff {name : String} {f : Fault} :
    readHeader number name line = .error f ↔
      ∃ token g, Strips line token ∧ BreaksState token g ∧ .header number name g = f := by
  simp only [readHeader, mapError_eq_error_iff, readState_eq_error_iff, ← trim_eq_iff]
  constructor
  · rintro ⟨g, hg, rfl⟩
    exact ⟨_, g, rfl, hg, rfl⟩
  · rintro ⟨_, g, rfl, hg, rfl⟩
    exact ⟨g, hg, rfl⟩

theorem exists_of_headerLines_le (h : headerLines ≤ lines.length) :
    ∃ size input tape start halt rest, lines = size :: input :: tape :: start :: halt :: rest := by
  match lines, h with
  | size :: input :: tape :: start :: halt :: rest, _ =>
    exact ⟨size, input, tape, start, halt, rest, rfl⟩

/-- What lines behind a header are read as is up to the table they are read into. -/
theorem IsHeader.exists_ofLines_append {header : List (List Char)} (h : IsHeader header) :
    ∃ p : Program, ∀ rest, ofLines (header ++ rest) =
      (readTable (headerLines + 1) rest []).map fun t => { p with table := t } := by
  obtain ⟨hlength, hholds⟩ := h
  obtain ⟨size, input, tape, start, halt, rest, rfl⟩ := exists_of_headerLines_le hlength.ge
  obtain rfl : rest = [] := by simpa [headerLines] using hlength
  obtain ⟨⟨a, ha⟩, ⟨s, hs⟩, ⟨b, hb⟩⟩ : (∃ n, HoldsNumber size n) ∧ (∃ n, HoldsNumber start n) ∧
      ∃ n, HoldsNumber halt n := by
    simpa [headerNumbers, HoldsNumberAt] using hholds
  refine ⟨⟨a, String.ofList (trim input), String.ofList (trim tape), s, b, []⟩, fun rest => ?_⟩
  simp only [List.cons_append, List.nil_append, ofLines, readHeader_eq_ok_iff.2 ha,
    readHeader_eq_ok_iff.2 hs, readHeader_eq_ok_iff.2 hb, ok_bind]
  cases readTable (headerLines + 1) rest [] <;> rfl

/-- **Why lines are not those of a program.** -/
inductive Refuses (lines : List (List Char)) : Fault → Prop
  | tooFewLines (h : lines.length < headerLines) : Refuses lines (.tooFewLines lines.length)
  | header {number : Nat} {name : String} {line token : List Char} {g : TokenFault}
      (h : IsFirstBadNumber lines number name line) (ht : Strips line token)
      (hg : BreaksState token g) : Refuses lines (.header number name g)
  | line {header before : List (List Char)} {line : List Char} {rest : List (List Char)}
      {es : Table Key Move} {g : LineFault} (hlines : lines = header ++ before ++ line :: rest)
      (hheader : IsHeader header) (hes : Lists before es) (hkeys : es.KeysDiffer)
      (hg : Offends es line g) :
      Refuses lines (.line line g (headerLines + 1 + before.length))

/-- Lines that cannot be read are refused for the reason that is given. -/
theorem refuses_of_ofLines_eq_error {f : Fault} (h : ofLines lines = .error f) :
    Refuses lines f := by
  have hnil : Table.KeysDiffer ([] : Table Key Move) := .nil
  unfold ofLines at h
  split at h
  · rename_i size input tape start halt rest
    have henough : headerLines ≤ (size :: input :: tape :: start :: halt :: rest).length := by
      simp [headerLines]
    simp only [bind_eq_error_iff, readHeader_eq_error_iff, readHeader_eq_ok_iff] at h
    -- A number of the header is bad, with those before it good, or the transitions are to blame.
    rcases h with ⟨token, g, ht, hg, rfl⟩ | ⟨a, ha, ⟨token, g, ht, hg, rfl⟩ | ⟨s, hs,
      ⟨token, g, ht, hg, rfl⟩ | ⟨b, hb, h | ⟨t, -, h⟩⟩⟩⟩
    · refine .header ⟨henough, by decide, rfl, fun n => hg.not_holdsNumber ht, ?_⟩ ht hg
      simp [headerNumbers]
    · refine .header ⟨henough, by decide, rfl, fun n => hg.not_holdsNumber ht, ?_⟩ ht hg
      simpa [headerNumbers, HoldsNumberAt] using ⟨a, ha⟩
    · refine .header ⟨henough, by decide, rfl, fun n => hg.not_holdsNumber ht, ?_⟩ ht hg
      simpa [headerNumbers, HoldsNumberAt] using ⟨⟨a, ha⟩, ⟨s, hs⟩⟩
    · obtain ⟨before, line, rest, es, g, rfl, hes, hkeys, hg, rfl⟩ := exists_offends hnil h
      have hheader : IsHeader [size, input, tape, start, halt] := by
        refine ⟨rfl, ?_⟩
        simpa [headerNumbers, HoldsNumberAt] using ⟨⟨a, ha⟩, ⟨s, hs⟩, ⟨b, hb⟩⟩
      exact .line rfl hheader hes hkeys hg
    · contradiction
  · rename_i hshort
    obtain rfl := Except.error.inj h
    refine .tooFewLines (Nat.lt_of_not_le fun h => ?_)
    obtain ⟨_, _, _, _, _, _, rfl⟩ := exists_of_headerLines_le h
    exact hshort _ _ _ _ _ _ rfl

/-- The first bad number of a header is blamed. -/
theorem IsFirstBadNumber.ofLines_eq {name : String} {g : TokenFault}
    (h : IsFirstBadNumber lines number name line) (ht : Strips line token)
    (hg : BreaksState token g) : ofLines lines = .error (.header number name g) := by
  obtain ⟨size, input, tape, start, halt, rest, rfl⟩ := exists_of_headerLines_le h.enough
  have hmem := h.mem
  have hline := h.getElem?_eq
  have hfirst := h.first
  simp only [headerNumbers, List.mem_cons, Prod.mk.injEq, List.not_mem_nil, or_false] at hmem
  simp only [ofLines, bind_eq_error_iff, readHeader_eq_error_iff, readHeader_eq_ok_iff]
  rcases hmem with ⟨rfl, rfl⟩ | ⟨rfl, rfl⟩ | ⟨rfl, rfl⟩
  · obtain rfl : size = _ := by simpa using hline
    exact .inl ⟨_, _, ht, hg, rfl⟩
  · obtain rfl : start = _ := by simpa using hline
    obtain ⟨a, ha⟩ : ∃ n, HoldsNumber size n := by
      simpa [headerNumbers, HoldsNumberAt] using hfirst
    exact .inr ⟨a, ha, .inl ⟨_, _, ht, hg, rfl⟩⟩
  · obtain rfl : halt = _ := by simpa using hline
    obtain ⟨⟨a, ha⟩, ⟨s, hs⟩⟩ : (∃ n, HoldsNumber size n) ∧ ∃ n, HoldsNumber start n := by
      simpa [headerNumbers, HoldsNumberAt] using hfirst
    exact .inr ⟨a, ha, .inr ⟨s, hs, .inl ⟨_, _, ht, hg, rfl⟩⟩⟩

/-- **Lines are refused for the first reason that there is.** -/
theorem ofLines_eq_error_iff {f : Fault} : ofLines lines = .error f ↔ Refuses lines f := by
  refine ⟨refuses_of_ofLines_eq_error, ?_⟩
  rintro (h | ⟨h, ht, hg⟩ | @⟨header, before, line, rest, es, g, rfl, hheader, hes, hkeys, hg⟩)
  · unfold ofLines
    split
    · exact absurd h (by simp [headerLines])
    · rfl
  · exact h.ofLines_eq ht hg
  · obtain ⟨p, hp⟩ := hheader.exists_ofLines_append
    have hdiffer : Table.KeysDiffer ([] ++ es) := hkeys
    rw [List.append_assoc, hp, readTable_append hes hdiffer, List.nil_append, hg.readTable_eq]
    rfl

/-! ### Messages -/

theorem head?_toList_append {s : String} {c : Char} (h : s.toList.head? = some c) (t : String) :
    (s ++ t).toList.head? = some c := by
  rw [String.toList_append, List.head?_append, h]
  rfl

theorem head?_quoteChars (s : List Char) :
    (String.ofList (quoteChars s)).toList.head? = some (quoteMark s) := by
  rw [String.toList_ofList]
  rfl

theorem quoteMark_ne (s : List Char) : quoteMark s ≠ 's' := by
  unfold quoteMark
  split <;> decide

theorem TokenFault.exists_head?_message (f : TokenFault) :
    ∃ c, c ≠ 's' ∧ f.message.toList.head? = some c := by
  cases f with
  | notUnsigned token =>
    exact ⟨_, quoteMark_ne token, head?_toList_append (head?_quoteChars token) _⟩
  | tooLong digits =>
    refine ⟨'E', by decide, ?_⟩
    apply head?_toList_append
    apply head?_toList_append
    apply head?_toList_append
    apply head?_toList_append
    decide
  | notASymbol token =>
    exact ⟨_, quoteMark_ne token, head?_toList_append (head?_quoteChars token) _⟩
  | notADirection token =>
    refine ⟨'I', by decide, ?_⟩
    apply head?_toList_append
    apply head?_toList_append
    decide

/-- What is said of a line tells whether its key has been there before. -/
theorem LineFault.head?_message_eq_iff {g : LineFault} :
    g.message.toList.head? = some 's' ↔ ∃ k, g = .alreadyMapped k := by
  cases g with
  | tokenCount found =>
    have h : (LineFault.tokenCount found).message.toList.head? = some 'e' :=
      head?_toList_append (by decide) _
    rw [h]
    exact ⟨fun h => absurd h (by decide), fun ⟨_, h⟩ => nomatch h⟩
  | token f =>
    obtain ⟨c, hc, h⟩ := f.exists_head?_message
    have h : (LineFault.token f).message.toList.head? = some c := h
    rw [h]
    exact ⟨fun h => absurd (Option.some.inj h) hc, fun ⟨_, h⟩ => nomatch h⟩
  | alreadyMapped k =>
    refine iff_of_true ?_ ⟨k, rfl⟩
    apply head?_toList_append
    apply head?_toList_append
    apply head?_toList_append
    apply head?_toList_append
    decide

theorem LineFault.exists_message_eq_iff {g : LineFault} :
    (∃ k, g.message = (LineFault.alreadyMapped k).message) ↔ ∃ k, g = .alreadyMapped k := by
  constructor
  · rintro ⟨k, hk⟩
    exact head?_message_eq_iff.1 (hk ▸ head?_message_eq_iff.2 ⟨k, rfl⟩)
  · rintro ⟨k, rfl⟩
    exact ⟨k, rfl⟩

/-! ### Texts -/

/-- **A line is to blame for a reason**, and it has a number: it is no line of the header, with the
lines before it alone there is a program, and whatever comes after it, it is refused.  It is said
to have a key that is already mapped if and only if it is a transition and so is one before it, with
the same key.  Else it is the first rule that the line breaks which is named. -/
structure LineBlamed (lines : List (List Char)) (line : List Char) (g : LineFault) (n : Nat) :
    Prop where
  lt : headerLines < n
  getElem?_eq : lines[n - 1]? = some line
  before : ∃ p, ofText (joinLines ((lines.take (n - 1)).map String.ofList)) = .ok p
  behind : ∀ text : String, (splitLines text.toList).take n = lines.take n →
    ofText text = .error (.line line g n)
  alreadyMapped_iff : (∃ k, g.message = (LineFault.alreadyMapped k).message) ↔
    ∃ e, IsTransition line e ∧
      ∃ line' ∈ (lines.take (n - 1)).drop headerLines, ∃ e', IsTransition line' e' ∧ e'.1 = e.1
  key : ∀ e, IsTransition line e → g = .alreadyMapped e.1
  rule : (∀ e, ¬ IsTransition line e) → BreaksFirst line g

/-- A line that offends behind lines with entries is to blame. -/
theorem Offends.lineBlamed {text : String} {header before : List (List Char)} {line : List Char}
    {rest : List (List Char)} {es : Table Key Move} {g : LineFault} (hg : Offends es line g)
    (hlines : splitLines text.toList = header ++ before ++ line :: rest)
    (hheader : IsHeader header) (hes : Lists before es) (hkeys : es.KeysDiffer) :
    LineBlamed (splitLines text.toList) line g (headerLines + 1 + before.length) := by
  have hlength : (header ++ before).length = headerLines + before.length := by
    rw [List.length_append, hheader.length_eq]
  have hprevious : headerLines + 1 + before.length - 1 = headerLines + before.length := by omega
  have htake : (splitLines text.toList).take (headerLines + before.length) = header ++ before := by
    rw [hlines, ← hlength, List.take_left]
  have hbefore : (header ++ before).drop headerLines = before := by
    rw [← hheader.length_eq, List.drop_left]
  exact
    { lt := by omega
      getElem?_eq := by
        rw [hprevious, hlines, ← hlength, List.getElem?_append_right le_rfl, Nat.sub_self]
        rfl
      before := by
        -- The lines before are those of a text, which is read as they list their entries.
        have hbreak : ∀ l ∈ header ++ before, NoBreak l := fun l hl =>
          (splitLines_eq_iff.1 rfl).noBreak l (hlines ▸ List.mem_append_left _ hl)
        obtain ⟨p, hp⟩ := hheader.exists_ofLines_append
        have hread : readTable (headerLines + 1) before [] = .ok es :=
          (readTable_eq_ok_iff .nil).2 ⟨es, hes, hkeys, rfl⟩
        rw [hprevious, htake, ofText, (hasLines_joinLines hbreak).splitLines_eq, hp, hread]
        exact ⟨_, rfl⟩
      behind := by
        intro text' h
        have hn : (header ++ before ++ [line]).length = headerLines + 1 + before.length := by
          rw [List.length_append, hlength, List.length_singleton, Nat.add_right_comm]
        rw [hlines, List.append_cons, ← hn, List.take_left] at h
        have hlines' := (List.take_append_drop (headerLines + 1 + before.length)
          (splitLines text'.toList)).symm
        rw [← hn, h, ← List.append_cons] at hlines'
        exact ofLines_eq_error_iff.2 (.line hlines' hheader hes hkeys hg)
      alreadyMapped_iff := by
        rw [hprevious, htake, hbefore, LineFault.exists_message_eq_iff]
        constructor
        · rintro ⟨k, rfl⟩
          cases hg with
          | breaks _ h => cases h
          | @alreadyMapped e h hmem =>
            obtain ⟨e', he', hkey⟩ := hmem
            obtain ⟨line', hl, ht⟩ := hes.mem_iff.1 he'
            exact ⟨e, h, line', hl, e', ht, hkey⟩
        · rintro ⟨e, he, -⟩
          exact ⟨e.1, hg.eq_alreadyMapped he⟩
      key := fun e he => hg.eq_alreadyMapped he
      rule := by
        intro hne
        cases hg with
        | breaks _ h => exact h
        | @alreadyMapped e h => exact absurd h (hne e) }

/-- **A text that is refused is blamed for the first thing that is wrong with it**, and for nothing
that comes after that.  Either a transition line is to blame; or it has too few lines, and so has
every text with as many; or a line of its header is the first that holds no number, and whatever
else is on the other lines, a text in which that line is the first such is refused alike. -/
theorem ofText_blames_first {text : String} {f : Fault} (h : ofText text = .error f) :
    (∃ (line : List Char) (g : LineFault) (n : Nat),
      f.failure = .malformedLine (.text (String.ofList line)) (.text g.message) (.int n) ∧
      f = .line line g n ∧ LineBlamed (splitLines text.toList) line g n) ∨
    f.failure.kind = .malformedProgram ∧
      ((splitLines text.toList).length < headerLines ∧
          (∀ text' : String, (splitLines text'.toList).length = (splitLines text.toList).length →
            ofText text' = .error f) ∨
        ∃ number name line token g, IsFirstBadNumber (splitLines text.toList) number name line ∧
          Strips line token ∧ BreaksState token g ∧ f = .header number name g ∧
          ∀ text' : String, IsFirstBadNumber (splitLines text'.toList) number name line →
            ofText text' = .error f) := by
  cases ofLines_eq_error_iff.1 h with
  | tooFewLines hfew =>
    refine .inr ⟨rfl, .inl ⟨hfew, ?_⟩⟩
    intro text' hlength
    rw [← hlength] at hfew ⊢
    exact ofLines_eq_error_iff.2 (.tooFewLines hfew)
  | header hfirst ht hg =>
    refine .inr ⟨rfl, .inr ⟨_, _, _, _, _, hfirst, ht, hg, rfl, ?_⟩⟩
    intro text' hfirst'
    exact ofLines_eq_error_iff.2 (.header hfirst' ht hg)
  | line hlines hheader hes hkeys hg =>
    exact .inl ⟨_, _, _, rfl, rfl, hg.lineBlamed hlines hheader hes hkeys⟩

/-- The lines that are skipped count, and leading zeros do not tell keys apart. -/
theorem repeated_key_blamed : LineBlamed
    (splitLines "1\na\naB\n0\n1\n# c\n0 a 0 a R\n\n00 a 1 a L\n0 a".toList) "00 a 1 a L".toList
    (.alreadyMapped ⟨0, 'a'⟩) 9 := by
  have h : ofText "1\na\naB\n0\n1\n# c\n0 a 0 a R\n\n00 a 1 a L\n0 a" =
      .error (.line "00 a 1 a L".toList (.alreadyMapped ⟨0, 'a'⟩) 9) := by rfl
  rcases ofText_blames_first h with ⟨line, g, n, -, hf, hblamed⟩ | ⟨hkind, -⟩
  · obtain ⟨rfl, rfl, rfl⟩ := Fault.line.inj hf
    exact hblamed
  · contradiction

end TapeMachine.Program
