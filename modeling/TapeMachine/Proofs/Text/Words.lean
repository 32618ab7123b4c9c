import Mathlib.Data.List.DropRight
import Mathlib.Data.List.TakeWhile
import TapeMachine.Text.Blank

/-!
# Words between blanks

What it is for a text to be **stripped** to another (`Strips`): the text is the other with
nothing but blanks around it, and the other neither begins nor ends with one.  What it is for
a text to **spell** words (`Spells`): they are its pieces between blanks, of which there may be
any around them.  Both determine what they lead to, and `trim` and `words` find it
(`trim_eq_iff`, `words_eq_iff`).
-/

namespace TapeMachine.Text

variable {s t w rest : List Char} {ws : List (List Char)} {c : Char}

/-- A text of blanks only. -/
def AllBlank (s : List Char) : Prop := ∀ c ∈ s, isBlank c

/-! ### Stripped texts -/

/-- **A text is stripped to another** if only blanks are around that, and none at its ends. -/
structure Strips (s t : List Char) : Prop where
  around : ∃ before behind, AllBlank before ∧ AllBlank behind ∧ s = before ++ t ++ behind
  head : ∀ c ∈ t.head?, ¬ isBlank c
  last : ∀ c ∈ t.getLast?, ¬ isBlank c

theorem not_isBlank_head?_dropWhile (s : List Char) :
    ∀ c ∈ (s.dropWhile isBlank).head?, ¬ isBlank c := by
  intro c hc
  have := List.head?_dropWhile_not isBlank s
  rw [Option.mem_def.1 hc] at this
  simp [this]

theorem dropWhile_isBlank_of_head? (h : ∀ c ∈ s.head?, ¬ isBlank c) : s.dropWhile isBlank = s := by
  cases s with
  | nil => rfl
  | cons c s => exact List.dropWhile_cons_of_neg (h c rfl)

theorem strips_trim (s : List Char) : Strips s (trim s) := by
  -- What is left when the blanks at the beginning are gone.
  have hmiddle : trim s ++ (s.dropWhile isBlank).rtakeWhile isBlank = s.dropWhile isBlank :=
    List.rdropWhile_append_rtakeWhile ..
  refine ⟨⟨s.takeWhile isBlank, (s.dropWhile isBlank).rtakeWhile isBlank,
    fun c hc => List.mem_takeWhile_imp hc, fun c hc => ?_, ?_⟩, fun c hc => ?_, fun c hc => ?_⟩
  · rw [List.rtakeWhile, List.mem_reverse] at hc
    exact List.mem_takeWhile_imp hc
  · rw [List.append_assoc, hmiddle, List.takeWhile_append_dropWhile]
  · refine not_isBlank_head?_dropWhile s c ?_
    rw [← hmiddle, List.head?_append, Option.mem_def.1 hc]
    rfl
  · rw [trim, List.getLast?_reverse] at hc
    exact not_isBlank_head?_dropWhile _ c hc

/-- What is left when the blanks at the beginning are gone begins as the stripped text. -/
theorem Strips.head?_dropWhile (h : Strips s t) : (s.dropWhile isBlank).head? = t.head? := by
  obtain ⟨before, behind, hbefore, hbehind, rfl⟩ := h.around
  rw [List.append_assoc, List.dropWhile_append_of_pos hbefore]
  cases t with
  | nil =>
    rw [List.nil_append, List.dropWhile_eq_nil_iff.2 hbehind]
  | cons c t =>
    rw [List.cons_append, List.dropWhile_cons_of_neg (h.head c rfl)]
    rfl

theorem Strips.trim_eq (h : Strips s t) : trim s = t := by
  obtain ⟨before, behind, hbefore, hbehind, rfl⟩ := h.around
  rw [trim, List.append_assoc, List.dropWhile_append_of_pos hbefore]
  cases t with
  | nil =>
    rw [List.nil_append, List.dropWhile_eq_nil_iff.2 hbehind]
    rfl
  | cons c t =>
    have hlast : ∀ d ∈ (c :: t).reverse.head?, ¬ isBlank d := by
      rw [List.head?_reverse]
      exact h.last
    rw [List.cons_append, List.dropWhile_cons_of_neg (h.head c rfl), ← List.cons_append,
      List.reverse_append,
      List.dropWhile_append_of_pos fun d hd => hbehind d (List.mem_reverse.1 hd),
      dropWhile_isBlank_of_head? hlast, List.reverse_reverse]

/-- **`trim` gives what a text is stripped to.** -/
theorem trim_eq_iff : trim s = t ↔ Strips s t :=
  ⟨fun h => h ▸ strips_trim s, Strips.trim_eq⟩

/-- A text without blanks is stripped as it is. -/
theorem strips_self (h : ∀ c ∈ s, ¬ isBlank c) : Strips s s :=
  ⟨⟨[], [], List.forall_mem_nil _, List.forall_mem_nil _, by simp⟩,
    fun c hc => h c (List.mem_of_head? hc), fun c hc => h c (List.mem_of_getLast? hc)⟩

/-! ### Words -/

/-- A piece of text with no blank in it. -/
structure IsWord (w : List Char) : Prop where
  ne_nil : w ≠ []
  noBlank : ∀ c ∈ w, ¬ isBlank c

/-- **A text spells words**: they are its pieces between blanks. -/
inductive Spells : List Char → List (List Char) → Prop
  | none {s : List Char} (h : AllBlank s) : Spells s []
  | word {before w rest : List Char} {ws : List (List Char)} (hbefore : AllBlank before)
      (hw : IsWord w) (hrest : ∀ c ∈ rest.head?, isBlank c) (h : Spells rest ws) :
      Spells (before ++ w ++ rest) (w :: ws)

theorem words_cons_blank (hc : isBlank c) (s : List Char) : words (c :: s) = words s := by
  cases s with
  | nil => simp [words, hc]
  | cons d s => simp [words, hc]

theorem words_append_blank (hs : AllBlank s) (t : List Char) : words (s ++ t) = words t := by
  induction s with
  | nil => rfl
  | cons c s ih =>
    rw [List.cons_append, words_cons_blank (hs c (List.mem_cons_self ..)),
      ih fun d hd => hs d (List.mem_cons_of_mem _ hd)]

/-- A word that is followed by a blank or nothing is split off. -/
theorem words_append_word (hw : IsWord w) (hrest : ∀ c ∈ rest.head?, isBlank c) :
    words (w ++ rest) = w :: words rest := by
  obtain ⟨hne, hblank⟩ := hw
  induction w with
  | nil => contradiction
  | cons c w ih =>
    have hc : ¬ isBlank c := hblank c (List.mem_cons_self ..)
    cases w with
    | nil =>
      cases rest with
      | nil => simp [words, hc]
      | cons d rest => simp [words, hc, hrest d rfl]
    | cons d w =>
      have hd : ¬ isBlank d := hblank d (by simp)
      have := ih (by simp) fun e he => hblank e (List.mem_cons_of_mem _ he)
      rw [List.cons_append, List.cons_append, words]
      rw [List.cons_append] at this
      simp [hc, hd, this]

theorem Spells.words_eq (h : Spells s ws) : words s = ws := by
  induction h with
  | none h => simpa [words] using words_append_blank h []
  | word hbefore hw hrest _ ih =>
    rw [List.append_assoc, words_append_blank hbefore, words_append_word hw hrest, ih]

/-- Every text spells some words: a first one ends where the next blank is. -/
theorem exists_spells (s : List Char) : ∃ ws, Spells s ws := by
  induction hn : s.length using Nat.strong_induction_on generalizing s with
  | _ n ih =>
    have hs : s.takeWhile isBlank ++ s.dropWhile isBlank = s := List.takeWhile_append_dropWhile
    have hbefore : AllBlank (s.takeWhile isBlank) := fun c hc => List.mem_takeWhile_imp hc
    cases ht : s.dropWhile isBlank with
    | nil => exact ⟨[], .none (List.dropWhile_eq_nil_iff.1 ht)⟩
    | cons c t =>
      have hc : ¬ isBlank c := not_isBlank_head?_dropWhile s c (by rw [ht]; rfl)
      -- The word that begins with `c` and what is behind it.
      have hrest : t.takeWhile (!isBlank ·) ++ t.dropWhile (!isBlank ·) = t :=
        List.takeWhile_append_dropWhile
      have hword : IsWord (c :: t.takeWhile (!isBlank ·)) := by
        refine ⟨by simp, fun d hd => ?_⟩
        rcases List.mem_cons.1 hd with rfl | hd
        · exact hc
        · simpa using List.mem_takeWhile_imp hd
      have hhead : ∀ d ∈ (t.dropWhile (!isBlank ·)).head?, isBlank d := by
        intro d hd
        have := List.head?_dropWhile_not (!isBlank ·) t
        rw [Option.mem_def.1 hd] at this
        simpa using this
      have hlength : (t.dropWhile (!isBlank ·)).length < n := by
        have := congrArg List.length hs
        rw [ht, List.length_append, List.length_cons] at this
        have := congrArg List.length hrest
        rw [List.length_append] at this
        omega
      obtain ⟨ws, hws⟩ := ih _ hlength _ rfl
      have := Spells.word hbefore hword hhead hws
      rw [List.append_assoc, List.cons_append, hrest, ← ht, hs] at this
      exact ⟨_, this⟩

/-- A stripped text begins with the first word. -/
theorem Spells.head?_eq (h : Spells s (w :: ws)) (ht : Strips s t) : t.head? = w.head? := by
  cases h with
  | @word before _ rest _ hbefore hw _ _ =>
    obtain ⟨c, w, rfl⟩ := List.exists_cons_of_ne_nil hw.ne_nil
    have hc : ¬ isBlank c := hw.noBlank c (List.mem_cons_self ..)
    rw [← ht.head?_dropWhile, List.append_assoc, List.dropWhile_append_of_pos hbefore,
      List.cons_append, List.dropWhile_cons_of_neg hc]
    rfl

/-- **`words` gives the words that a text spells.** -/
theorem words_eq_iff : words s = ws ↔ Spells s ws := by
  refine ⟨fun h => ?_, Spells.words_eq⟩
  obtain ⟨ws', h'⟩ := exists_spells s
  rwa [← h, h'.words_eq]

theorem isWord_singleton (h : ¬ isBlank c) : IsWord [c] :=
  ⟨List.cons_ne_nil c [], List.forall_mem_singleton.2 h⟩

/-- The words of a text have no blank in them. -/
theorem Spells.isWord (h : Spells s ws) : ∀ w ∈ ws, IsWord w := by
  induction h with
  | none => exact List.forall_mem_nil _
  | word _ hw _ _ ih => exact List.forall_mem_cons.2 ⟨hw, ih⟩

/-- A word and a blank come before what is behind them. -/
theorem words_cons_word (hw : IsWord w) (s : List Char) :
    words (w ++ ' ' :: s) = w :: words s := by
  rw [words_append_word hw (by simp; decide), words_cons_blank (by decide)]

end TapeMachine.Text
