import Mathlib.Data.List.TakeWhile
import TapeMachine.Text.Blank
import TapeMachine.Text.Line

/-!
# Texts and their lines

What it is for a text to **have lines** (`HasLines`): each ends with a line break, but for the last
one, which may end with the text if it is not empty.  A carriage return and the line feed behind it
are one break.  A text determines its lines, and `splitLines` gives them
(`splitLines_eq_iff`).  Lines without breaks in them can be put together to a text that has them
(`hasLines_joinLines`).  Every line break is a blank (`isBlank_of_isBreak`).
-/

namespace TapeMachine.Text

variable {s l b rest : List Char} {ls : List (List Char)} {c : Char}

/-- A text without line breaks. -/
def NoBreak (s : List Char) : Prop := ∀ c ∈ s, ¬ isBreak c

/-- A text begins with a line break that is followed by the rest. -/
inductive BreaksTo (rest : List Char) : List Char → Prop
  | pair : BreaksTo rest ('\r' :: '\n' :: rest)
  | single {c : Char} (hc : isBreak c) (hrest : c = '\r' → rest.head? ≠ some '\n') :
      BreaksTo rest (c :: rest)

/-- **A text has lines.** -/
inductive HasLines : List Char → List (List Char) → Prop
  | none : HasLines [] []
  | last {l : List Char} (hl : NoBreak l) (hne : l ≠ []) : HasLines l [l]
  | line {l b rest : List Char} {ls : List (List Char)} (hl : NoBreak l) (hb : BreaksTo rest b)
      (h : HasLines rest ls) : HasLines (l ++ b) (l :: ls)

theorem splitLines_cons (hc : ¬ isBreak c) (s : List Char) :
    splitLines (c :: s) = consLine c (splitLines s) := by
  rw [splitLines_cons_of_ne (by rintro rfl; exact hc (by decide)), if_neg hc]

theorem BreaksTo.splitLines_eq (h : BreaksTo rest s) : splitLines s = [] :: splitLines rest := by
  cases h with
  | pair => rfl
  | @single c hc hrest =>
    cases rest with
    | nil => simp [splitLines, hc]
    | cons d rest =>
      have hpair : ¬ (c = '\r' ∧ d = '\n') := fun h => hrest h.1 (by simp [h.2])
      simp [splitLines, hpair, hc]

/-- A line is put in front of the lines behind its break. -/
theorem splitLines_append (hl : NoBreak l) (hb : BreaksTo rest b) :
    splitLines (l ++ b) = l :: splitLines rest := by
  induction l with
  | nil => exact hb.splitLines_eq
  | cons c l ih =>
    rw [List.cons_append, splitLines_cons (hl c (List.mem_cons_self ..)),
      ih fun d hd => hl d (List.mem_cons_of_mem _ hd)]
    rfl

theorem splitLines_of_noBreak (hl : NoBreak l) (hne : l ≠ []) : splitLines l = [l] := by
  induction l with
  | nil => contradiction
  | cons c l ih =>
    rw [splitLines_cons (hl c (List.mem_cons_self ..))]
    cases l with
    | nil => rfl
    | cons d l =>
      rw [ih (fun e he => hl e (List.mem_cons_of_mem _ he)) (by simp)]
      rfl

theorem HasLines.splitLines_eq (h : HasLines s ls) : splitLines s = ls := by
  induction h with
  | none => rfl
  | last hl hne => exact splitLines_of_noBreak hl hne
  | line hl hb _ ih => rw [splitLines_append hl hb, ih]

/-- What begins with a line break is followed by something shorter. -/
theorem exists_breaksTo (hc : isBreak c) (s : List Char) :
    ∃ rest, BreaksTo rest (c :: s) ∧ rest.length ≤ s.length := by
  by_cases hpair : c = '\r' ∧ s.head? = some '\n'
  · obtain ⟨rfl, hs⟩ := hpair
    obtain ⟨rest, rfl⟩ := List.head?_eq_some_iff.1 hs
    exact ⟨rest, .pair, by simp⟩
  · exact ⟨s, .single hc fun hr hs => hpair ⟨hr, hs⟩, le_rfl⟩

/-- Every text has lines: a first one ends where the next line break is. -/
theorem exists_hasLines (s : List Char) : ∃ ls, HasLines s ls := by
  induction hn : s.length using Nat.strong_induction_on generalizing s with
  | _ n ih =>
    have hs : s.takeWhile (!isBreak ·) ++ s.dropWhile (!isBreak ·) = s :=
      List.takeWhile_append_dropWhile
    have hl : NoBreak (s.takeWhile (!isBreak ·)) := fun c hc => by
      simpa using List.mem_takeWhile_imp hc
    cases ht : s.dropWhile (!isBreak ·) with
    | nil =>
      rw [ht, List.append_nil] at hs
      rw [hs] at hl
      by_cases hne : s = []
      · exact ⟨[], hne ▸ .none⟩
      · exact ⟨[s], .last hl hne⟩
    | cons c t =>
      have hc : isBreak c := by
        have := List.head?_dropWhile_not (!isBreak ·) s
        rw [ht] at this
        simpa using this
      obtain ⟨rest, hb, hlength⟩ := exists_breaksTo hc t
      have := congrArg List.length hs
      rw [ht, List.length_append, List.length_cons] at this
      obtain ⟨ls, hls⟩ := ih rest.length (by omega) rest rfl
      have := HasLines.line hl hb hls
      rw [← ht, hs] at this
      exact ⟨_, this⟩

/-- **`splitLines` gives the lines that a text has.** -/
theorem splitLines_eq_iff : splitLines s = ls ↔ HasLines s ls := by
  refine ⟨fun h => ?_, HasLines.splitLines_eq⟩
  obtain ⟨ls', h'⟩ := exists_hasLines s
  rwa [← h, h'.splitLines_eq]

/-! ### Lines that are put together -/

theorem HasLines.noBreak (h : HasLines s ls) : ∀ l ∈ ls, NoBreak l := by
  induction h with
  | none => exact List.forall_mem_nil _
  | last hl => exact List.forall_mem_singleton.2 hl
  | line hl _ _ ih => exact List.forall_mem_cons.2 ⟨hl, ih⟩

/-- Lines that are ended one after another come before those of what follows. -/
theorem hasLines_append {ls' : List (List Char)} (h : ∀ l ∈ ls, NoBreak l)
    (hrest : HasLines rest ls') :
    HasLines (ls.flatMap (fun l => l ++ ['\n']) ++ rest) (ls ++ ls') := by
  induction ls with
  | nil => exact hrest
  | cons l ls ih =>
    obtain ⟨hl, hls⟩ := List.forall_mem_cons.1 h
    have hbreak : ∀ s, BreaksTo s ('\n' :: s) := fun s =>
      .single (by decide) fun h => absurd h (by decide)
    rw [List.flatMap_cons, List.append_assoc, List.append_assoc]
    exact .line hl (hbreak _) (ih hls)

/-- **Lines that are ended one after another are the lines of the text.** -/
theorem hasLines_joinLines (h : ∀ l ∈ ls, NoBreak l) :
    HasLines (joinLines (ls.map String.ofList)).toList ls := by
  have hchars : (joinLines (ls.map String.ofList)).toList = ls.flatMap fun l => l ++ ['\n'] := by
    simp [joinLines, String.toList_join, List.flatMap_map]
  simpa [hchars] using hasLines_append h .none

/-! ### Breaks and blanks -/

/-- **Every line break is a blank.** -/
theorem isBlank_of_isBreak (h : isBreak c) : isBlank c := by
  simp only [isBreak, Bool.or_eq_true, decide_eq_true_eq] at h
  rcases h with ((((((((h | h) | h) | h) | h) | h) | h) | h) | h) | h <;> subst h <;> decide

theorem noBreak_of_not_isBlank (h : ∀ c ∈ s, ¬ isBlank c) : NoBreak s :=
  fun c hc hbreak => h c hc (isBlank_of_isBreak hbreak)

end TapeMachine.Text
