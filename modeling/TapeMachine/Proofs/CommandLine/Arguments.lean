import Mathlib.Data.List.Infix
import Mathlib.Data.List.TakeWhile
import TapeMachine.CommandLine.Arguments
import TapeMachine.Proofs.Result
import TapeMachine.Tape.Symbol

/-!
# The word of a command line

At most one argument is a separator, so what an argument without an option stands for is a text, or
an empty list if it was a `--` that was taken away (`valueOf_of_mem`).  That holds of all that is
gathered on the way (`gather_isWord`), so the word is a row of characters: `parse_word`.
-/

namespace TapeMachine.CommandLine

/-- Whether an argument is the separator. -/
def Argument.isSeparator (a : Argument) : Bool := a.kind = .separator

/-- **At most one argument is the separator**, which is a `--`. -/
structure Separated (args : List Argument) : Prop where
  count : args.countP Argument.isSeparator ≤ 1
  text : ∀ a ∈ args, a.isSeparator → a.text = "--"

theorem Separated.of_suffix {args rest : List Argument} (h : Separated args) (hs : rest <:+ args) :
    Separated rest :=
  ⟨(hs.sublist.countP_le).trans h.count, fun a ha => h.text a (hs.mem ha)⟩

namespace Arguments

/-- **A value that a word can be**: a text, or an empty list. -/
def IsWord (v : Value) : Prop := (∃ s : String, v = .text s) ∨ v = .list []

/-- The characters of the word; one that was taken away has none. -/
def symbols (o : Arguments) : List Char :=
  match o.word with
  | .text s => (s.string?.getD "").toList
  | _ => []

theorem items_word {o : Arguments} (h : IsWord o.word) :
    o.word.items = .ok (o.symbols.map .ofSymbol) := by
  rcases h with ⟨s, h⟩ | h
  · rw [symbols, h, Value.items_text]
    rfl
  · rw [symbols, h]
    rfl

theorem classifyOne_ne_separator {text : String} {k : ArgumentKind}
    (h : classifyOne text = .ok k) : k ≠ .separator := by
  rintro rfl
  rw [classifyOne] at h
  generalize text.toList = s at h
  dsimp only at h
  repeat' split at h
  all_goals simp at h

theorem classify_separated {argv : List String} {args : List Argument}
    (h : classify argv = .ok args) : Separated args := by
  induction argv generalizing args with
  | nil =>
    obtain rfl := Except.ok.inj h
    exact ⟨by simp, by simp⟩
  | cons text rest ih =>
    rw [classify] at h
    by_cases hsep : text = "--"
    · rw [if_pos hsep] at h
      obtain rfl := Except.ok.inj h
      refine ⟨?_, ?_⟩
      · simp [Argument.isSeparator, List.countP_map]
      · simp [Argument.isSeparator, hsep]
    · simp only [if_neg hsep, bind_eq_ok_iff] at h
      obtain ⟨kind, hkind, args, hargs, hcons⟩ := h
      obtain rfl := Except.ok.inj hcons
      have hne : ¬ Argument.isSeparator ⟨text, kind⟩ := by
        simpa [Argument.isSeparator] using classifyOne_ne_separator hkind
      obtain ⟨hcount, htext⟩ := ih hargs
      refine ⟨by rwa [List.countP_cons_of_neg hne], fun a ha hs => ?_⟩
      rcases List.mem_cons.1 ha with rfl | ha
      · exact absurd hs hne
      · exact htext a ha hs

/-- The `--` among the texts of one argument is taken away. -/
theorem valueOf_isWord (s : String) :
    IsWord (valueOf [s]) ∧ IsWord (valueOf ["--", s]) ∧ IsWord (valueOf [s, "--"]) := by
  by_cases hs : s = "--"
  · subst hs
    exact ⟨.inr rfl, .inl ⟨_, rfl⟩, .inl ⟨_, rfl⟩⟩
  · have hne : (s == "--") = false := by simpa using hs
    have hone : ["--", s].erase "--" = [s] := rfl
    have hother : [s, "--"].erase "--" = [s] := by simp [hne]
    have hnone : [s].erase "--" = [s] := by simp [hne]
    rw [valueOf, valueOf, valueOf, hone, hother, hnone]
    exact ⟨.inl ⟨_, rfl⟩, .inl ⟨_, rfl⟩, .inl ⟨_, rfl⟩⟩

/-- Separators around an argument, of which there is at most one, do not count. -/
theorem valueOf_map_isWord {before after : List Argument} {a : Argument}
    (hcount : before.length + after.length ≤ 1) (hbefore : ∀ b ∈ before, b.text = "--")
    (hafter : ∀ b ∈ after, b.text = "--") :
    IsWord (valueOf ((before ++ a :: after).map (·.text))) := by
  obtain ⟨hone, hfirst, hlast⟩ := valueOf_isWord a.text
  match before, after with
  | [], [] => exact hone
  | [b], [] =>
    have hb := hbefore b (List.mem_singleton_self b)
    simpa [hb] using hfirst
  | [], [b] =>
    have hb := hafter b (List.mem_singleton_self b)
    simpa [hb] using hlast
  | _ :: _ :: _, _ => simp only [List.length_cons] at hcount; omega
  | _, _ :: _ :: _ => simp only [List.length_cons] at hcount; omega
  | [_], [_] => simp at hcount

theorem takeOne?_isWord {args rest : List Argument} {texts : List String}
    (h : takeOne? args = some (texts, rest)) (hs : Separated args) :
    IsWord (valueOf texts) ∧ rest <:+ args := by
  have hargs := List.takeWhile_append_dropWhile (p := Argument.isSeparator) (l := args)
  have hbefore : ∀ b ∈ args.takeWhile Argument.isSeparator, b.isSeparator :=
    fun b hb => List.mem_takeWhile_imp hb
  rw [takeOne?] at h
  have hfold : (fun a : Argument => decide (a.kind = .separator)) = Argument.isSeparator := rfl
  simp only [List.span_eq_takeWhile_dropWhile, hfold] at h
  cases hd : args.dropWhile Argument.isSeparator with
  | nil =>
    rw [hd] at h
    contradiction
  | cons a tail =>
    rw [hd] at h hargs
    dsimp only at h
    split at h
    · obtain ⟨rfl, rfl⟩ := Prod.mk.inj (Option.some.inj h)
      have htail := List.takeWhile_append_dropWhile (p := Argument.isSeparator) (l := tail)
      have hafter : ∀ b ∈ tail.takeWhile Argument.isSeparator, b.isSeparator :=
        fun b hb => List.mem_takeWhile_imp hb
      have hcount := hs.count
      rw [← hargs, List.countP_append, List.countP_cons, ← htail, List.countP_append,
        List.countP_eq_length.2 hbefore, List.countP_eq_length.2 hafter] at hcount
      have hmem : ∀ b ∈ tail.takeWhile Argument.isSeparator, b ∈ args := fun b hb =>
        hargs ▸ List.mem_append_right _ (List.mem_cons_of_mem _ ((List.takeWhile_prefix _).mem hb))
      refine ⟨valueOf_map_isWord (by omega)
        (fun b hb => hs.text b (hargs ▸ List.mem_append_left _ hb) (hbefore b hb))
        (fun b hb => hs.text b (hmem b hb) (hafter b hb)), ?_⟩
      rw [← hargs]
      exact ((List.dropWhile_suffix _).trans (List.suffix_cons ..)).trans (List.suffix_append ..)
    · contradiction

theorem takePositional_isWord (wanted : Nat) {g : Gathered} {args : List Argument}
    (hs : Separated args) (hg : ∀ v ∈ g.positional, IsWord v) :
    (∀ v ∈ (takePositional wanted g args).1.positional, IsWord v) ∧
      (takePositional wanted g args).2 <:+ args := by
  induction wanted generalizing g args with
  | zero => exact ⟨hg, List.suffix_refl _⟩
  | succ wanted ih =>
    rw [takePositional]
    cases hone : takeOne? args with
    | none => exact ⟨hg, List.suffix_refl _⟩
    | some p =>
      obtain ⟨texts, rest⟩ := p
      obtain ⟨hword, hrest⟩ := takeOne?_isWord hone hs
      obtain ⟨hall, hsuffix⟩ := ih (g := { g with positional := g.positional ++ [valueOf texts] })
        (hs.of_suffix hrest)
        (List.forall_mem_append.2 ⟨hg, by simpa using hword⟩)
      exact ⟨hall, hsuffix.trans hrest⟩

theorem takeOption_suffix {o o' : Arguments} {f : Flag} {spelling : String}
    {joined : Option (List Char)} {args rest : List Argument}
    (h : takeOption o f spelling joined args = .ok (o', rest)) : rest <:+ args := by
  cases joined with
  | some value =>
    rw [takeOption] at h
    split at h
    · obtain ⟨o₁, -, h⟩ := bind_eq_ok_iff.1 h
      obtain ⟨-, rfl⟩ := Prod.mk.inj (Except.ok.inj h)
      exact List.suffix_refl _
    · obtain ⟨⟨fs, last⟩, -, h⟩ := bind_eq_ok_iff.1 h
      obtain ⟨o₁, -, h⟩ := bind_eq_ok_iff.1 h
      obtain ⟨-, rfl⟩ := Prod.mk.inj (Except.ok.inj h)
      exact List.suffix_refl _
  | none =>
    unfold takeOption at h
    dsimp only at h
    split at h
    · split at h
      · split at h
        · obtain ⟨o₁, -, h⟩ := bind_eq_ok_iff.1 h
          obtain ⟨-, rfl⟩ := Prod.mk.inj (Except.ok.inj h)
          exact List.suffix_cons ..
        · contradiction
      · contradiction
    · obtain ⟨o₁, -, h⟩ := bind_eq_ok_iff.1 h
      obtain ⟨-, rfl⟩ := Prod.mk.inj (Except.ok.inj h)
      exact List.suffix_refl _

/-- **All that is gathered can be a word.** -/
theorem gather_isWord {steps : Nat} {g g' : Gathered} {args : List Argument}
    (h : gather steps g args = .ok g') (hs : Separated args)
    (hg : ∀ v ∈ g.positional, IsWord v) : ∀ v ∈ g'.positional, IsWord v := by
  induction steps generalizing g args with
  | zero =>
    obtain rfl := Except.ok.inj h
    exact hg
  | succ steps ih =>
    cases args with
    | nil =>
      obtain rfl := Except.ok.inj h
      exact hg
    | cons a rest =>
      rw [gather] at h
      dsimp only at h
      split at h
      · exact ih h (hs.of_suffix (List.suffix_cons ..)) hg
      · obtain ⟨⟨o, rest'⟩, hoption, h⟩ := bind_eq_ok_iff.1 h
        exact ih h (hs.of_suffix ((takeOption_suffix hoption).trans (List.suffix_cons ..))) hg
      · obtain ⟨hword, hsuffix⟩ :=
          takePositional_isWord (required.length - g.positional.length) hs hg
        split at h
        · split at h
          · exact ih h (hs.of_suffix hsuffix) hword
          · refine ih h (hs.of_suffix ?_) hg
            rw [List.span_eq_takeWhile_dropWhile]
            exact List.dropWhile_suffix _
        · obtain rfl := Except.ok.inj h
          exact hword

/-- **The word is a row of characters.** -/
theorem parse_word {argv : List String} {o : Arguments} (h : parse argv = .ok o) :
    o.word.items = .ok (o.symbols.map .ofSymbol) := by
  obtain ⟨args, hargs, h⟩ := bind_eq_ok_iff.1 h
  obtain ⟨g, hg, h⟩ := bind_eq_ok_iff.1 h
  have hall := gather_isWord hg (classify_separated (mapError_eq_ok_iff.1 hargs)) (by simp)
  split at h
  · next file word hpos _ =>
    obtain rfl := Except.ok.inj h
    exact items_word (hall word (by simp [hpos]))
  · contradiction
  · contradiction

end Arguments

end TapeMachine.CommandLine
