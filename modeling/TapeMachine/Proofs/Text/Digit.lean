import Mathlib.Data.List.Forall2
import TapeMachine.Proofs.Text.Numeral
import TapeMachine.Text.Digit

/-!
# Digits of any script

Decimal digits stand for a number (`StandsFor`), which what is written in decimal does for the one
that was written (`standsFor_decimal`).  A numeral without underscores is read as that number if it
is not too long (`readNumeral?_eq_some_iff`); if one of its digits is not decimal, it cannot be read
(`exists_standsFor_iff`).
-/

namespace TapeMachine.Text

variable {c d : Char} {s : List Char} {n : Nat}

theorem digitValues?_cons_cons (h : d ≠ '_') :
    digitValues? (c :: d :: s)
      = (decimalValue? c).bind fun v => (digitValues? (d :: s)).map (v :: ·) := by
  rw [digitValues?]
  cases decimalValue? c with
  | none => rfl
  | some v =>
    show (if d = '_' then _ else _) = _
    rw [if_neg h]
    cases digitValues? (d :: s) <;> rfl

theorem digitValues?_eq_some_iff {vs : List Nat} (hs : s ≠ []) (h : '_' ∉ s) :
    digitValues? s = some vs ↔ List.Forall₂ (fun c v => decimalValue? c = some v) s vs := by
  induction s generalizing vs with
  | nil => exact absurd rfl hs
  | cons c s ih =>
    rw [List.forall₂_cons_left_iff]
    cases s with
    | nil =>
      rw [digitValues?, Option.map_eq_some_iff]
      simp [eq_comm]
    | cons d s =>
      have hd : d ≠ '_' := fun hd => h (by simp [hd])
      have hrest : '_' ∉ d :: s := fun hmem => h (List.mem_cons_of_mem c hmem)
      rw [digitValues?_cons_cons hd, Option.bind_eq_some_iff]
      constructor
      · rintro ⟨v, hv, hvs⟩
        obtain ⟨vs', hvs', rfl⟩ := Option.map_eq_some_iff.1 hvs
        exact ⟨v, vs', hv, (ih (List.cons_ne_nil d s) hrest).1 hvs', rfl⟩
      · rintro ⟨v, vs', hv, hvs', rfl⟩
        rw [(ih (List.cons_ne_nil d s) hrest).2 hvs']
        exact ⟨v, hv, rfl⟩

/-- The digits of a text, all of them decimal, stand for a number. -/
def StandsFor (s : List Char) (n : Nat) : Prop :=
  s ≠ [] ∧ ∃ vs, List.Forall₂ (fun c v => decimalValue? c = some v) s vs ∧ ofDigitValues vs = n

theorem exists_standsFor_iff :
    (∃ n, StandsFor s n) ↔ s ≠ [] ∧ ∀ c ∈ s, ∃ v, decimalValue? c = some v := by
  constructor
  · rintro ⟨n, hs, vs, hvs, -⟩
    refine ⟨hs, fun c hc => ?_⟩
    clear hs
    induction hvs with
    | nil => cases hc
    | @cons c' v s vs hv hvs ih =>
      rcases List.mem_cons.1 hc with rfl | hc
      · exact ⟨v, hv⟩
      · exact ih hc
  · rintro ⟨hs, hall⟩
    refine ⟨_, hs, s.map fun c => (decimalValue? c).getD 0, ?_, rfl⟩
    rw [List.forall₂_map_right_iff, List.forall₂_same]
    intro c hc
    obtain ⟨v, hv⟩ := hall c hc
    rw [hv, Option.getD_some]

/-- **What a numeral is read as** is what its digits stand for, if they are not too many. -/
theorem readNumeral?_eq_some_iff (hs : s ≠ []) (h : '_' ∉ s) :
    readNumeral? s = some n ↔ StandsFor s n ∧ s.length ≤ maxDigits := by
  unfold readNumeral?
  constructor
  · intro hn
    cases hvs : digitValues? s with
    | none =>
      rw [hvs] at hn
      cases hn
    | some vs =>
      have hall := (digitValues?_eq_some_iff hs h).1 hvs
      rw [hvs] at hn
      dsimp only at hn
      split_ifs at hn with hlength
      exact ⟨⟨hs, vs, hall, Option.some.inj hn⟩, hall.length_eq ▸ hlength⟩
  · rintro ⟨⟨-, vs, hall, rfl⟩, hlength⟩
    rw [(digitValues?_eq_some_iff hs h).2 hall]
    dsimp only
    rw [if_pos (hall.length_eq ▸ hlength)]

theorem StandsFor.unique {m : Nat} (h : StandsFor s n) (h' : StandsFor s m) : n = m := by
  obtain ⟨-, vs, hvs, rfl⟩ := h
  obtain ⟨-, vs', hvs', rfl⟩ := h'
  have hvalue : Relator.RightUnique fun c v => decimalValue? c = some v :=
    fun _ _ _ hv hv' => Option.some.inj (hv.symm.trans hv')
  rw [hvalue.forall₂ hvs hvs']

theorem decimalValue?_of_isAsciiDigit (h : isAsciiDigit c) :
    decimalValue? c = some (digitValue c) := by
  obtain ⟨hge, hle⟩ := isAsciiDigit_iff.1 h
  have hzero : '0'.toNat = 0x30 := by decide
  have hfirst : (decide (0x30 ≤ c.toNat) && decide (c.toNat < 0x30 + 10)) = true := by
    simp
    omega
  obtain ⟨others, hothers⟩ : ∃ others, zeros = 0x30 :: others := ⟨zeros.tail, rfl⟩
  unfold decimalValue?
  dsimp only
  rw [hothers, List.find?_cons, hfirst, Option.map_some, digitValue, hzero]

/-- What is written in decimal stands for the number. -/
theorem standsFor_decimal (n : Nat) : StandsFor (decimal n) n := by
  refine ⟨decimal_ne_nil n, (decimal n).map digitValue, ?_, ofDigits_decimal n⟩
  rw [List.forall₂_map_right_iff, List.forall₂_same]
  exact fun c hc => decimalValue?_of_isAsciiDigit (isAsciiDigit_of_mem_decimal hc)

end TapeMachine.Text
