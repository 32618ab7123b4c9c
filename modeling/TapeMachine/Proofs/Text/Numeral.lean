import Mathlib.Data.Nat.Digits.Defs
import TapeMachine.Text.Blank
import TapeMachine.Text.Numeral

/-!
# Decimal numerals

A number below a power of ten is written in as many digits (`length_decimal_le`), and what is
written is read back (`ofDigits_decimal`), so an integer is known from its text
(`signed_injective`).  No digit is blank (`not_isBlank_of_isAsciiDigit`).
-/

namespace TapeMachine.Text

variable {c : Char} {n k : Nat}

/-! ### Digits -/

theorem isAsciiDigit_iff : isAsciiDigit c ↔ 0x30 ≤ c.toNat ∧ c.toNat ≤ 0x39 := by
  rw [isAsciiDigit, Bool.and_eq_true, decide_eq_true_eq, decide_eq_true_eq]
  rfl

theorem digitValue_lt (h : isAsciiDigit c) : digitValue c < 10 := by
  obtain ⟨-, hle⟩ := isAsciiDigit_iff.1 h
  have hzero : '0'.toNat = 0x30 := by decide
  rw [digitValue, hzero]
  omega

theorem isAsciiDigit_digitChar (h : n < 10) : isAsciiDigit (digitChar n) := by
  have hall : ∀ n < 10, isAsciiDigit (digitChar n) := by decide
  exact hall n h

theorem digitValue_digitChar (h : n < 10) : digitValue (digitChar n) = n := by
  have hall : ∀ n < 10, digitValue (digitChar n) = n := by decide
  exact hall n h

theorem not_isBlank_of_isAsciiDigit (h : isAsciiDigit c) : ¬ isBlank c := by
  obtain ⟨hge, hle⟩ := isAsciiDigit_iff.1 h
  simp [isBlank]
  omega

/-! ### Numbers -/

theorem decimal_ne_nil (n : Nat) : decimal n ≠ [] := by
  rw [decimal]
  split <;> simp

theorem isAsciiDigit_of_mem_decimal (h : c ∈ decimal n) : isAsciiDigit c := by
  fun_induction decimal n with
  | case1 n hn =>
    obtain rfl := List.mem_singleton.1 h
    exact isAsciiDigit_digitChar hn
  | case2 n hn ih =>
    rcases List.mem_append.1 h with h | h
    · exact ih h
    · obtain rfl := List.mem_singleton.1 h
      exact isAsciiDigit_digitChar (Nat.mod_lt n (by decide))

theorem ofDigits_concat (ds : List Char) (d : Char) :
    ofDigits (ds ++ [d]) = 10 * ofDigits ds + digitValue d := by
  simp [ofDigits, ofDigitValues]

/-- **The digits of a number stand for it.** -/
theorem ofDigits_decimal (n : Nat) : ofDigits (decimal n) = n := by
  fun_induction decimal n with
  | case1 n hn =>
    have hone := ofDigits_concat [] (digitChar n)
    rw [digitValue_digitChar hn] at hone
    simpa [ofDigits, ofDigitValues] using hone
  | case2 n hn ih =>
    rw [ofDigits_concat, ih, digitValue_digitChar (Nat.mod_lt n (by decide))]
    exact Nat.div_add_mod n 10

theorem decimal_injective : Function.Injective decimal :=
  Function.LeftInverse.injective ofDigits_decimal

theorem mem_signed {n : Int} (h : c ∈ signed n) : c = '-' ∨ isAsciiDigit c := by
  cases n with
  | ofNat n => exact .inr (isAsciiDigit_of_mem_decimal h)
  | negSucc n =>
    rcases List.mem_cons.1 h with rfl | h
    · exact .inl rfl
    · exact .inr (isAsciiDigit_of_mem_decimal h)

/-- The sign is no digit. -/
theorem decimal_ne_minus_cons (n : Nat) (ds : List Char) : decimal n ≠ '-' :: ds := by
  intro h
  have hdigit : isAsciiDigit '-' := by
    apply isAsciiDigit_of_mem_decimal (n := n)
    rw [h]
    exact List.mem_cons_self
  revert hdigit
  decide

/-- **An integer is known from its text.** -/
theorem signed_injective : Function.Injective signed := by
  intro m n h
  cases m with
  | ofNat m =>
    cases n with
    | ofNat n => exact congrArg Int.ofNat (decimal_injective h)
    | negSucc n => exact absurd h (decimal_ne_minus_cons m _)
  | negSucc m =>
    cases n with
    | ofNat n => exact absurd h.symm (decimal_ne_minus_cons n _)
    | negSucc n =>
      have hsucc := decimal_injective (List.cons.inj h).2
      exact congrArg Int.negSucc (Nat.succ.inj hsucc)

/-- A number below a power of ten has at most as many digits. -/
theorem length_decimal_le (hk : 0 < k) (h : n < 10 ^ k) : (decimal n).length ≤ k := by
  fun_induction decimal n generalizing k with
  | case1 n hn => exact hk
  | case2 n hn ih =>
    obtain ⟨k, rfl⟩ := Nat.exists_eq_add_one_of_ne_zero (Nat.pos_iff_ne_zero.1 hk)
    have hpos : 0 < k := by
      rcases Nat.eq_zero_or_pos k with rfl | hpos
      · exact absurd h hn
      · exact hpos
    have hdiv : n / 10 < 10 ^ k := by
      rw [Nat.pow_succ] at h
      omega
    rw [List.length_append, List.length_singleton]
    exact Nat.succ_le_succ (ih hpos hdiv)

end TapeMachine.Text
