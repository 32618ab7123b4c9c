import TapeMachine.Value.Operation

/-!
# Values that match

Two values that can be keys match if they show the same face: a number shows what it amounts
to, whatever its kind, and a text itself (`Value.Face`).  What cannot be a key has no face and
matches no key.  So values that match are found at the same places of a table
(`agrees_iff_face?`) and are equal to the same values (`same_iff_face?`).
-/

namespace TapeMachine.Value

/-- What a value that can be a key is told by. -/
inductive Face
  | nothing
  | amount (x : Amount)
  | text (s : Text.RawText)

/-- The face of a value that can be a key. -/
def face? : Value → Option Face
  | .null => some .nothing
  | .text s => some (.text s)
  | .list _ | .object _ => none
  | v => v.amount?.map .amount

variable {v w : Value} {a : Face} {x : Amount}

theorem Amount.same_iff {x y : Amount} : x.same y ↔ x = y ∧ x ≠ .undefined := by
  cases x with
  | finite p =>
    cases y with
    | finite q =>
      simp only [Amount.same, Amount.le, Bool.and_eq_true, decide_eq_true_eq, Amount.finite.injEq,
        ne_eq, reduceCtorEq, not_false_eq_true, and_true]
      exact ⟨fun h => Rat.le_antisymm h.1 h.2, fun h => h ▸ ⟨Rat.le_refl, Rat.le_refl⟩⟩
    | _ => simp [Amount.same, Amount.le]
  | infinite n =>
    cases y with
    | infinite n' => cases n <;> cases n' <;> simp [Amount.same, Amount.le]
    | _ => simp [Amount.same, Amount.le]
  | undefined => cases y <;> simp [Amount.same, Amount.le]

/-! ### Faces -/

theorem face?_eq_nothing_iff : v.face? = some .nothing ↔ v = .null := by
  cases v <;> simp [face?, Option.map_eq_some_iff]

theorem face?_eq_text_iff {s : Text.RawText} : v.face? = some (.text s) ↔ v = .text s := by
  cases v <;> simp [face?, Option.map_eq_some_iff]

theorem face?_eq_amount_iff : v.face? = some (.amount x) ↔ v.amount? = some x := by
  cases v <;> simp [face?, amount?]

/-- A value can be a key if and only if it has a face, and it is then the key itself. -/
theorem asKey_eq_ok_iff {k : Value} : v.asKey = .ok k ↔ k = v ∧ ∃ a, v.face? = some a := by
  cases v with
  | double y => cases y <;> simp [asKey, face?, amount?, eq_comm]
  | _ => simp [asKey, face?, amount?, eq_comm]

/-! ### Equal values -/

theorem sameAmount_of_amount (hv : v.amount? = some x) :
    v.sameAmount w = (w.amount?.map x.same).getD false := by
  rw [sameAmount, hv]
  cases w.amount? <;> rfl

theorem same_of_amount (hv : v.amount? = some x) :
    v.same w = (w.amount?.map x.same).getD false := by
  rw [← sameAmount_of_amount hv]
  cases v with
  | int m =>
    cases w with
    | int n =>
      rw [Bool.eq_iff_iff]
      simp [same, sameAmount, amount?, Amount.same_iff]
    | _ => simp [same]
  | bool b => cases w <;> simp [same]
  | double y => cases w <;> simp [same]
  | _ => simp [amount?] at hv

theorem sameAmount_comm (v w : Value) : v.sameAmount w = w.sameAmount v := by
  rw [sameAmount, sameAmount]
  cases v.amount? <;> cases w.amount? <;> simp [Amount.same, Bool.and_comm]

/-- Equality is symmetric where lists and objects are not compared with their like. -/
theorem same_comm (hv : v.face? = some a) : w.same v = v.same w := by
  cases v with
  | list | object => simp [face?] at hv
  | _ => cases w <;> simp [same, sameAmount_comm, eq_comm]

/-- A value with a face equals those with the same face, unless that is undefined. -/
theorem same_iff_face? (hv : v.face? = some a) :
    v.same w ↔ w.face? = some a ∧ a ≠ .amount .undefined := by
  cases a with
  | nothing =>
    rw [face?_eq_nothing_iff] at hv ⊢
    subst hv
    cases w <;> simp [same, sameAmount, amount?]
  | text s =>
    rw [face?_eq_text_iff] at hv ⊢
    subst hv
    cases w <;> simp [same, sameAmount, amount?, eq_comm]
  | amount x =>
    rw [face?_eq_amount_iff] at hv ⊢
    rw [same_of_amount hv]
    cases w.amount? with
    | none => simp
    | some y =>
      simp only [Option.map_some, Option.getD_some, Amount.same_iff, Option.some.injEq, ne_eq,
        Face.amount.injEq]
      exact and_congr_left' eq_comm

theorem same_congr (hv : v.face? = some a) (hw : w.face? = some a) (x : Value) :
    v.same x = w.same x := by
  rw [Bool.eq_iff_iff, same_iff_face? hv, same_iff_face? hw]

/-! ### Matching values -/

theorem bothUndefined_iff : v.bothUndefined w ↔
    v.amount? = some .undefined ∧ w.amount? = some .undefined := by
  cases v with
  | double x =>
    cases w with
    | double y => cases x <;> cases y <;> simp [bothUndefined, amount?]
    | _ => simp [bothUndefined, amount?]
  | _ => simp [bothUndefined, amount?]

/-- **A value with a face matches those with the same face**, and no others. -/
theorem agrees_iff_face? (hv : v.face? = some a) : v.agrees w ↔ w.face? = some a := by
  rw [agrees, Bool.or_eq_true, bothUndefined_iff, same_iff_face? hv, ← face?_eq_amount_iff,
    ← face?_eq_amount_iff, hv]
  by_cases ha : a = .amount .undefined
  · simp [ha]
  · simp [ha]

/-- Values with the same face match the same ones. -/
theorem agrees_congr (hv : v.face? = some a) (hw : w.face? = some a) (x : Value) :
    v.agrees x = w.agrees x := by
  rw [Bool.eq_iff_iff, agrees_iff_face? hv, agrees_iff_face? hw]

theorem agrees_comm (hv : v.face? = some a) : w.agrees v = v.agrees w := by
  have hboth : w.bothUndefined v = v.bothUndefined w := by
    rw [Bool.eq_iff_iff, bothUndefined_iff, bothUndefined_iff, and_comm]
  rw [agrees, agrees, same_comm hv, hboth]

/-! ### Whole numbers and symbols -/

/-- **A value is read as a whole number if and only if it amounts to it.** -/
theorem integer?_eq_some_iff {n : Int} : v.integer? = some n ↔ v.amount? = some (.finite n) := by
  -- A magnitude is whole if and only if its denominator is one.
  have hwhole : ∀ (q : Rat) (m : Int), q = (m : Rat) ↔ q.den = 1 ∧ q.num = m := by
    intro q m
    constructor
    · rintro rfl
      exact ⟨Rat.den_intCast m, Rat.num_intCast m⟩
    · rintro ⟨hden, rfl⟩
      exact Rat.ext (Rat.num_intCast _).symm (hden.trans (Rat.den_intCast _).symm)
  have hint : ∀ m : Int, some m = some n ↔ some (Amount.finite m) = some (.finite n) := by
    intro m
    rw [Option.some.injEq, Option.some.injEq, Amount.finite.injEq, Rat.intCast_inj]
  cases v with
  | int m => exact hint m
  | bool b =>
    cases b with
    | false => exact hint 0
    | true => exact hint 1
  | double x =>
    cases x with
    | finite negative q =>
      cases negative with
      | false => simp [integer?, amount?, hwhole]
      | true =>
        have hneg : -q = (n : Rat) ↔ q = ((-n : Int) : Rat) := by
          rw [Rat.intCast_neg]
          exact ⟨fun h => by rw [← h, Rat.neg_neg], fun h => by rw [h, Rat.neg_neg]⟩
        simp only [integer?, amount?, if_true, Option.some.injEq, Amount.finite.injEq, hneg, hwhole]
        by_cases hden : q.den = 1
        · simp only [hden, if_true, Option.some.injEq, true_and]
          omega
        · simp [hden]
    | _ => simp [integer?, amount?]
  | _ => simp [integer?, amount?]

/-- A value equals a whole number if and only if it is read as it. -/
theorem same_int_iff {n : Int} : v.same (.int n) ↔ v.integer? = some n := by
  have hn : (Value.int n).face? = some (.amount (.finite n)) := rfl
  rw [same_comm hn, same_iff_face? hn, face?_eq_amount_iff, integer?_eq_some_iff]
  exact and_iff_left (by simp)

end TapeMachine.Value
