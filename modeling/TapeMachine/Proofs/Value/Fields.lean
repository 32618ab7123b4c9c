import Mathlib.Tactic.SplitIfs
import TapeMachine.Proofs.Result
import TapeMachine.Value.Json

/-!
# Named values

What is found under a name after a value is put (`get?_put`) and after values are put over others,
which hide the others (`get?_override_eq_some_iff`).  Names keep their places then, and no name
comes to stand twice.  An object that is read has every name once (`Json.nodup_of_read`), since its
values are put one after another.
-/

namespace TapeMachine

open Text

namespace Fields

variable {fields changes : Fields} {name : RawText} {v : Value}

/-! ### Values under a name -/

theorem get?_put (fields : Fields) (name name' : RawText) (v : Value) :
    (fields.put name v).get? name' = if name = name' then some v else fields.get? name' := by
  induction fields with
  | nil =>
    by_cases h : name = name' <;> simp [put, get?, h]
  | cons f rest ih =>
    by_cases hf : f.1 = name
    · by_cases h : name = name' <;> simp [put, get?, hf, h]
    · by_cases h : f.1 = name'
      · have hne : name ≠ name' := fun he => hf (h.trans he.symm)
        have hput : put (f :: rest) name v = f :: put rest name v := if_neg hf
        rw [hput, if_neg hne]
        simp [get?, h]
      · simpa [put, get?, hf, h] using ih

theorem get?_override_of_not_mem (h : name ∉ changes.map (·.1)) :
    (fields.override changes).get? name = fields.get? name := by
  induction changes generalizing fields with
  | nil => rfl
  | cons f rest ih =>
    obtain ⟨hne, hrest⟩ := List.ne_and_not_mem_of_not_mem_cons h
    exact (ih hrest).trans (by rw [get?_put, if_neg hne.symm])

/-- Of values that are put over others, each has its name once, all are found. -/
theorem get?_override_of_mem (hnodup : (changes.map (·.1)).Nodup) (h : (name, v) ∈ changes) :
    (fields.override changes).get? name = some v := by
  induction changes generalizing fields with
  | nil => simp at h
  | cons f rest ih =>
    obtain ⟨hnot, hrest⟩ := List.nodup_cons.1 hnodup
    rcases List.mem_cons.1 h with rfl | hmem
    · exact (get?_override_of_not_mem hnot).trans (by rw [get?_put, if_pos rfl])
    · exact ih hrest hmem

/-- Of values that are put over others, each has its name once, all are found, and of the others
those with another name. -/
theorem get?_override_eq_some_iff (hnodup : (changes.map (·.1)).Nodup) :
    (fields.override changes).get? name = some v ↔
      (name, v) ∈ changes ∨ (∀ w, (name, w) ∉ changes) ∧ fields.get? name = some v := by
  by_cases h : ∃ w, (name, w) ∈ changes
  · obtain ⟨w, hw⟩ := h
    rw [get?_override_of_mem hnodup hw, Option.some_inj]
    constructor
    · rintro rfl
      exact .inl hw
    · rintro (hv | ⟨hno, -⟩)
      · have hget : (fields.override changes).get? name = some v := get?_override_of_mem hnodup hv
        rw [get?_override_of_mem hnodup hw] at hget
        exact Option.some.inj hget
      · exact absurd hw (hno w)
  · have hno : ∀ w, (name, w) ∉ changes := fun w hw => h ⟨w, hw⟩
    rw [get?_override_of_not_mem (by simpa using hno)]
    exact ⟨fun hv => .inr ⟨hno, hv⟩, fun hv => (hv.resolve_left (hno v)).2⟩

theorem get?_ne_none_iff : fields.get? name ≠ none ↔ name ∈ fields.map (·.1) := by
  simp [get?, List.find?_eq_none]

/-! ### Names -/

theorem map_fst_put_of_mem (v : Value) (h : name ∈ fields.map (·.1)) :
    (fields.put name v).map (·.1) = fields.map (·.1) := by
  induction fields with
  | nil => cases h
  | cons f rest ih =>
    by_cases hf : f.1 = name
    · simp [put, hf]
    · have hrest : name ∈ rest.map (·.1) := (List.mem_cons.1 h).resolve_left (Ne.symm hf)
      simp [put, hf, ih hrest]

theorem map_fst_put_of_not_mem (v : Value) (h : name ∉ fields.map (·.1)) :
    (fields.put name v).map (·.1) = fields.map (·.1) ++ [name] := by
  induction fields with
  | nil => rfl
  | cons f rest ih =>
    obtain ⟨hf, hrest⟩ := List.ne_and_not_mem_of_not_mem_cons h
    simp [put, hf.symm, ih hrest]

theorem mem_map_fst_put_iff {name' : RawText} (v : Value) :
    name' ∈ (fields.put name v).map (·.1) ↔ name' ∈ fields.map (·.1) ∨ name' = name := by
  by_cases hmem : name ∈ fields.map (·.1)
  · rw [map_fst_put_of_mem v hmem]
    refine ⟨.inl, ?_⟩
    rintro (h | rfl)
    · exact h
    · exact hmem
  · rw [map_fst_put_of_not_mem v hmem, List.mem_append, List.mem_singleton]

theorem nodup_put (v : Value) (h : (fields.map (·.1)).Nodup) :
    ((fields.put name v).map (·.1)).Nodup := by
  by_cases hmem : name ∈ fields.map (·.1)
  · rwa [map_fst_put_of_mem v hmem]
  · rw [map_fst_put_of_not_mem v hmem]
    refine List.nodup_append.2 ⟨h, by simp, fun other hother last hlast => ?_⟩
    rintro rfl
    exact hmem (List.mem_singleton.1 hlast ▸ hother)

theorem nodup_override (h : (fields.map (·.1)).Nodup) :
    ((fields.override changes).map (·.1)).Nodup := by
  induction changes generalizing fields with
  | nil => exact h
  | cons f rest ih => exact ih (nodup_put f.2 h)

/-- Names of values that are put over others stand where they stood. -/
theorem map_fst_override (h : ∀ name ∈ changes.map (·.1), name ∈ fields.map (·.1)) :
    (fields.override changes).map (·.1) = fields.map (·.1) := by
  induction changes generalizing fields with
  | nil => rfl
  | cons f rest ih =>
    have hput := map_fst_put_of_mem f.2 (h f.1 (List.mem_cons_self ..))
    refine (ih fun name hname => ?_).trans hput
    rw [hput]
    exact h name (List.mem_cons_of_mem _ hname)

theorem mem_map_fst_override_iff : name ∈ (fields.override changes).map (·.1) ↔
    name ∈ fields.map (·.1) ∨ name ∈ changes.map (·.1) := by
  induction changes generalizing fields with
  | nil => simp [override]
  | cons f rest ih =>
    rw [List.map_cons, List.mem_cons, ← or_assoc, ← mem_map_fst_put_iff f.2, ← ih]
    rfl

theorem get?_override_ne_none (h : fields.get? name ≠ none) :
    (fields.override changes).get? name ≠ none := by
  rw [get?_ne_none_iff] at h ⊢
  exact mem_map_fst_override_iff.2 (.inl h)

end Fields

/-! ### Objects name nothing twice -/

namespace Json

theorem nodup_of_readFields {steps levels : Nat} {before fields : Fields} {c c' : Cursor}
    (hbefore : (before.map (·.1)).Nodup)
    (h : readFields steps levels before c = .ok (fields, c')) : (fields.map (·.1)).Nodup := by
  induction steps generalizing before c with
  | zero => cases h
  | succ steps ih =>
    rw [readFields] at h
    split at h
    · obtain ⟨⟨name, c₁⟩, -, h⟩ := bind_eq_ok_iff.1 h
      dsimp only at h
      split at h
      · obtain ⟨⟨v, c₂⟩, -, h⟩ := bind_eq_ok_iff.1 h
        have hput : ((before.put (RawText.ofPoints name) v).map (·.1)).Nodup :=
          Fields.nodup_put v hbefore
        dsimp only at h
        split at h
        · obtain ⟨rfl, -⟩ := Prod.mk.inj (Except.ok.inj h)
          exact hput
        · exact ih hput h
        · cases h
      · cases h
    · cases h

theorem kind_of_readWord? {c c' : Cursor} {v : Value} (h : readWord? c = some (v, c')) :
    v.kind ≠ .object := by
  simp only [readWord?, Option.orElse_eq_orElse, Option.orElse_eq_or, Option.or_eq_some_iff,
    Option.map_eq_some_iff, Prod.mk.injEq] at h
  obtain ⟨_, -, rfl, -⟩ | ⟨-, ⟨_, -, rfl, -⟩ | ⟨-, ⟨_, -, rfl, -⟩ | ⟨-, ⟨_, -, rfl, -⟩ |
    ⟨-, ⟨_, -, rfl, -⟩ | ⟨-, _, -, rfl, -⟩⟩⟩⟩⟩ := h <;> nofun

theorem kind_of_readNumber {c c' : Cursor} {v : Value} (h : readNumber c = .ok (v, c')) :
    v.kind ≠ .object := by
  unfold readNumber at h
  split at h
  dsimp only at h
  split_ifs at h <;> cases h <;> nofun

theorem nodup_of_readValue {steps levels : Nat} {fields : Fields} {c c' : Cursor}
    (h : readValue steps levels c = .ok (.object fields, c')) : (fields.map (·.1)).Nodup := by
  cases steps with
  | zero => cases h
  | succ steps =>
    rw [readValue] at h
    split at h
    · obtain ⟨⟨s, c₁⟩, -, h⟩ := bind_eq_ok_iff.1 h
      cases h
    · split at h
      · cases h
      · dsimp only at h
        split at h
        · cases h
          exact List.nodup_nil
        · obtain ⟨⟨fields', c₁⟩, hfields, h⟩ := bind_eq_ok_iff.1 h
          cases h
          have hnil : (([] : Fields).map (·.1)).Nodup := List.nodup_nil
          exact nodup_of_readFields hnil hfields
    · split at h
      · cases h
      · dsimp only at h
        split at h
        · cases h
        · obtain ⟨⟨items, c₁⟩, -, h⟩ := bind_eq_ok_iff.1 h
          cases h
    · split at h
      next r hr =>
        cases h
        exact absurd rfl (kind_of_readWord? hr)
      next => exact absurd rfl (kind_of_readNumber h)

/-- **An object that is read has every name once.** -/
theorem nodup_of_read {levels : Nat} {text : List Char} {fields : Fields}
    (h : read levels text = .ok (.object fields)) : (fields.map (·.1)).Nodup := by
  unfold read at h
  split at h
  · cases h
  · obtain ⟨⟨v, c⟩, hv, h⟩ := bind_eq_ok_iff.1 h
    dsimp only at h
    split at h
    · cases h
      exact nodup_of_readValue hv
    · cases h

end Json

end TapeMachine
