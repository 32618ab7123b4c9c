import Mathlib.Data.List.Nodup
import Mathlib.Data.List.Perm.Subperm
import TapeMachine.Proofs.Tape.Layout

/-!
# The live cells in a row

A walk along the right links from the first cell meets the cells of a layout from
the first live position to the last, and a walk along the left links meets them the
other way round.  Both end by themselves, so `Tape.liveCells` does not depend on how
long it is allowed to walk: `LaidOut.rightward_eq` and `LaidOut.leftward_eq`.  The
live cells are therefore the cells of `Tape.positions` (`LaidOut.liveCells_eq`), and
the head is as many cells behind the first one as its position says
(`LaidOut.headIndex_eq`).
-/

namespace TapeMachine.Tape

variable {σ : Type} {t : Tape σ} {f : Int → Nat} {p : Int}

/-- The live positions from left to right. -/
def positions (t : Tape σ) : List Int :=
  (List.range t.length).map fun k : Nat => t.firstPosition + k

@[simp] theorem length_positions (t : Tape σ) : t.positions.length = t.length := by
  simp [positions]

@[simp] theorem getElem_positions {t : Tape σ} {k : Nat} (h : k < t.positions.length) :
    t.positions[k] = t.firstPosition + k := by
  simp [positions]

theorem nodup_positions (t : Tape σ) : t.positions.Nodup := by
  refine List.nodup_range.map fun a b (hab : t.firstPosition + a = t.firstPosition + b) => ?_
  omega

theorem upTo_concat {stop : Nat} {l : List Nat} (h : stop ∉ l) :
    liveCells.upTo stop (l ++ [stop]) = l ++ [stop] := by
  induction l with
  | nil => simp [liveCells.upTo]
  | cons i l ih =>
    obtain ⟨hi, hl⟩ := List.ne_and_not_mem_of_not_mem_cons h
    rw [List.cons_append, liveCells.upTo, if_neg hi.symm, ih hl]

namespace LaidOut

theorem mem_positions (h : t.LaidOut f) : p ∈ t.positions ↔ p ∈ t.live := by
  have hl := h.length_eq
  simp only [positions, List.mem_map, List.mem_range, mem_live]
  constructor
  · rintro ⟨k, hk, rfl⟩
    omega
  · rintro ⟨h₁, h₂⟩
    exact ⟨(p - t.firstPosition).toNat, by omega, by omega⟩

theorem nodup_cells (h : t.LaidOut f) : (t.positions.map f).Nodup :=
  List.Nodup.map_on
    (fun _ hp _ hq hpq => h.injOn (h.mem_positions.1 hp) (h.mem_positions.1 hq) hpq)
    t.nodup_positions

theorem length_le_size (h : t.LaidOut f) : t.length ≤ t.chain.size := by
  have hsub : t.positions.map f ⊆ List.range t.chain.size := by
    intro i hi
    obtain ⟨p, hp, rfl⟩ := List.mem_map.1 hi
    exact List.mem_range.2 (h.made p (h.mem_positions.1 hp))
  simpa using (List.subperm_of_subset h.nodup_cells hsub).length_le

/-- A walk from a live position meets the cells of the positions behind it, up to the last. -/
theorem rightward_of_mem (h : t.LaidOut f) (n : Nat) (hp : p ∈ t.live) :
    t.chain.rightward n (f p) =
      (List.range (min n (t.lastPosition - p + 1).toNat)).map fun k : Nat => f (p + k) := by
  induction n generalizing p with
  | zero => simp [Chain.rightward]
  | succ n ih =>
    obtain ⟨h₁, h₂⟩ := hp
    rcases lt_or_eq_of_le h₂ with hlt | rfl
    · have hmin : min (n + 1) (t.lastPosition - p + 1).toNat
          = min n (t.lastPosition - (p + 1) + 1).toNat + 1 := by omega
      rw [Chain.rightward, h.right p h₁ hlt, hmin, List.range_succ_eq_map, List.map_cons,
        List.map_map]
      show f p :: t.chain.rightward n (f (p + 1)) = _
      rw [ih ⟨by omega, by omega⟩]
      refine congrArg₂ _ (by simp) (List.map_congr_left fun k _ => congrArg f ?_)
      show p + 1 + (k : Int) = p + ((k + 1 : Nat) : Int)
      omega
    · -- At the last cell the walk ends, however many steps are left.
      rw [Chain.rightward, h.last, h.right_last]
      simp [h.last]

theorem rightward_eq (h : t.LaidOut f) {n : Nat} (hn : t.length ≤ n) :
    t.chain.rightward n t.first = t.positions.map f := by
  have hl := h.length_eq
  have hmin : min n (t.lastPosition - t.firstPosition + 1).toNat = t.length := by omega
  rw [← h.first, h.rightward_of_mem n h.first_mem, hmin, positions, List.map_map]
  rfl

theorem map_neg_positions_mirror (h : t.LaidOut f) :
    t.mirror.positions.map (fun p => -p) = t.positions.reverse := by
  have hl := h.length_eq
  refine List.ext_getElem (by simp) fun k h₁ h₂ => ?_
  have hk : k < t.length := by simpa using h₁
  rw [List.getElem_map, List.getElem_reverse, getElem_positions, getElem_positions]
  show -(-t.lastPosition + (k : Int)) = _
  rw [length_positions]
  omega

theorem leftward_eq (h : t.LaidOut f) {n : Nat} (hn : t.length ≤ n) :
    t.chain.leftward n t.last = (t.positions.map f).reverse := by
  have hm := h.mirror.rightward_eq (t.length_mirror.trans_le hn)
  have hmirror : t.mirror.chain.mirror = t.chain := t.chain.mirror_mirror
  rw [← Chain.leftward_mirror, hmirror] at hm
  rw [← List.map_reverse, ← h.map_neg_positions_mirror, List.map_map]
  exact hm

/-- The cells of a layout end with the last one, which is not among those before. -/
theorem map_positions_eq (h : t.LaidOut f) :
    ∃ l, t.positions.map f = l ++ [t.last] ∧ t.last ∉ l := by
  have hl := h.length_eq
  have hlast := h.first_le_last
  obtain ⟨k, hk⟩ : ∃ k, t.length = k + 1 := ⟨t.length - 1, by omega⟩
  have he : t.positions.map f
      = (List.range k).map (fun j : Nat => f (t.firstPosition + j)) ++ [t.last] := by
    rw [positions, hk, List.range_succ, List.map_append, List.map_append, List.map_map, ← h.last,
      show t.lastPosition = t.firstPosition + k by omega]
    rfl
  refine ⟨_, he, fun hmem => ?_⟩
  have hn := h.nodup_cells
  rw [he, List.nodup_append] at hn
  exact hn.2.2 _ hmem _ (List.mem_singleton_self _) rfl

/-- **The live cells are those of the live positions.** -/
theorem liveCells_eq (h : t.LaidOut f) : t.liveCells = t.positions.map f := by
  obtain ⟨l, he, hl⟩ := h.map_positions_eq
  rw [liveCells, h.rightward_eq h.length_le_size, he, upTo_concat hl]

theorem getElem?_head (h : t.LaidOut f) :
    (t.positions.map f)[(t.position - t.firstPosition).toNat]? = some t.head := by
  have hl := h.length_eq
  have h₁ := h.first_le
  have h₂ := h.le_last
  have hk : (t.position - t.firstPosition).toNat < (t.positions.map f).length := by simp; omega
  rw [List.getElem?_eq_getElem hk, List.getElem_map, getElem_positions, ← h.head]
  congr 2
  omega

theorem headIndex_eq (h : t.LaidOut f) : (t.headIndex : Int) = t.position - t.firstPosition := by
  have h₁ := h.first_le
  obtain ⟨hk, hhead⟩ := List.getElem?_eq_some_iff.1 h.getElem?_head
  have hidx : (t.positions.map f).idxOf? t.head = some (t.position - t.firstPosition).toNat := by
    rw [List.idxOf?_eq_some_iff]
    refine ⟨hk, hhead, fun j hj he => ?_⟩
    have := (h.nodup_cells.getElem_inj_iff).1 (he.trans hhead.symm)
    omega
  rw [headIndex, h.liveCells_eq, hidx]
  show ((t.position - t.firstPosition).toNat : Int) = _
  omega

end LaidOut

end TapeMachine.Tape
