import TapeMachine.Proofs.Tape.Changes
import TapeMachine.Proofs.Tape.Row

/-!
# The lives of cells

The trail of some operations (`trail`) has the tape after each single change that they make, in
order, beside the operation that makes it; it ends with the tape after the operations.  So
`during t ops k` is the tape after `k` changes.

Along the trail a cell **lives once** (`LivesOnce`).  It is live from the moment at which it is
made, at one position for good, and only a write under the head changes its symbol.  It may be
dropped when it is blank and the head is on another cell.  From then on it is **cut off**
(`CutOff`), with a blank for good, and another cell made later lies at its position if the head
comes back: `cells_live_once`.
-/

namespace TapeMachine

/-- A link of one cell of a chain leads to another. -/
def Chain.Linked (c : Chain Char) (i j : Nat) : Prop := c.left? i = some j ∨ c.right? i = some j

namespace Tape

variable {t u v : Tape} {f : Int → Nat} {o : Operation} {i j k : Nat} {p : Int}

/-! ### The trail of operations -/

/-- The tapes after each round of a loop that drops cells; a round may have none to drop. -/
def dropStages (new? : Tape → Option Nat) (drop : Tape → Nat → Tape × Event) (rounds : Nat)
    (t : Tape) : List Tape :=
  (List.range rounds).map fun n => (dropAll new? drop (n + 1) t).1

/-- The tapes on the way from a tape to a trimmed one. -/
def trimStages (t : Tape) : List Tape :=
  let u := (dropAll newFirst? dropFirst t.length t).1
  dropStages newFirst? dropFirst t.length t ++ dropStages newLast? dropLast u.length u

/-- The tapes on the way of the head to the next cell. -/
def reachStages (t : Tape) : Direction → List Tape
  | .left => if t.chain.left? t.head = none then [t.growLeft, (t.reach .left).1]
    else [(t.reach .left).1]
  | .stay => []
  | .right => if t.chain.right? t.head = none then [t.growRight, (t.reach .right).1]
    else [(t.reach .right).1]

/-- The tapes on the way through a move. -/
def moveStages (t : Tape) (d : Direction) : List Tape :=
  if d = .stay then [] else t.reachStages d ++ (t.reach d).1.trimStages

/-- The tapes on the way through an operation. -/
def stages (t : Tape) : Operation → List Tape
  | .read | .write _ => []
  | .move v => ((Direction.ofValue? v).map t.moveStages).getD []
  | .trim => t.trimStages

/-- **The trail of operations**: every single change, with the operation that makes it and the tape
after it. -/
def trail (t : Tape) : List Operation → List (Operation × Tape)
  | [] => []
  | o :: ops => (t.stages o).map (o, ·) ++ (o, t.perform o) :: (t.perform o).trail ops

/-- The tape after so many of the changes that operations make. -/
def during (t : Tape) (ops : List Operation) (k : Nat) : Tape :=
  (t :: (t.trail ops).map Prod.snd)[k]?.getD (t.after ops)

/-- The operation that makes the change after so many. -/
def changing? (t : Tape) (ops : List Operation) (k : Nat) : Option Operation :=
  (t.trail ops)[k]?.map Prod.fst

/-- Changes lead from a tape to another, one after another. -/
inductive Leads : Tape → List (Operation × Tape) → Tape → Prop
  | nil (t : Tape) : Leads t [] t
  | cons {o : Operation} {t u v : Tape} {rest : List (Operation × Tape)}
      (h : Change (some o) t u) (hrest : Leads u rest v) : Leads t ((o, u) :: rest) v

namespace Leads

variable {l l' : List (Operation × Tape)}

theorem append (h : Leads t l u) (h' : Leads u l' v) : Leads t (l ++ l') v := by
  induction h with
  | nil => exact h'
  | cons hc _ ih => exact .cons hc (ih h')

theorem single (h : Change (some o) t u) : Leads t [(o, u)] u := .cons h (.nil u)

theorem getElem?_length (h : Leads t l u) : (t :: l.map Prod.snd)[l.length]? = some u := by
  induction h with
  | nil => rfl
  | cons _ _ ih => exact ih

theorem change (h : Leads t l u) (k : Nat) : Change (l[k]?.map Prod.fst)
    ((t :: l.map Prod.snd)[k]?.getD u) ((t :: l.map Prod.snd)[k + 1]?.getD u) := by
  induction h generalizing k with
  | nil => cases k <;> exact .none _ _
  | cons hc _ ih =>
    cases k with
    | zero => exact hc
    | succ k => exact ih k

end Leads

theorem dropAll_succ_cases (new? : Tape → Option Nat) (drop : Tape → Nat → Tape × Event) (n : Nat)
    (t : Tape) : (dropAll new? drop (n + 1) t).1 = (dropAll new? drop n t).1 ∨
      ∃ i, new? (dropAll new? drop n t).1 = some i ∧
        (dropAll new? drop (n + 1) t).1 = (drop (dropAll new? drop n t).1 i).1 := by
  induction n generalizing t with
  | zero =>
    cases hi : new? t with
    | none => exact .inl (by rw [dropAll_of_none hi, dropAll_of_none hi])
    | some i => exact .inr ⟨i, hi, by rw [dropAll_succ_of_some hi]; rfl⟩
  | succ n ih =>
    cases hi : new? t with
    | none => exact .inl (by rw [dropAll_of_none hi, dropAll_of_none hi])
    | some i =>
      rw [dropAll_succ_of_some hi, dropAll_succ_of_some hi (n := n)]
      exact ih _

theorem leads_dropStages {new? : Tape → Option Nat} {drop : Tape → Nat → Tape × Event}
    (hdrop : ∀ t i, new? t = some i → Change (some o) t (drop t i).1) (n : Nat) (t : Tape) :
    Leads t ((dropStages new? drop n t).map (o, ·)) (dropAll new? drop n t).1 := by
  induction n with
  | zero => exact .nil t
  | succ n ih =>
    have hround : Change (some o) (dropAll new? drop n t).1 (dropAll new? drop (n + 1) t).1 := by
      rcases dropAll_succ_cases new? drop n t with he | ⟨i, hi, he⟩
      · rw [he]
        exact .none _ _
      · rw [he]
        exact hdrop _ i hi
    rw [dropStages, List.range_succ, List.map_append, List.map_append]
    exact ih.append (.single hround)

theorem leads_trimStages (o : Operation) (t : Tape) :
    Leads t (t.trimStages.map (o, ·)) t.trim.1 := by
  rw [trimStages, List.map_append]
  apply Leads.append
  · exact leads_dropStages (fun _ _ h => .dropFirst _ h) _ _
  · exact leads_dropStages (fun _ _ h => .dropLast _ h) _ _

theorem LaidOut.leads_reachStages (h : t.LaidOut f) (o : Operation) (d : Direction) :
    Leads t ((t.reachStages d).map (o, ·)) (t.reach d).1 := by
  cases d with
  | stay => exact .nil t
  | left =>
    cases hl : t.chain.left? t.head with
    | some i =>
      rw [reachStages, hl, reach, hl]
      exact .single (.shiftLeft _ hl)
    | none =>
      have hnew : t.growLeft.chain.left? t.head = some t.chain.size :=
        (h.left?_growLeft _).trans (if_pos rfl)
      rw [reachStages, hl, reach, hl]
      exact .cons (.growLeft _ hl) (.single (.shiftLeft _ hnew))
  | right =>
    cases hr : t.chain.right? t.head with
    | some i =>
      rw [reachStages, hr, reach, hr]
      exact .single (.shiftRight _ hr)
    | none =>
      have hnew : t.growRight.chain.right? t.head = some t.chain.size :=
        (Chain.right?_make_link h.head_lt.le ..).trans (if_pos rfl)
      rw [reachStages, hr, reach, hr]
      exact .cons (.growRight _ hr) (.single (.shiftRight _ hnew))

theorem LaidOut.leads_moveStages (h : t.LaidOut f) (o : Operation) (d : Direction) :
    Leads t ((t.moveStages d).map (o, ·)) (t.move d).1 := by
  rw [moveStages, move]
  by_cases hd : d = .stay
  · rw [if_pos hd, if_pos hd]
    exact .nil t
  · rw [if_neg hd, if_neg hd, List.map_append]
    exact (h.leads_reachStages o d).append (leads_trimStages o _)

theorem LaidOut.leads_stages (h : t.LaidOut f) (o : Operation) :
    ∃ u, Leads t ((t.stages o).map (o, ·)) u ∧ Change (some o) u (t.perform o) := by
  cases o with
  | read => exact ⟨t, .nil t, .none _ _⟩
  | write v =>
    refine ⟨t, .nil t, ?_⟩
    cases hv : v.symbol? with
    | none =>
      rw [perform_write_of_none t hv]
      exact .none _ _
    | some c =>
      rw [perform_write_of_some t hv]
      exact .write t hv
  | move v =>
    rw [stages]
    cases hv : Direction.ofValue? v with
    | none =>
      rw [perform_move_of_none t hv]
      exact ⟨t, .nil t, .none _ _⟩
    | some d =>
      rw [perform_move_of_some t hv]
      exact ⟨_, h.leads_moveStages _ d, .mark _ _ v d⟩
  | trim => exact ⟨_, leads_trimStages _ t, .none _ _⟩

/-- What changes lead to is intact if what they start from is. -/
theorem Leads.intact {l : List (Operation × Tape)} (h : Leads t l u) (ht : ∃ f, t.Intact f) :
    ∃ f, u.Intact f := by
  induction h with
  | nil => exact ht
  | cons hc _ ih =>
    obtain ⟨f, hf⟩ := ht
    obtain ⟨g, hg, -⟩ := hc.carries hf
    exact ih ⟨g, hg⟩

/-- **The trail of operations leads to the tape after them.** -/
theorem leads_trail (h : ∃ f, t.Intact f) (ops : List Operation) :
    Leads t (t.trail ops) (t.after ops) := by
  induction ops generalizing t with
  | nil => exact .nil t
  | cons o ops ih =>
    obtain ⟨f, hf⟩ := h
    obtain ⟨u, hu, hlast⟩ := hf.leads_stages o
    have hintact := (hu.append (.single hlast)).intact ⟨f, hf⟩
    exact hu.append (.cons hlast (ih hintact))

theorem trail_append (t : Tape) (ops ops' : List Operation) :
    t.trail (ops ++ ops') = t.trail ops ++ (t.after ops).trail ops' := by
  induction ops generalizing t with
  | nil => rfl
  | cons o ops ih =>
    rw [List.cons_append, trail, trail, ih, List.append_assoc, List.cons_append]
    rfl

/-- The trail of operations passes the tape after each of them. -/
theorem during_length_trail (h : ∃ f, t.Intact f) (ops : List Operation) (n : Nat) :
    t.during ops (t.trail (ops.take n)).length = t.after (ops.take n) := by
  have hlast := (leads_trail h (ops.take n)).getElem?_length
  have htrail := t.trail_append (ops.take n) (ops.drop n)
  rw [List.take_append_drop] at htrail
  rw [during, htrail, List.map_append, ← List.cons_append,
    List.getElem?_append_left (by simp), hlast]
  rfl

/-! ### What has been cut off -/

/-- **A cell is cut off**: it has no links, the tape does not name it, and no links lead to it from
a live cell. -/
structure CutOff (t : Tape) (i : Nat) : Prop where
  made : i < t.chain.size
  left : t.chain.left? i = none
  right : t.chain.right? i = none
  ne_first : i ≠ t.first
  ne_last : i ≠ t.last
  ne_head : i ≠ t.head
  unreachable : ∀ j ∈ t.liveCells, ¬ Relation.ReflTransGen t.chain.Linked j i

/-- Links lead from live cells to live cells. -/
theorem LaidOut.mem_of_linked (h : t.LaidOut f) (hi : i ∈ t.liveCells) (hl : t.chain.Linked i j) :
    j ∈ t.liveCells := by
  obtain ⟨p, hp⟩ := mem_liveCells_iff.1 hi
  obtain ⟨⟨h₁, h₂⟩, rfl⟩ := h.liesAt_iff.1 hp
  rw [mem_liveCells_iff]
  rcases hl with hl | hr
  · rcases h₁.lt_or_eq with hlt | rfl
    · rw [h.left p hlt h₂] at hl
      exact ⟨p - 1, h.liesAt_iff.2 ⟨⟨by omega, by omega⟩, Option.some.inj hl⟩⟩
    · rw [h.first, h.left_first] at hl
      contradiction
  · rcases h₂.lt_or_eq with hlt | rfl
    · rw [h.right p h₁ hlt] at hr
      exact ⟨p + 1, h.liesAt_iff.2 ⟨⟨by omega, by omega⟩, Option.some.inj hr⟩⟩
    · rw [h.last, h.right_last] at hr
      contradiction

theorem LaidOut.mem_of_reachable (h : t.LaidOut f) (hi : i ∈ t.liveCells)
    (hreach : Relation.ReflTransGen t.chain.Linked i j) : j ∈ t.liveCells := by
  induction hreach with
  | refl => exact hi
  | tail _ hl ih => exact h.mem_of_linked ih hl

theorem Intact.cutOff (h : t.Intact f) (hi : i < t.chain.size) (hout : i ∉ t.liveCells) :
    t.CutOff i := by
  have hlies : ∀ p ∈ t.live, f p ≠ i := fun p hp he =>
    hout (mem_liveCells_iff.2 ⟨p, h.liesAt_iff.2 ⟨hp, he⟩⟩)
  have hloose := h.loose i hi hlies
  exact
    { made := hi
      left := hloose.left
      right := hloose.right
      ne_first := fun he => hlies _ h.first_mem (h.first.trans he.symm)
      ne_last := fun he => hlies _ h.last_mem (h.last.trans he.symm)
      ne_head := fun he => hlies _ h.position_mem (h.head.trans he.symm)
      unreachable := by
        intro j hj hreach
        exact hout (h.mem_of_reachable hj hreach) }

/-! ### One change after another -/

/-- Tapes each of which carries the cells of the one before. -/
structure Carried (m : Nat → Tape) (op : Nat → Option Operation) : Prop where
  intact : ∀ k, ∃ f, (m k).Intact f
  carries : ∀ k, Carries (op k) (m k) (m (k + 1))

/-- **A cell lives once** along some tapes, of which `m k` is there after `k` changes and `op k` is
the operation that makes the next one. -/
structure LivesOnce (m : Nat → Tape) (op : Nat → Option Operation) (i : Nat) : Prop where
  born : ∀ k, (m k).chain.size ≤ i → i < (m (k + 1)).chain.size → i ∈ (m (k + 1)).liveCells
  stays : ∀ k l p q, (m k).LiesAt i p → (m l).LiesAt i q → p = q
  written : ∀ k, i < (m k).chain.size → (m (k + 1)).chain.symbol? i ≠ (m k).chain.symbol? i →
    ∃ v c, op k = some (.write v) ∧ v.symbol? = some c ∧ i = (m k).head ∧
      (m (k + 1)).chain.symbol? i = some c
  dropped : ∀ k p, (m k).LiesAt i p → i ∉ (m (k + 1)).liveCells →
    (m k).chain.symbol? i = some blank ∧ i ≠ (m k).head ∧
      ∀ l, k < l → (m l).CutOff i ∧ (m l).chain.symbol? i = some blank ∧
        ∀ j, (m l).LiesAt j p → (m (k + 1)).chain.size ≤ j

/-- All cells of the tape of a word are live. -/
theorem liesAt_ofWord {w : List Char} (hi : i < (ofWord w : Tape).chain.size) :
    (ofWord w : Tape).LiesAt i i := by
  rw [(isRow_ofWord w).size] at hi
  rw [(laidOut_ofWord w).liesAt_iff, mem_live_ofWord, Int.toNat_natCast]
  exact ⟨⟨by omega, hi⟩, rfl⟩

theorem intact_ofWord (w : List Char) : (ofWord w : Tape).Intact Int.toNat where
  toLaidOut := laidOut_ofWord w
  loose := by
    intro i hi hout
    obtain ⟨hmem, he⟩ := (laidOut_ofWord w).liesAt_iff.1 (liesAt_ofWord hi)
    exact absurd he (hout i hmem)

theorem carried_during (h : ∃ f, t.Intact f) (ops : List Operation) :
    Carried (t.during ops) (t.changing? ops) := by
  have hchange : ∀ k, Change (t.changing? ops k) (t.during ops k) (t.during ops (k + 1)) :=
    (leads_trail h ops).change
  have hintact : ∀ k, ∃ f, (t.during ops k).Intact f := by
    intro k
    induction k with
    | zero => exact h
    | succ k ih =>
      obtain ⟨f, hf⟩ := ih
      obtain ⟨g, hg, -⟩ := (hchange k).carries hf
      exact ⟨g, hg⟩
  refine ⟨hintact, fun k => ?_⟩
  obtain ⟨f, hf⟩ := hintact k
  obtain ⟨-, -, hc⟩ := (hchange k).carries hf
  exact hc

namespace Carried

variable {m : Nat → Tape} {op : Nat → Option Operation} {l : Nat}

theorem size_le (h : Carried m op) (hkl : k ≤ l) : (m k).chain.size ≤ (m l).chain.size :=
  monotone_nat_of_le_succ (f := fun k => (m k).chain.size) (fun k => (h.carries k).size_le) hkl

/-- A cell that is live lay there all the time since it was made. -/
theorem liesAt_of_le (h : Carried m op) (hkl : k ≤ l) (hi : i < (m k).chain.size)
    (hp : (m l).LiesAt i p) : (m k).LiesAt i p := by
  induction hkl with
  | refl => exact hp
  | @step l hkl ih =>
    rcases (h.carries l).liesAt i p hp with hp | ⟨hnew, -⟩
    · exact ih hp
    · exact absurd (h.size_le hkl) (by omega)

theorem lt_of_liesAt (h : Carried m op) (hp : (m k).LiesAt i p) : i < (m k).chain.size := by
  obtain ⟨f, hf⟩ := h.intact k
  exact hf.lt_of_liesAt hp

theorem eq_of_liesAt_of_le {q : Int} (h : Carried m op) (hkl : k ≤ l) (hp : (m k).LiesAt i p)
    (hq : (m l).LiesAt i q) : p = q := by
  obtain ⟨f, hf⟩ := h.intact k
  exact hf.eq_of_liesAt hp (h.liesAt_of_le hkl (hf.lt_of_liesAt hp) hq)

/-- A cell that is made and not live is never live again. -/
theorem not_mem_of_le (h : Carried m op) (hkl : k ≤ l) (hi : i < (m k).chain.size)
    (hout : i ∉ (m k).liveCells) : i ∉ (m l).liveCells := by
  intro hmem
  obtain ⟨p, hp⟩ := mem_liveCells_iff.1 hmem
  exact hout (mem_liveCells_iff.2 ⟨p, h.liesAt_of_le hkl hi hp⟩)

/-- Where a cell is dropped, only cells that are made later lie. -/
theorem size_le_of_liesAt (h : Carried m op) (hp : (m k).LiesAt i p)
    (hout : i ∉ (m (k + 1)).liveCells) (hkl : k < l) (hj : (m l).LiesAt j p) :
    (m (k + 1)).chain.size ≤ j := by
  by_contra hlt
  have hnext : (m (k + 1)).LiesAt j p := h.liesAt_of_le hkl (by omega) hj
  rcases (h.carries k).liesAt j p hnext with hbefore | ⟨-, hfree⟩
  · -- No two cells lie there, so it is the one that was dropped.
    obtain rfl := hp.eq_of_same hbefore
    exact hout (mem_liveCells_iff.2 ⟨p, hnext⟩)
  · exact hfree i hp

theorem livesOnce (h : Carried m op) (i : Nat) : LivesOnce m op i where
  born := by
    intro k hk hlt
    exact mem_liveCells_iff.2 ((h.carries k).made i hk hlt)
  stays := by
    intro k l p q hp hq
    rcases Nat.le_total k l with hkl | hkl
    · exact h.eq_of_liesAt_of_le hkl hp hq
    · exact (h.eq_of_liesAt_of_le hkl hq hp).symm
  written := by
    intro k hk hne
    exact (h.carries k).symbol i hk hne
  dropped := by
    intro k p hp hout
    have hlt := h.lt_of_liesAt hp
    have hn : ¬ (m (k + 1)).LiesAt i p := fun hq => hout (mem_liveCells_iff.2 ⟨p, hq⟩)
    obtain ⟨hblank, hhead⟩ := (h.carries k).dropped i p hp hn
    refine ⟨symbol?_of_blankAt hlt hblank, hhead, fun l hkl => ?_⟩
    have hmade : i < (m (k + 1)).chain.size := hlt.trans_le (h.size_le (Nat.le_succ k))
    obtain ⟨f, hf⟩ := h.intact l
    have hcut : (m l).CutOff i :=
      hf.cutOff (hmade.trans_le (h.size_le hkl)) (h.not_mem_of_le hkl hmade hout)
    have hloose := hf.loose i hcut.made fun q hq he =>
      h.not_mem_of_le hkl hmade hout (mem_liveCells_iff.2 ⟨q, hf.liesAt_iff.2 ⟨hq, he⟩⟩)
    exact ⟨hcut, hloose.symbol, fun j hj => h.size_le_of_liesAt hp hout hkl hj⟩

end Carried

/-- **Cells keep their identity, and those that are dropped stay out.**  Along the trail of
operations on the tape of a word, which passes the tape after each of them, every cell lives
once. -/
theorem cells_live_once (w : List Char) (ops : List Operation) :
    let t : Tape := ofWord w
    (∀ n, t.during ops (t.trail (ops.take n)).length = t.after (ops.take n)) ∧
      (∀ i < t.chain.size, i ∈ t.liveCells) ∧
      ∀ i, LivesOnce (t.during ops) (t.changing? ops) i := by
  intro t
  have h : ∃ f, t.Intact f := ⟨_, intact_ofWord w⟩
  refine ⟨during_length_trail h ops, fun i hi => ?_, (carried_during h ops).livesOnce⟩
  exact mem_liveCells_iff.2 ⟨i, liesAt_ofWord hi⟩

/-- When the head comes back to where a blank was dropped, it is on a new cell. -/
example :
    let t : Tape := (ofWord ['a']).after [.move (.int (-1))]
    let u := t.after [.move (.int 1)]
    let v := u.after [.move (.int (-1))]
    t.head = 1 ∧ u.liveCells = [0] ∧ u.chain.left? 1 = none ∧ u.chain.right? 1 = none ∧
      v.head = 2 ∧ v.position = t.position := by
  decide

end Tape

end TapeMachine
