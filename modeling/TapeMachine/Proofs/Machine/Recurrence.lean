import TapeMachine.Proofs.Machine.Path
import TapeMachine.Proofs.Tape.Translation
import TapeMachine.Proofs.Value.Agreement

/-!
# Machines that come to look as before

A configuration **resembles** another if their states match, and their cells and what is under
the head are the same, wherever the cells lie (`Configuration.Resembles`).  A machine that shows
it is the other one with its tape translated (`Machine.Translates`), and a step leads such
machines on to such machines, since it looks at nothing but the state and the symbol under the
head (`Translates.step`).  Hence a machine that comes to look as before goes through the
same again and again, each time as far from the last, and never stops (`repeats_forever`).
-/

namespace TapeMachine

/-- **Two configurations look alike**, wherever on the tape their cells lie. -/
structure Configuration.Resembles (c d : Configuration) : Prop where
  state : c.state.agrees d.state
  cells : c.cells = d.cells
  head : c.head = d.head

namespace Machine

variable {m m' : Machine} {t t' : Tape} {δ : Int} {i j k : Nat}

/-! ### Translated machines -/

theorem situation_eq_ok_iff {s : Situation} : m.situation t = .ok s ↔
    s = ⟨m.state, .ofSymbol t.read⟩ ∧ ∃ a, m.state.face? = some a := by
  cases hk : m.state.asKey with
  | error f =>
    have hnone : ¬ ∃ a, m.state.face? = some a := by
      intro ha
      rw [Value.asKey_eq_ok_iff.2 ⟨rfl, ha⟩] at hk
      contradiction
    simp [situation, hk, hnone, bind, Except.bind]
  | ok v =>
    obtain ⟨rfl, ha⟩ := Value.asKey_eq_ok_iff.1 hk
    have hs : m.situation t = .ok ⟨m.state, .ofSymbol t.read⟩ := by
      rw [situation, hk]
      rfl
    rw [hs, Except.ok.injEq]
    exact ⟨fun h => ⟨h.symm, ha⟩, fun h => h.1.symm⟩

/-- A table says the same of states with the same face. -/
theorem lookup?_congr (table : Table Situation Action) {v w : Value} {a : Value.Face}
    (hv : v.face? = some a) (hw : w.face? = some a) (symbol : Value) :
    table.lookup? ⟨v, symbol⟩ = table.lookup? ⟨w, symbol⟩ := by
  have hpred : (fun e : Situation × Action => e.1 == ⟨v, symbol⟩) =
      fun e => e.1 == ⟨w, symbol⟩ := by
    funext e
    show (e.1.state.agrees v && _) = (e.1.state.agrees w && _)
    rw [Value.agrees_comm hv, Value.agrees_comm hw, Value.agrees_congr hv hw]
  rw [Table.lookup?, Table.lookup?, hpred]

/-- **A machine translates to another**: their tapes do, and they are in the same state and go by
the same table. -/
structure Translates (m m' : Machine) (δ : Int) : Prop where
  state : m'.state = m.state ∨ m.state.agrees m'.state
  endState : m'.endState = m.endState
  table : m'.table = m.table
  tape : ∃ t t', m.tape = some t ∧ m'.tape = some t' ∧ t.Translates t' δ

namespace Translates

theorem face?_eq (h : m.Translates m' δ) {a : Value.Face} (ha : m.state.face? = some a) :
    m'.state.face? = some a := by
  rcases h.state with hs | hs
  · rw [hs, ha]
  · exact (Value.agrees_iff_face? ha).1 hs

/-- **Where a machine goes on, those to which it translates go on alike.** -/
theorem step (h : m.Translates m' δ) (he : m.ending? = none) :
    m'.ending? = none ∧ m.step.machine.Translates m'.step.machine δ := by
  obtain ⟨t, t', ht, ht', htt⟩ := h.tape
  obtain ⟨hh, s, a, c, d, events, hs, ha, hd, hc, hstep⟩ := exists_step_of_goesOn ht he
  obtain ⟨rfl, face, hface⟩ := situation_eq_ok_iff.1 hs
  have hface' := h.face?_eq hface
  have hh' : ¬ m'.isHalted := by
    rwa [isHalted, h.endState, ← Value.same_congr hface hface']
  have ha' : m'.table.lookup? ⟨m'.state, .ofSymbol t'.read⟩ = some a := by
    rw [h.table, htt.read_eq, ← lookup?_congr m.table hface hface']
    exact ha
  obtain ⟨he', events', hstep'⟩ :=
    step_of_action ht' hh' (situation_eq_ok_iff.2 ⟨rfl, face, hface'⟩) ha' hd hc
  refine ⟨he', ?_⟩
  rw [hstep, hstep']
  exact ⟨.inl rfl, h.endState, h.table, _, _, rfl, rfl, (htt.write c).move d⟩

/-- Translated machines show configurations that look alike, at the distance of the
translation. -/
theorem resembles (h : m.Translates m' δ) (he : m.ending? = none) {c c' : Configuration}
    (hc : m.configuration = .ok c) (hc' : m'.configuration = .ok c') :
    c.Resembles c' ∧ c'.firstPosition - c.firstPosition = δ := by
  obtain ⟨t, t', ht, ht', htt⟩ := h.tape
  obtain ⟨-, s, a, x, d, events, hs, -, -, -, -⟩ := exists_step_of_goesOn ht he
  obtain ⟨-, face, hface⟩ := situation_eq_ok_iff.1 hs
  obtain rfl := Except.ok.inj ((configuration_of_tape ht).symm.trans hc)
  obtain rfl := Except.ok.inj ((configuration_of_tape ht').symm.trans hc')
  refine ⟨⟨(Value.agrees_iff_face? hface).2 (h.face?_eq hface), htt.symbols_eq.symm, ?_⟩, ?_⟩
  · exact congrArg Int.ofNat htt.headIndex_eq.symm
  · show t'.firstPosition - t.firstPosition = δ
    rw [htt.firstPosition]
    omega

/-- **A machine that comes to a translation of itself goes on for ever**, and whatever it comes to,
it comes to the translation of that as well. -/
theorem recurs (h : (m.afterSteps i).Translates (m.afterSteps j) δ) (hij : i < j)
    (hj : m.GoesOn j) (k : Nat) :
    m.GoesOn (j + k) ∧ (m.afterSteps (i + k)).Translates (m.afterSteps (j + k)) δ := by
  induction k with
  | zero => exact ⟨hj, h⟩
  | succ k ih =>
    obtain ⟨hgo, htrans⟩ := ih
    obtain ⟨he, hstep⟩ := htrans.step (hgo (i + k) (by omega))
    refine ⟨goesOn_succ_iff.2 ⟨hgo, he⟩, ?_⟩
    rw [← Nat.add_assoc, ← Nat.add_assoc, afterSteps_succ, afterSteps_succ]
    exact hstep

end Translates

/-- Machines on one path whose configurations look alike are translated ones. -/
theorem translates_of_resembles (ht : m.tape = some t) {f : Int → Nat} {u : UnboundedTape}
    (hs : t.Shows f u) {c d : Configuration} (hc : (m.afterSteps i).configuration = .ok c)
    (hd : (m.afterSteps j).configuration = .ok d) (h : c.Resembles d) :
    (m.afterSteps i).Translates (m.afterSteps j) (d.firstPosition - c.firstPosition) := by
  obtain ⟨t₁, f₁, u₁, ht₁, hs₁⟩ := exists_shows_afterSteps ht hs i
  obtain ⟨t₂, f₂, u₂, ht₂, hs₂⟩ := exists_shows_afterSteps ht hs j
  obtain ⟨hend₁, htable₁⟩ := table_afterSteps ht i
  obtain ⟨hend₂, htable₂⟩ := table_afterSteps ht j
  obtain rfl := Except.ok.inj ((configuration_of_tape ht₁).symm.trans hc)
  obtain rfl := Except.ok.inj ((configuration_of_tape ht₂).symm.trans hd)
  exact
    { state := .inr h.state
      endState := hend₂.trans hend₁.symm
      table := htable₂.trans htable₁.symm
      tape := ⟨t₁, t₂, ht₁, ht₂, hs₁.translates hs₂ h.cells.symm (Int.ofNat.inj h.head).symm⟩ }

/-! ### Runs -/

/-- **A run that comes to look as before never stops.**  From two moments at which it looks alike,
it goes on without limit and looks alike at any two moments as far from these, each time moved by
the same distance.  It comes neither to its end state nor to where its table says nothing, and
only a step limit can end it. -/
theorem repeats_forever (startState endState : Value) (table : Table Situation Action)
    (word : String) (limit : Option Int) (traced : Bool) (moments : Nat) {i j : Nat} (hij : i < j)
    {c d : Configuration} :
    let m := ((new startState endState table : Machine).start word).machine
    let r := fun limit moments => Run.drive moments
      (.ofStart ((new startState endState table : Machine).start word) (limitValue limit) traced
        false)
    (r limit moments).configurations[i]? = some c →
    (r limit moments).configurations[j]? = some d → c.Resembles d →
      (∀ k, j + k < (r none (j + k + 1)).configurations.length) ∧
      (∀ limit moments k c' d', (r limit moments).configurations[i + k]? = some c' →
        (r limit moments).configurations[j + k]? = some d' →
          c'.Resembles d' ∧
            d'.firstPosition - c'.firstPosition = d.firstPosition - c.firstPosition) ∧
      (∀ k, (m.afterSteps k).step.result = .ok .running) ∧
      ∀ limit moments, (r limit moments).ending = none ∨
        ∃ n, limit = some n ∧ (r limit moments).ending = some (.error (.stepLimit (.int n))) := by
  intro m r hc hd h
  have ht : m.tape = some (Tape.ofWord word.toList) := tape_start ..
  have hpath := fun limit => Run.onPath_ofStart startState endState table word limit traced
  obtain ⟨-, hc⟩ := (hpath limit).goesOn_of_emitted ht hc
  obtain ⟨hj, hd⟩ := (hpath limit).goesOn_of_emitted ht hd
  have htrans := translates_of_resembles ht (Tape.shows_ofWord word.toList) hc hd h
  -- However long the path is to go on, the translated machines have come further.
  have hgo : ∀ k, (m.afterSteps k).ending? = none := fun k =>
    (htrans.recurs hij hj (k + 1)).1 k (by omega)
  refine ⟨fun k => ?_, fun limit moments k c' d' hc' hd' => ?_, fun k => ?_,
    fun limit moments => ?_⟩
  · obtain ⟨c', hconf⟩ := exists_configuration ht (j + k)
    obtain ⟨hsome, -⟩ := (hpath none).unlimited ht (fun l _ => hgo l) hconf
    exact (List.getElem?_eq_some_iff.1 hsome).1
  · obtain ⟨-, hc'⟩ := (hpath limit).goesOn_of_emitted ht hc'
    obtain ⟨-, hd'⟩ := (hpath limit).goesOn_of_emitted ht hd'
    exact (htrans.recurs hij hj k).2.resembles (hgo (i + k)) hc' hd'
  · obtain ⟨t, ht'⟩ := exists_tape_afterSteps ht k
    obtain ⟨-, s, a, x, e, events, -, -, -, -, hs⟩ := exists_step_of_goesOn ht' (hgo k)
    have hnext := hgo (k + 1)
    rw [afterSteps_succ, hs] at hnext
    rw [hs]
    have hh : ¬ ((m.afterSteps k).moved t a.nextState x e).isHalted := fun hh => by
      rw [ending?_eq_ok_iff.2 hh] at hnext
      contradiction
    simp [hh]
  · rcases (hpath limit).drive ht moments with hr | ⟨k, -, hr⟩
    · exact .inl hr.ending
    · obtain ⟨e, he, hends⟩ := hr.ending
      cases hends with
      | halted h _ => rw [hgo k] at h; contradiction
      | fault h _ => rw [hgo k] at h; contradiction
      | limit _ hn _ => exact .inr ⟨_, hn, he⟩

/-- The table of a machine that turns an `a` into a blank and goes to the right for ever. -/
def driftTable : Table Situation Action :=
  [(⟨.int 0, .ofSymbol 'a'⟩, ⟨.int 0, .ofSymbol 'B', .int 1⟩),
    (⟨.int 0, .ofSymbol 'B'⟩, ⟨.int 0, .ofSymbol 'B', .int 1⟩)]

/-- Once the `a` is gone, the drifting machine looks the same at every step. -/
theorem repeats_forever_drifting :
    ∃ c d, ((new (.int 0) (.int 1) driftTable).run "a" (some 2) 3).configurations[1]? = some c ∧
      ((new (.int 0) (.int 1) driftTable).run "a" (some 2) 3).configurations[2]? = some d ∧
      c.Resembles d ∧ d.firstPosition - c.firstPosition = 1 ∧ ∀ k, 2 + k <
        ((new (.int 0) (.int 1) driftTable).run "a" none (2 + k + 1)).configurations.length := by
  have hrun : ((new (.int 0) (.int 1) driftTable).run "a" (some 2) 3).configurations
      = [⟨.int 0, ['a'], 0, 0, 0⟩, ⟨.int 0, ['B'], 0, 1, 1⟩, ⟨.int 0, ['B'], 0, 2, 2⟩] := by rfl
  have hc := congrArg (·[1]?) hrun
  have hd := congrArg (·[2]?) hrun
  have h : Configuration.Resembles ⟨.int 0, ['B'], 0, 1, 1⟩ ⟨.int 0, ['B'], 0, 2, 2⟩ :=
    ⟨by decide, rfl, rfl⟩
  obtain ⟨hlong, -⟩ := repeats_forever (.int 0) (.int 1) driftTable "a" (some 2) true 3
    (by decide : 1 < 2) hc hd h
  exact ⟨_, _, hc, hd, h, rfl, hlong⟩

end Machine

end TapeMachine
