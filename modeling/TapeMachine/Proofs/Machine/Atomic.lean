import TapeMachine.Proofs.Machine.Drivers
import TapeMachine.Proofs.Tape.Canonical
import TapeMachine.Proofs.Value.Agreement

/-!
# A step is all or nothing

A table made by hand may hold anything, so a step may come upon an entry that goes in no direction
or writes what is no symbol.  A symbol is a text of one code point, be it half a surrogate pair, so
the tapes here are tapes of code points.  `Machine.Keeps` says that a step does nothing but give its
result, and `Tape.WritesAndMoves` what becomes of a tape when a step is made: one position gets its
symbol, the head moves, and the live cells are again as few as they can be
(`Shows.writesAndMoves`).  There is nothing between the two: `step_all_or_nothing`.
-/

namespace TapeMachine

open TapeMachine.Text

namespace Direction

variable {v : Value} {d : Direction}

/-- A value names a direction if and only if it equals its offset. -/
theorem ofValue?_eq_some_iff : ofValue? v = some d ↔ v.same (.int d.offset) := by
  rw [Value.same_int_iff, ofValue?, Option.bind_eq_some_iff]
  simp only [ofOffset?_eq_some_iff, exists_eq_right]

theorem ofValue?_eq_none_iff : ofValue? v = none ↔ ∀ d : Direction, ¬ v.same (.int d.offset) := by
  rw [Option.eq_none_iff_forall_ne_some]
  simp [ofValue?_eq_some_iff]

end Direction

namespace Tape

variable {σ : Type} [Symbol σ] {t : Tape σ} {f : Int → Nat} {u : UnboundedTape σ}

/-- **What becomes of a tape when a symbol is written and the head moves**, as far as it can be
seen.  A head that stays leaves the ends where they are; one that goes leaves the smallest interval
with the head and all symbols but blanks, and on the way there no link is missing. -/
structure WritesAndMoves (t t' : Tape σ) (c : σ) (d : Direction) : Prop where
  contents : t'.contents = Function.update t.contents t.position c
  position : t'.position = t.position + d.offset
  stays : d = .stay → t'.firstPosition = t.firstPosition ∧ t'.lastPosition = t.lastPosition
  goes : d ≠ .stay →
    IsLeast {p | p = t'.position ∨ t'.contents p ≠ Symbol.ofChar blank} t'.firstPosition ∧
      IsGreatest {p | p = t'.position ∨ t'.contents p ≠ Symbol.ofChar blank} t'.lastPosition
  wellLinked : t'.WellLinked
  trimmable : ((t.write c).reach d).1.Trimmable

theorem Shows.writesAndMoves [LawfulBEq σ] (h : t.Shows f u) (c : σ) (d : Direction) :
    t.WritesAndMoves ((t.write c).move d).1 c d := by
  have hw := h.write c
  obtain ⟨g, hm⟩ := hw.move d
  obtain ⟨g', hr⟩ := hw.reach d
  exact
    { contents := by
        rw [hm.contents_eq, h.contents_eq, h.position_eq]
        rfl
      position := by
        rw [hm.position_eq, h.position_eq]
        rfl
      stays := by
        rintro rfl
        exact ⟨rfl, rfl⟩
      goes := by
        intro hd
        have ht := hw.trimmed_move hd
        exact ⟨hm.isLeast_firstPosition ht, hm.isGreatest_lastPosition ht⟩
      wellLinked := hm.wellLinked
      trimmable := hr.trimmable }

end Tape

namespace Machine

section

variable {σ : Type} [Symbol σ] {m : Machine σ} {t : Tape σ}

/-- **A step keeps the machine as it is** in every part of it, and gives a result. -/
def Keeps (m : Machine σ) (result : Except Fault Progress) : Prop :=
  m.step.result = result ∧ m.step.machine = m

theorem keeps_of_halted (ht : m.tape = some t) (hh : m.isHalted) : m.Keeps (.ok .halted) := by
  have hs : m.step = ⟨.ok .halted, m, []⟩ := by
    rw [step, ht]
    exact if_pos hh
  rw [Keeps, hs]
  exact ⟨rfl, rfl⟩

/-- A state that cannot be looked up is found out before anything else. -/
theorem keeps_of_asKey (ht : m.tape = some t) (hh : ¬ m.isHalted) {f : Value.Misuse}
    (hf : m.state.asKey = .error f) : m.Keeps (.error (.misuse f)) := by
  have hs : m.step = ⟨.error (.misuse f), m, []⟩ := by
    rw [step, ht]
    simp only [hh, situation, hf, Bool.false_eq_true, if_false]
    rfl
  rw [Keeps, hs]
  exact ⟨rfl, rfl⟩

/-- Once the state is looked up, a step is made by what the table says. -/
theorem step_of_isKey [LawfulSymbol σ] (ht : m.tape = some t) (hh : ¬ m.isHalted)
    (hkey : m.state.IsKey) :
    m.step = match m.table.lookup? ⟨m.state, Symbol.value t.read⟩ with
      | none => ⟨.ok .unmapped, m, []⟩
      | some a => m.take t a := by
  have hs : m.situation t = .ok ⟨m.state, Symbol.value t.read⟩ := by
    have hk : m.state.asKey = .ok m.state := hkey
    obtain ⟨text, htext⟩ := LawfulSymbol.value_eq_text t.read
    rw [situation, hk, htext]
    rfl
  rw [step, ht]
  cases ha : m.table.lookup? ⟨m.state, Symbol.value t.read⟩ <;>
    simp only [hh, hs, ha, Bool.false_eq_true, if_false]

end

theorem tape_startOn (startState endState : Value) (table : Table Situation Action)
    (word : RawText) :
    ((new startState endState table : Machine CodePoint).startOn (.text word)).machine.tape
      = some (Tape.ofWord word.points) := by
  rw [startOn, new]
  simp only [Tape.ofValue_rawText]

/-- **A step is all or nothing**, whatever is in the table and however the machine came where it is,
under the same table or another one.  If it has halted, its state cannot be looked up, the table has
no entry, the entry's direction is none of the three or its symbol is no text of one code point,
looked at in this order, the step reports that and keeps the machine as it is.  Otherwise it is
made: the symbol is written, the state is the next one, the head has moved, and one more step is
counted. -/
theorem step_all_or_nothing (startState endState : Value) (before table : Table Situation Action)
    (word : RawText) (calls : List Call) :
    let fresh : Machine CodePoint := new startState endState before
    let started := (fresh.startOn (.text word)).machine
    let m := { started.afterCalls calls with table := table }
    ∃ t, m.tape = some t ∧
      (m.isHalted → m.Keeps (.ok .halted)) ∧
      (¬ m.isHalted → ∀ f, m.state.asKey = .error f → m.Keeps (.error (.misuse f))) ∧
      (¬ m.isHalted → m.state.IsKey →
        (m.table.lookup? ⟨m.state, .ofPoint t.read⟩ = none → m.Keeps (.ok .unmapped)) ∧
        ∀ a, m.table.lookup? ⟨m.state, .ofPoint t.read⟩ = some a →
          ((∀ d : Direction, ¬ a.direction.same (.int d.offset)) →
            m.Keeps (.error (.notADirection a.direction))) ∧
          ∀ d : Direction, a.direction.same (.int d.offset) →
            ((∀ s p, RawText.points s = [p] → a.nextSymbol ≠ .text s) →
              m.Keeps (.error (.tape (.notASymbol a.nextSymbol)))) ∧
            ∀ s p, RawText.points s = [p] → a.nextSymbol = .text s →
              let n := m.step.machine
              m.step.result = .ok (if n.isHalted then .halted else .running) ∧
                n.state = a.nextState ∧ n.endState = m.endState ∧ n.table = m.table ∧
                n.stepCount = m.stepCount + 1 ∧
                ∃ t', n.tape = some t' ∧ t.WritesAndMoves t' p d) := by
  intro fresh started m
  have hstart := tape_startOn startState endState before word
  obtain ⟨k, hk, -⟩ := exists_walk_calls hstart (goesOn_zero _) calls
  obtain ⟨t, f, u, ht, hshows⟩ := exists_shows_afterSteps hstart (Tape.shows_ofWord word.points) k
  replace ht : m.tape = some t := (congrArg tape hk).trans ht
  refine ⟨t, ht, keeps_of_halted ht, fun hh f hf => keeps_of_asKey ht hh hf,
    fun hh hkey => ⟨fun ha => ?_, fun a ha => ?_⟩⟩
  · rw [Keeps, step_of_isKey ht hh hkey, Symbol.value_point, ha]
    exact ⟨rfl, rfl⟩
  have hstep : m.step = m.take t a := by rw [step_of_isKey ht hh hkey, Symbol.value_point, ha]
  rw [Keeps, hstep]
  rcases m.take_cases t a with ⟨hd, htake⟩ | ⟨d, hd, hsymbol⟩
  · rw [htake]
    refine ⟨fun _ => ⟨rfl, rfl⟩, fun d hd' => ?_⟩
    exact absurd hd' (Direction.ofValue?_eq_none_iff.1 hd d)
  refine ⟨fun hnone => absurd (Direction.ofValue?_eq_some_iff.1 hd) (hnone d), fun d' hd' => ?_⟩
  obtain rfl : d = d' := Option.some.inj (hd.symm.trans (Direction.ofValue?_eq_some_iff.2 hd'))
  simp only [Symbol.written?_point] at hsymbol
  rcases hsymbol with ⟨hp, htake⟩ | ⟨p, events, hp, htake⟩
  · rw [Keeps, hstep, htake]
    refine ⟨fun _ => ⟨rfl, rfl⟩, fun s p hs hs' => ?_⟩
    rw [Value.point?_eq_some_iff.2 ⟨s, hs, hs'⟩] at hp
    contradiction
  · refine ⟨fun hnone => ?_, fun s p' hs hs' => ?_⟩
    · obtain ⟨s, hs, hs'⟩ := Value.point?_eq_some_iff.1 hp
      exact absurd hs' (hnone s p hs)
    · obtain rfl : p = p' :=
        Option.some.inj (hp.symm.trans (Value.point?_eq_some_iff.2 ⟨s, hs, hs'⟩))
      rw [htake]
      exact ⟨rfl, rfl, rfl, rfl, rfl, _, rfl, hshows.writesAndMoves p d⟩

/-- Of a bad direction and a bad symbol the direction is reported. -/
example : ((new (.int 0) (.int 1)
    [(⟨.int 0, .ofSymbol 'a'⟩, ⟨.int 1, .text "ab", .int 2⟩)]).start "a").machine.step.result =
      .error (.notADirection (.int 2)) := by rfl

/-- Half a surrogate pair is written as any other code point. -/
example :
    let m := ((new (.int 0) (.int 1)
      [(⟨.int 0, .ofSymbol 'a'⟩, ⟨.int 1, .ofPoint (.half 0), .int 0⟩)] : Machine CodePoint).startOn
        (.text "a")).machine
    m.step.result = .ok .halted ∧ m.step.machine.tape.map Tape.symbols = some [.half 0] := by
  exact ⟨rfl, rfl⟩

end Machine

end TapeMachine
