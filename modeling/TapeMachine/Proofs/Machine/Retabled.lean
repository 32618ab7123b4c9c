import TapeMachine.Machine.Run
import TapeMachine.Proofs.Program.Grammar
import TapeMachine.Proofs.Value.Agreement

/-!
# Machines under another table

A machine reads its table by looking up where it is, and in no other way.  So it makes the same
step under a table that says the same of everything (`step_withTable`), and a run is the same but
for the table from one moment to the next and on from there (`Run.advance_withTable`,
`Run.drive_withTable`).

A value that nothing has checked matches at most one key of a table with different keys
(`Key.eq_of_situation_beq`).  So the order of the entries does not show when such a table is looked
up: `Table.lookup?_unchecked_of_perm`.
-/

namespace TapeMachine

/-! ### The order of entries -/

/-- Keys that match the same situation are the same. -/
theorem Key.eq_of_situation_beq {k l : Key} {s : Situation} (hk : k.situation == s)
    (hl : l.situation == s) : k = l := by
  obtain ⟨hstate, hsymbol⟩ := Bool.and_eq_true_iff.1 hk
  obtain ⟨hstate', hsymbol'⟩ := Bool.and_eq_true_iff.1 hl
  have hmatch : k.situation == l.situation := by
    refine Bool.and_eq_true_iff.2 ⟨?_, ?_⟩
    · rw [Value.agrees_iff_face? rfl] at hstate hstate' ⊢
      exact hstate'.symm.trans hstate
    · rw [Value.agrees_iff_face? rfl] at hsymbol hsymbol' ⊢
      exact hsymbol'.symm.trans hsymbol
  rwa [Key.situation_beq, beq_iff_eq] at hmatch

namespace Table

variable {κ α : Type} [BEq κ] {t t' : Table κ α} {k : κ} {a : α}

/-- What is found under a key that no two entries match is what the entry says that matches it. -/
theorem lookup?_eq_some_iff (h : t.Pairwise fun e e' => ¬ (e.1 == k ∧ e'.1 == k)) :
    t.lookup? k = some a ↔ ∃ e ∈ t, e.1 == k ∧ e.2 = a := by
  induction t with
  | nil => simp [lookup?_nil]
  | cons e rest ih =>
    obtain ⟨hfirst, hrest⟩ := List.pairwise_cons.1 h
    rw [lookup?_cons]
    by_cases he : e.1 == k
    · rw [if_pos he, Option.some.injEq]
      constructor
      · rintro rfl
        exact ⟨e, List.mem_cons_self .., he, rfl⟩
      · rintro ⟨e', hmem, he', rfl⟩
        rcases List.mem_cons.1 hmem with rfl | hmem
        · rfl
        · exact absurd ⟨he, he'⟩ (hfirst e' hmem)
    · rw [if_neg he, ih hrest, List.exists_mem_cons_iff]
      exact (or_iff_right fun h => he h.1).symm

theorem lookup?_of_perm (hperm : t.Perm t')
    (h : t.Pairwise fun e e' => ¬ (e.1 == k ∧ e'.1 == k)) : t'.lookup? k = t.lookup? k := by
  have h' := hperm.pairwise h fun hne hboth => hne ⟨hboth.2, hboth.1⟩
  apply Option.ext
  intro a
  rw [lookup?_eq_some_iff h, lookup?_eq_some_iff h']
  simp only [hperm.mem_iff]

/-- **The order of entries with different keys does not show**, whatever is looked up. -/
theorem lookup?_unchecked_of_perm {t t' : Table Key Move} (hperm : t.Perm t') (hkeys : t.KeysDiffer)
    (s : Situation) : t'.unchecked.lookup? s = t.unchecked.lookup? s := by
  refine lookup?_of_perm (hperm.map _) (List.pairwise_map.2 ?_)
  exact hkeys.imp fun hne hboth => hne (Key.eq_of_situation_beq hboth.1 hboth.2)

end Table

namespace Machine

variable {σ : Type} {m : Machine σ} {table : Table Situation Action}

/-! ### Machines -/

/-- The machine with a table in the place of its own. -/
def withTable (m : Machine σ) (table : Table Situation Action) : Machine σ :=
  { m with table := table }

/-- What comes of an operation, with another table in the machine. -/
def Outcome.withTable {α : Type} (o : Outcome α σ) (table : Table Situation Action) :
    Outcome α σ :=
  { o with machine := o.machine.withTable table }

/-- **A table says the same as another** of whatever is looked up. -/
def SaysSame (table table' : Table Situation Action) : Prop :=
  ∀ s, table'.lookup? s = table.lookup? s

variable [Symbol σ]

theorem take_withTable (m : Machine σ) (t : Tape σ) (a : Action) :
    (m.withTable table).take t a = (m.take t a).withTable table := by
  rw [take, take]
  cases Direction.ofValue? a.direction with
  | none => rfl
  | some d =>
    dsimp only
    cases (Symbol.written? a.nextSymbol : Option σ) <;> rfl

/-- **A step is the same under a table that says the same**, but for the table. -/
theorem step_withTable (h : SaysSame m.table table) :
    (m.withTable table).step = m.step.withTable table := by
  unfold step
  cases ht : m.tape with
  | none =>
    have ht' : (m.withTable table).tape = none := ht
    rw [ht']
    rfl
  | some t =>
    have ht' : (m.withTable table).tape = some t := ht
    have hh : (m.withTable table).isHalted = m.isHalted := rfl
    have hsituation : (m.withTable table).situation t = m.situation t := rfl
    rw [ht']
    dsimp only
    rw [hh, hsituation]
    by_cases hhalted : m.isHalted
    · rw [if_pos hhalted, if_pos hhalted]
      rfl
    rw [if_neg hhalted, if_neg hhalted]
    cases m.situation t with
    | error f => rfl
    | ok s =>
      have hs : (m.withTable table).table.lookup? s = m.table.lookup? s := h s
      dsimp only
      rw [hs]
      cases m.table.lookup? s with
      | none => rfl
      | some a => exact m.take_withTable t a

theorem announcement?_withTable (h : SaysSame m.table table) :
    (m.withTable table).announcement? = m.announcement? := by
  have hlookup : ∀ s, (m.withTable table).table.lookup? s = m.table.lookup? s := h
  simp only [announcement?, hlookup]
  rfl

theorem stepTo_withTable (h : SaysSame m.table table) (heard : Bool) :
    (m.withTable table).stepTo heard = (m.stepTo heard).withTable table := by
  rw [stepTo, stepTo, untold?, announcement?_withTable h, step_withTable h, untold?]
  cases heard with
  | false => rfl
  | true => cases m.announcement?.bind Log.Event.untold? <;> rfl

theorem startTo_withTable (m : Machine σ) (heard : Bool) (word : Value) :
    (m.withTable table).startTo heard word = (m.startTo heard word).withTable table := by
  have hstart : (m.withTable table).startOn word = (m.startOn word).withTable table := by
    obtain ⟨state, endState, table', tape, stepCount⟩ := m
    cases tape with
    | some t => rfl
    | none =>
      simp only [startOn, withTable]
      cases (Tape.ofValue word : Except Tape.Fault (Tape σ)) <;> rfl
  have hstate : (m.withTable table).state = m.state := rfl
  rw [startTo, startTo, hstart, hstate]
  dsimp only [Outcome.withTable]
  split <;> rfl

/-- A start keeps the table: it is the same under it. -/
theorem startTo_table (m : Machine σ) (heard : Bool) (word : Value) :
    (m.startTo heard word).machine.table = m.table := by
  have hsame : m.startTo heard word = (m.startTo heard word).withTable m.table :=
    startTo_withTable m heard word
  rw [hsame]
  rfl

/-! ### Runs -/

namespace Run

variable {r : Run σ}

/-- The run with a table in the place of its machine's own. -/
def withTable (r : Run σ) (table : Table Situation Action) : Run σ :=
  { r with machine := r.machine.withTable table }

omit [Symbol σ] in
theorem halt_withTable (r : Run σ) (c : Configuration σ) :
    (r.withTable table).halt c = (r.halt c).withTable table := by
  have hreport : (r.withTable table).reportFault? = r.reportFault? := rfl
  rw [halt, halt, hreport]
  dsimp only [withTable, Machine.withTable]
  split <;> rfl

theorem proceed_withTable (h : SaysSame r.machine.table table) (c : Configuration σ) :
    (r.withTable table).proceed c = (r.proceed c).withTable table := by
  have hh : (r.withTable table).machine.isHalted = r.machine.isHalted := rfl
  have hlimit : limitReached (r.withTable table).limit (r.withTable table).machine.stepCount
      = limitReached r.limit r.machine.stepCount := rfl
  have hstep : (r.withTable table).machine.stepTo (r.withTable table).heard
      = (r.machine.stepTo r.heard).withTable table := stepTo_withTable h r.heard
  rw [proceed, proceed, hh, hlimit, hstep]
  by_cases hhalted : r.machine.isHalted
  · rw [if_pos hhalted, if_pos hhalted]
    exact r.halt_withTable c
  rw [if_neg hhalted, if_neg hhalted]
  cases limitReached r.limit r.machine.stepCount with
  | error f => rfl
  | ok reached =>
    cases reached with
    | true => rfl
    | false => rfl

theorem advance_withTable (h : SaysSame r.machine.table table) :
    (r.withTable table).advance = r.advance.withTable table := by
  have hending : (r.withTable table).ending = r.ending := rfl
  have hconfiguration : (r.withTable table).machine.configuration = r.machine.configuration := rfl
  rw [advance, advance, hending, hconfiguration]
  cases r.ending with
  | some e => rfl
  | none =>
    cases r.machine.configuration with
    | error f => rfl
    | ok c =>
      have hemit : (r.withTable table).emitFault? c = r.emitFault? c := rfl
      dsimp only
      rw [hemit]
      cases r.emitFault? c with
      | some f => rfl
      | none =>
        exact proceed_withTable (r := { r with emitted := c :: r.emitted, ending := none }) h c

/-- A run keeps its table: it is the same under it. -/
theorem advance_table (r : Run σ) : r.advance.machine.table = r.machine.table := by
  have h : SaysSame r.machine.table r.machine.table := fun _ => rfl
  have hsame : r.advance = r.advance.withTable r.machine.table := advance_withTable h
  rw [hsame]
  rfl

/-- **A run is the same under a table that says the same**, at every moment. -/
theorem drive_withTable (h : SaysSame r.machine.table table) (moments : Nat) :
    drive moments (r.withTable table) = (drive moments r).withTable table := by
  induction moments generalizing r with
  | zero => rfl
  | succ n ih => rw [drive_succ, drive_succ, advance_withTable h, ih (r.advance_table ▸ h)]

/-- **From its start on a run is the same under a table that says the same**, but for the table. -/
theorem drive_startTo_withTable (h : SaysSame m.table table) (word limit : Value)
    (traced heard : Bool) (moments : Nat) :
    drive moments (ofStart ((m.withTable table).startTo heard word) limit traced heard) =
      (drive moments (ofStart (m.startTo heard word) limit traced heard)).withTable table := by
  have hstart :
      SaysSame (ofStart (m.startTo heard word) limit traced heard).machine.table table := by
    intro s
    rw [h s, ← m.startTo_table heard word]
    rfl
  rw [startTo_withTable]
  exact drive_withTable hstart moments

end Run

end Machine

end TapeMachine
