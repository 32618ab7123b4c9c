import TapeMachine.Direction
import TapeMachine.Value.Operation

/-!
# Transition tables

A table maps a state and a symbol to what the machine does there.  Its entries
are kept in the order in which their keys came; an entry that is put again
keeps its place.  A table made by hand has unchecked keys and actions
(`Situation`, `Action`), a table read from a program has checked ones (`Key`,
`Move`).
-/

namespace TapeMachine

/-- A state and the symbol under the head. -/
structure Key where
  state : Int
  symbol : Char
  deriving DecidableEq, Repr

/-- A state and a symbol that nothing has checked. -/
structure Situation where
  state : Value
  symbol : Value

/-- Situations are the same if their states and their symbols match as values. -/
instance : BEq Situation := ⟨fun a b => a.state.agrees b.state && a.symbol.agrees b.symbol⟩

/-- A key as a situation. -/
def Key.situation (k : Key) : Situation := ⟨.int k.state, .ofSymbol k.symbol⟩

theorem Key.situation_beq (k l : Key) : (k.situation == l.situation) = (k == l) := by
  change (((Value.int k.state).agrees (.int l.state)) &&
    ((Value.ofSymbol k.symbol).agrees (.ofSymbol l.symbol))) = (k == l)
  rw [Value.agrees_int, Value.agrees_ofSymbol, Bool.eq_iff_iff]
  cases k
  cases l
  simp

/-- An unchecked action: what it writes and where it goes is looked at when it is taken. -/
structure Action where
  nextState : Value
  nextSymbol : Value
  direction : Value

/-- A checked action. -/
structure Move where
  nextState : Int
  nextSymbol : Char
  direction : Direction
  deriving DecidableEq, Repr

/-- The action that makes a move. -/
def Move.action (m : Move) : Action :=
  ⟨.int m.nextState, .ofSymbol m.nextSymbol, .int m.direction.offset⟩

/-- The symbol that an action writes and the direction in which it goes, if both are valid. -/
def Action.effect? (a : Action) : Option (Char × Direction) := do
  let d ← Direction.ofValue? a.direction
  let s ← a.nextSymbol.symbol?
  return (s, d)

theorem Move.effect?_action (m : Move) : m.action.effect? = some (m.nextSymbol, m.direction) := by
  simp [action, Action.effect?, Direction.ofValue?, Value.integer?, Value.symbol?_ofSymbol,
    Direction.ofOffset?_offset]

/-- Entries in order, no key twice. -/
abbrev Table (κ α : Type) := List (κ × α)

namespace Table

variable {κ α : Type} [BEq κ]

/-- What is entered under a key. -/
def lookup? (t : Table κ α) (k : κ) : Option α := (t.find? fun e => e.1 == k).map (·.2)

/-- Enter something under a key: in its place if there is one, else at the end. -/
def put (t : Table κ α) (k : κ) (a : α) : Table κ α :=
  match t with
  | [] => [(k, a)]
  | e :: rest => if e.1 == k then (e.1, a) :: rest else e :: put rest k a

/-- The table without a key. -/
def remove (t : Table κ α) (k : κ) : Table κ α := t.filter fun e => !(e.1 == k)

/-- The table with the entries of a list put one after another. -/
def ofList (entries : List (κ × α)) : Table κ α :=
  entries.foldl (fun t e => put t e.1 e.2) []

theorem lookup?_nil (k : κ) : lookup? ([] : Table κ α) k = none := rfl

theorem lookup?_cons (e : κ × α) (rest : Table κ α) (k : κ) :
    lookup? (e :: rest) k = if e.1 == k then some e.2 else lookup? rest k := by
  by_cases h : e.1 == k <;> simp [lookup?, h]

theorem lookup?_put [LawfulBEq κ] [DecidableEq κ] (t : Table κ α) (k k' : κ) (a : α) :
    lookup? (put t k a) k' = if k = k' then some a else lookup? t k' := by
  induction t with
  | nil => simp [put, lookup?_cons, lookup?_nil]
  | cons e rest ih =>
    by_cases he : e.1 = k
    · by_cases h : e.1 = k' <;> simp_all [put, lookup?_cons]
    · by_cases h : e.1 = k'
      · have hk : ¬ k = k' := fun hk => he (h.trans hk.symm)
        have hk' : ¬ k' = k := fun h' => hk h'.symm
        simp [put, hk, hk', lookup?_cons, h]
      · simp [put, he, lookup?_cons, h, ih]

end Table

/-- A checked table as a table made by hand. -/
def Table.unchecked (t : Table Key Move) : Table Situation Action :=
  t.map fun e => (e.1.situation, e.2.action)

theorem Table.lookup?_unchecked (t : Table Key Move) (k : Key) :
    t.unchecked.lookup? k.situation = (t.lookup? k).map Move.action := by
  induction t with
  | nil => rfl
  | cons e rest ih =>
    have hcons : Table.unchecked (e :: rest)
        = (e.1.situation, e.2.action) :: Table.unchecked rest := rfl
    rw [hcons, lookup?_cons, lookup?_cons, Key.situation_beq, ih]
    by_cases h : e.1 == k <;> simp [h]

end TapeMachine
