import TapeMachine.Tape.Symbol

/-!
# Configurations

A configuration is a snapshot of a machine: its state, the live cells, which
of them is under the head, where the first one lies, and the number of steps
made.  Its line shows the cells between two blanks and dots, with the state in
brackets before the cell under the head.  A `LooseConfiguration` is one made by
hand, with parts that nothing has checked.
-/

namespace TapeMachine

open TapeMachine.Text

/-- A snapshot of a machine.  `head` counts the cells to the left of the head. -/
structure Configuration (σ : Type := Char) where
  state : Value
  cells : List σ
  head : Int
  firstPosition : Int
  step : Int

namespace Configuration

/-- The position of the head. -/
def headPosition {σ : Type} (c : Configuration σ) : Int := c.firstPosition + c.head

/-- A state in brackets. -/
def marker (state : Value) : List Char := '[' :: (state.plainChars ++ [']'])

/-- Cells with the marker before the one with the given index, if there is one. -/
def markedCells (state : Value) : (head : Int) → List Char → List Char
  | _, [] => []
  | head, s :: rest =>
    (if head = 0 then marker state else []) ++ s :: markedCells state (head - 1) rest

/-- The line of a configuration. -/
def chars (c : Configuration) : List Char :=
  "...B".toList ++ markedCells c.state c.head c.cells ++ "B...".toList

/-- The line of a configuration, as a string. -/
def line (c : Configuration) : String := String.ofList c.chars

end Configuration

/-- A configuration of which nothing has been checked. -/
structure LooseConfiguration where
  state : Value
  cells : List Value
  head : Value
  firstPosition : Value
  step : Value

namespace LooseConfiguration

/-- The pieces of the line: those before the cells, the cells from an index on with the marker
before the one under the head, and those behind them. -/
def pieces (c : LooseConfiguration) : List Value :=
  .text "..." :: .text "B" :: (cellPieces 0 c.cells ++ [.text "B", .text "..."])
where
  /-- The cells from an index on with the marker among them. -/
  cellPieces (index : Nat) : List Value → List Value
    | [] => []
    | v :: rest =>
      (if (Value.int index).same c.head then [.text (String.ofList (Configuration.marker c.state))]
        else []) ++ v :: cellPieces (index + 1) rest

/-- Why an unchecked configuration has no line: its first cell that holds no text. -/
def lineFault? (c : LooseConfiguration) : Option Value.Misuse := Value.joinFault? c.pieces

/-- The line of an unchecked configuration, all cells of which must be texts. -/
def line (c : LooseConfiguration) : Except Value.Misuse String := Value.joinTexts c.pieces

/-- The position of the head of an unchecked configuration. -/
def headPosition (c : LooseConfiguration) : Except Value.Misuse Value := c.firstPosition.plus c.head

/-- All parts of an unchecked configuration by name. -/
def describe (c : LooseConfiguration) : String :=
  "Configuration(state=" ++ c.state.shown ++ ", cells=" ++ Value.tuple c.cells ++
    ", head=" ++ c.head.shown ++ ", first_position=" ++ c.firstPosition.shown ++
    ", step=" ++ c.step.shown ++ ")"

/-- Whether two unchecked configurations have matching parts. -/
def same (c d : LooseConfiguration) : Bool :=
  c.state.agrees d.state && Value.sameItems c.cells d.cells && c.head.agrees d.head &&
    c.firstPosition.agrees d.firstPosition && c.step.agrees d.step

/-- Which of some unchecked configurations are equal to which. -/
def equalities (cs : List LooseConfiguration) : List (List Bool) :=
  cs.map fun c => cs.map c.same

end LooseConfiguration

namespace Configuration

/-- A configuration with its parts as values. -/
def loose {σ : Type} [Symbol σ] (c : Configuration σ) : LooseConfiguration :=
  ⟨c.state, c.cells.map Symbol.value, .int c.head, .int c.firstPosition, .int c.step⟩

/-- All parts of a configuration by name. -/
def describe {σ : Type} [Symbol σ] (c : Configuration σ) : String := c.loose.describe

open LooseConfiguration in
theorem firstOther?_cellPieces {σ : Type} [Symbol σ] [LawfulSymbol σ] (c : LooseConfiguration)
    (cs : List σ) (index start : Nat) (rest : List Value)
    (h : ∀ n, Value.firstOther? n rest = none) :
    Value.firstOther? start (pieces.cellPieces c index (cs.map Symbol.value) ++ rest) = none := by
  induction cs generalizing index start with
  | nil => exact h start
  | cons s cs ih =>
    obtain ⟨text, htext⟩ := LawfulSymbol.value_eq_text s
    by_cases hs : (Value.int index).same c.head <;>
      simp [pieces.cellPieces, hs, Value.firstOther?, htext, ih]

theorem lineFault?_loose {σ : Type} [Symbol σ] [LawfulSymbol σ] (c : Configuration σ) :
    c.loose.lineFault? = none := by
  have h := firstOther?_cellPieces c.loose c.cells 0 2 [.text "B", .text "..."]
    (fun _ => rfl)
  simpa [LooseConfiguration.lineFault?, LooseConfiguration.pieces, Value.joinFault?,
    Value.firstOther?, loose] using h

/-- A configuration the symbols of which are texts has a line. -/
theorem exists_line {σ : Type} [Symbol σ] [LawfulSymbol σ] (c : Configuration σ) :
    ∃ line, c.loose.line = .ok line := by
  have hf : Value.joinFault? c.loose.pieces = none := c.lineFault?_loose
  exact ⟨_, by rw [LooseConfiguration.line, Value.joinTexts, hf]⟩

open LooseConfiguration in
theorem join_cellPieces (c : Configuration) (cs : List Char) (index : Nat) (rest : List Value) :
    String.join ((pieces.cellPieces c.loose index (cs.map Value.ofSymbol) ++ rest).map Value.plain)
      = String.ofList (markedCells c.state (c.head - index) cs)
        ++ String.join (rest.map Value.plain) := by
  induction cs generalizing index with
  | nil => simp [pieces.cellPieces, markedCells]
  | cons s cs ih =>
    have hs : (c.head - index = 0) ↔ (index : Int) = c.head := by omega
    have hstep : c.head - ((index + 1 : Nat) : Int) = c.head - index - 1 := by omega
    have ih := ih (index + 1)
    rw [hstep] at ih
    apply String.toList_inj.1
    by_cases h : (index : Int) = c.head <;>
      simp_all [pieces.cellPieces, markedCells, loose, Value.plain, Value.plainChars,
        Value.ofSymbol, Text.RawText.printed]

/-- A configuration of characters always has a line. -/
theorem line_loose (c : Configuration) : c.loose.line = .ok c.line := by
  have hf : Value.joinFault? c.loose.pieces = none := c.lineFault?_loose
  have h := join_cellPieces c c.cells 0 [.text "B", .text "..."]
  simp only [LooseConfiguration.line, Value.joinTexts, hf]
  congr 1
  apply String.toList_inj.1
  have h := congrArg String.toList h
  have hchar (s : String) : (Value.text s).plain = s := by
    simp [Value.plain, Value.plainChars, RawText.printed]
  simp [loose, hchar] at h
  simp [LooseConfiguration.pieces, line, chars, loose, hchar, h]

end Configuration

end TapeMachine
