import TapeMachine.Chain
import TapeMachine.Direction
import TapeMachine.Tape.Symbol

/-!
# The tape

A tape is unbounded, but only a live extent of it is kept: a chain of cells
from `first` to `last` with the head on one of them.  It grows by one blank
cell when the head walks off an end, and after every move the blank cells at
the ends are dropped one at a time until the head or a symbol is met
(`trim`).  Positions count from the first character of the input word, so a
cell keeps its position for good.

Growing and dropping are reported as events; the live extent at any time can
be told from them.
-/

namespace TapeMachine

/-- The live extent of a tape and its head: names of cells and their positions.  `inDecimals` says
whether the head was ever moved by an offset given as a decimal; its position is then shown as
one. -/
structure Tape (σ : Type := Char) where
  chain : Chain σ
  first : Nat
  last : Nat
  head : Nat
  firstPosition : Int
  lastPosition : Int
  position : Int
  inDecimals : Bool
  deriving DecidableEq, Repr

namespace Tape

/-- A change of the live extent, with the position of the cell that came or went. -/
inductive Event
  | grewRight (position : Int)
  | grewLeft (position : Int)
  | dropped (position : Int)
  deriving DecidableEq, Repr

/-- Why the tape refuses an unchecked value. -/
inductive Fault
  | notASymbol (v : Value)
  | notADirection (v : Value)
  | notAWord (f : Value.Misuse)

/-- What is said of a refused value. -/
def Fault.message : Fault → String
  | .notASymbol v => "Tape symbols must be single characters, got " ++ v.shown
  | .notADirection v => "Invalid direction: " ++ v.shown
  | .notAWord f => f.message

variable {σ : Type}

/-- The chain with one more cell, linked behind the cell made last. -/
def appendCell (c : Chain σ) (s : σ) : Chain σ :=
  let n := c.size
  (c.make s).link (n - 1) n

/-- The number of live cells. -/
def length (t : Tape σ) : Nat := (t.lastPosition - t.firstPosition + 1).toNat

/-- Write a symbol under the head. -/
def write (t : Tape σ) (s : σ) : Tape σ := { t with chain := t.chain.setSymbol t.head s }

/-- The live cells from left to right, as far as right links lead before `last`. -/
def liveCells (t : Tape σ) : List Nat := upTo t.last (t.chain.rightward t.chain.size t.first)
where
  /-- The cells up to and with a given one. -/
  upTo (stop : Nat) : List Nat → List Nat
    | [] => []
    | i :: rest => if i = stop then [i] else i :: upTo stop rest

/-- How many live cells lie to the left of the head. -/
def headIndex (t : Tape σ) : Nat := (t.liveCells.idxOf? t.head).getD 0

/-- The tape after a move by an offset of some kind: a decimal one leaves its mark. -/
def markOffset (t : Tape σ) (v : Value) (d : Direction) : Tape σ :=
  { t with inDecimals := t.inDecimals || (v.kind = .double && d ≠ .stay) }

variable [Symbol σ]

/-- A tape that holds a word from position 0 on, with the head on its first character; the empty
word gives one blank cell. -/
def ofWord : List σ → Tape σ
  | [] => ⟨Chain.empty.make (Symbol.ofChar blank), 0, 0, 0, 0, 0, 0, false⟩
  | s :: rest =>
    ⟨rest.foldl appendCell (Chain.empty.make s), 0, rest.length, 0, 0, rest.length, 0, false⟩

/-- A tape that holds an unchecked word: the characters of a text, or the items of a list. -/
def ofValue (v : Value) : Except Fault (Tape σ) :=
  match v.items with
  | .error f => .error (.notAWord f)
  | .ok vs =>
    match Symbol.ofValues vs with
    | .ok symbols => .ok (ofWord symbols)
    | .error v => .error (.notASymbol v)

@[simp] theorem ofValue_text (s : String) :
    (ofValue (.text s) : Except Fault Tape) = .ok (ofWord s.toList) := by
  have h := Symbol.ofValues_map_value s.toList
  rw [Symbol.value_char] at h
  simp [ofValue, Value.items_text, h]

theorem ofValue_rawText (s : Text.RawText) :
    (ofValue (.text s) : Except Fault (Tape Text.CodePoint)) = .ok (ofWord s.points) := by
  have h := Symbol.ofValues_map_value s.points
  rw [Symbol.value_point] at h
  rw [ofValue, Value.items]
  simp only [h]

/-- The symbol of a cell. -/
def symbolAt (t : Tape σ) (i : Nat) : σ := (t.chain.symbol? i).getD (Symbol.ofChar blank)

/-- Whether a cell is blank. -/
def blankAt (t : Tape σ) (i : Nat) : Bool := t.symbolAt i == Symbol.ofChar blank

theorem blankAt_char (t : Tape) (i : Nat) : t.blankAt i = decide (t.symbolAt i = blank) := rfl

/-- The symbol under the head. -/
def read (t : Tape σ) : σ := t.symbolAt t.head

/-- The cell that is to be the first one if the first one is blank and the head stands elsewhere. -/
def newFirst? (t : Tape σ) : Option Nat :=
  if t.first ≠ t.head ∧ t.blankAt t.first then t.chain.right? t.first else none

/-- Drop the first cell, of which `i` is the right neighbour. -/
def dropFirst (t : Tape σ) (i : Nat) : Tape σ × Event :=
  ({ t with
      chain := t.chain.unlink t.first i
      first := i
      firstPosition := t.firstPosition + 1 },
    .dropped t.firstPosition)

/-- The cell that is to be the last one if the last one is blank and the head stands elsewhere. -/
def newLast? (t : Tape σ) : Option Nat :=
  if t.last ≠ t.head ∧ t.blankAt t.last then t.chain.left? t.last else none

/-- Drop the last cell, of which `i` is the left neighbour. -/
def dropLast (t : Tape σ) (i : Nat) : Tape σ × Event :=
  ({ t with
      chain := t.chain.unlink i t.last
      last := i
      lastPosition := t.lastPosition - 1 },
    .dropped t.lastPosition)

/-- Drop cells at an end as long as there is a new one for the end, at most `steps` times. -/
def dropAll (new? : Tape σ → Option Nat) (drop : Tape σ → Nat → Tape σ × Event) :
    (steps : Nat) → Tape σ → Tape σ × List Event
  | 0, t => (t, [])
  | steps + 1, t =>
    match new? t with
    | none => (t, [])
    | some i =>
      let (u, e) := drop t i
      let (v, es) := dropAll new? drop steps u
      (v, e :: es)

/-- Drop the blank cells at the left end, then those at the right end, up to the head. -/
def trim (t : Tape σ) : Tape σ × List Event :=
  let (u, es) := dropAll newFirst? dropFirst t.length t
  let (v, fs) := dropAll newLast? dropLast u.length u
  (v, es ++ fs)

/-- Put the head on a neighbouring cell. -/
def shift (t : Tape σ) (d : Direction) (i : Nat) : Tape σ :=
  { t with head := i, position := t.position + d.offset }

/-- The tape with a fresh blank cell to the right of the head, which is on the last cell. -/
def growRight (t : Tape σ) : Tape σ :=
  let new := t.chain.size
  { t with
    chain := (t.chain.make (Symbol.ofChar blank)).link t.head new
    last := new
    lastPosition := t.lastPosition + 1 }

/-- The tape with a fresh blank cell to the left of the head, which is on the first cell. -/
def growLeft (t : Tape σ) : Tape σ :=
  let new := t.chain.size
  { t with
    chain := (t.chain.make (Symbol.ofChar blank)).link new t.head
    first := new
    firstPosition := t.firstPosition - 1 }

/-- Bring the head to the next cell, growing the tape where there is no cell yet. -/
def reach (t : Tape σ) : Direction → Tape σ × List Event
  | .stay => (t, [])
  | .right =>
    match t.chain.right? t.head with
    | some i => (t.shift .right i, [])
    | none =>
      let u := t.growRight
      (u.shift .right u.last, [.grewRight u.lastPosition])
  | .left =>
    match t.chain.left? t.head with
    | some i => (t.shift .left i, [])
    | none =>
      let u := t.growLeft
      (u.shift .left u.first, [.grewLeft u.firstPosition])

/-- Move the head and trim the tape, unless the head stays. -/
def move (t : Tape σ) (d : Direction) : Tape σ × List Event :=
  if d = .stay then (t, [])
  else
    let (u, es) := t.reach d
    let (v, fs) := u.trim
    (v, es ++ fs)

/-- Write an unchecked value under the head. -/
def writeValue (t : Tape σ) (v : Value) : Except Fault (Tape σ) :=
  match Symbol.written? v with
  | some s => .ok (t.write s)
  | none => .error (.notASymbol v)

/-- Move the head in a direction given by an unchecked offset. -/
def moveValue (t : Tape σ) (v : Value) : Except Fault (Tape σ × List Event) :=
  match Direction.ofValue? v with
  | some d =>
    let (u, es) := t.move d
    .ok (u.markOffset v d, es)
  | none => .error (.notADirection v)

/-- The live symbols from left to right. -/
def symbols (t : Tape σ) : List σ := t.liveCells.map t.symbolAt

/-- The number of live cells that are not blank. -/
def countNonblanks (t : Tape σ) : Nat := t.liveCells.countP fun i => !t.blankAt i

/-- Whether left links lead from `last` back through the live cells, and no link leads out. -/
def linked (t : Tape σ) : Bool :=
  (t.chain.leftward t.chain.size t.last).map t.symbolAt == t.symbols.reverse &&
    (t.chain.left? t.first).isNone && (t.chain.right? t.last).isNone

/-- The live symbols as text, if all of them are texts. -/
def text (t : Tape σ) : Except Value.Misuse String := Symbol.join t.symbols

theorem text_char (t : Tape) : t.text = .ok (String.ofList t.symbols) := Symbol.join_char t.symbols

/-- The live symbols and the head's position, for messages. -/
def describe (t : Tape σ) : Except Value.Misuse String :=
  t.text.map fun text =>
    "Tape(" ++ Text.quote text ++ ", position=" ++ Text.integer t.position ++
      (if t.inDecimals then ".0" else "") ++ ")"

/-- How a cell of the tape is shown. -/
def describeCell (t : Tape σ) (i : Nat) : String :=
  t.chain.describe (fun s => (Symbol.value s).shown) i

end Tape

end TapeMachine
