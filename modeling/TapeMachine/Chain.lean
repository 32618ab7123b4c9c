import TapeMachine.Text.Quoted

/-!
# Chains of cells

A chain is a store of cells with a symbol and links to a left and a right
neighbour.  A cell is named by the number of cells made before it, so it keeps
its name whatever happens to its links, and no two cells share one.
-/

namespace TapeMachine

/-- A cell: its symbol and the names of its neighbours. -/
structure Cell (σ : Type) where
  symbol : σ
  left : Option Nat
  right : Option Nat
  deriving DecidableEq, Repr

/-- Cells in the order in which they were made. -/
structure Chain (σ : Type) where
  cells : Array (Cell σ)
  deriving DecidableEq, Repr

namespace Chain

variable {σ : Type}

/-- The chain without cells. -/
def empty : Chain σ := ⟨#[]⟩

/-- The number of cells made so far, which is the name of the next one. -/
def size (c : Chain σ) : Nat := c.cells.size

/-- The symbol of a cell. -/
def symbol? (c : Chain σ) (i : Nat) : Option σ := c.cells[i]?.map (·.symbol)

/-- The left neighbour of a cell. -/
def left? (c : Chain σ) (i : Nat) : Option Nat := c.cells[i]?.bind (·.left)

/-- The right neighbour of a cell. -/
def right? (c : Chain σ) (i : Nat) : Option Nat := c.cells[i]?.bind (·.right)

/-- Make a cell without neighbours. -/
def make (c : Chain σ) (s : σ) : Chain σ := ⟨c.cells.push ⟨s, none, none⟩⟩

/-- Change the symbol of a cell. -/
def setSymbol (c : Chain σ) (i : Nat) (s : σ) : Chain σ :=
  ⟨c.cells.modify i fun cell => { cell with symbol := s }⟩

/-- Change the left link of a cell. -/
def setLeft (c : Chain σ) (i : Nat) (l : Option Nat) : Chain σ :=
  ⟨c.cells.modify i fun cell => { cell with left := l }⟩

/-- Change the right link of a cell. -/
def setRight (c : Chain σ) (i : Nat) (r : Option Nat) : Chain σ :=
  ⟨c.cells.modify i fun cell => { cell with right := r }⟩

/-- Make `j` the right neighbour of `i`, and `i` the left neighbour of `j`. -/
def link (c : Chain σ) (i j : Nat) : Chain σ := (c.setRight i (some j)).setLeft j (some i)

/-- Undo the link between `i` and its right neighbour `j`. -/
def unlink (c : Chain σ) (i j : Nat) : Chain σ := (c.setLeft j none).setRight i none

/-- The cells met by following right links from `i`, at most `steps` of them. -/
def rightward (c : Chain σ) : (steps : Nat) → (i : Nat) → List Nat
  | 0, _ => []
  | steps + 1, i =>
    i :: match c.right? i with
      | some j => rightward c steps j
      | none => []

/-- The cells met by following left links from `i`, at most `steps` of them. -/
def leftward (c : Chain σ) : (steps : Nat) → (i : Nat) → List Nat
  | 0, _ => []
  | steps + 1, i =>
    i :: match c.left? i with
      | some j => leftward c steps j
      | none => []

@[simp] theorem size_empty : (empty : Chain σ).size = 0 := rfl

@[simp] theorem size_make (c : Chain σ) (s : σ) : (c.make s).size = c.size + 1 := by
  simp [make, size]

@[simp] theorem size_setSymbol (c : Chain σ) (i : Nat) (s : σ) :
    (c.setSymbol i s).size = c.size := by
  simp [setSymbol, size]

@[simp] theorem size_setLeft (c : Chain σ) (i : Nat) (l : Option Nat) :
    (c.setLeft i l).size = c.size := by
  simp [setLeft, size]

@[simp] theorem size_setRight (c : Chain σ) (i : Nat) (r : Option Nat) :
    (c.setRight i r).size = c.size := by
  simp [setRight, size]

@[simp] theorem size_link (c : Chain σ) (i j : Nat) : (c.link i j).size = c.size := by
  simp [link]

@[simp] theorem size_unlink (c : Chain σ) (i j : Nat) : (c.unlink i j).size = c.size := by
  simp [unlink]

/-! ### What the operations do to a cell -/

theorem symbol?_make (c : Chain σ) (s : σ) (k : Nat) :
    (c.make s).symbol? k = if k = c.size then some s else c.symbol? k := by
  rw [symbol?, make, Array.getElem?_push]
  by_cases h : k = c.cells.size <;> simp [h, size, symbol?]

@[simp] theorem left?_make (c : Chain σ) (s : σ) (k : Nat) : (c.make s).left? k = c.left? k := by
  rw [left?, make, Array.getElem?_push]
  by_cases h : k = c.cells.size <;> simp [h, left?]

@[simp] theorem right?_make (c : Chain σ) (s : σ) (k : Nat) :
    (c.make s).right? k = c.right? k := by
  rw [right?, make, Array.getElem?_push]
  by_cases h : k = c.cells.size <;> simp [h, right?]

theorem symbol?_setSymbol (c : Chain σ) (i : Nat) (s : σ) (k : Nat) :
    (c.setSymbol i s).symbol? k = if k = i then (c.symbol? k).map fun _ => s else c.symbol? k := by
  rw [symbol?, setSymbol, Array.getElem?_modify]
  by_cases h : k = i <;> simp [h, symbol?, Function.comp_def, Ne.symm]

@[simp] theorem left?_setSymbol (c : Chain σ) (i : Nat) (s : σ) (k : Nat) :
    (c.setSymbol i s).left? k = c.left? k := by
  rw [left?, setSymbol, Array.getElem?_modify]
  split
  · rw [Option.bind_map]
    rfl
  · rfl

@[simp] theorem right?_setSymbol (c : Chain σ) (i : Nat) (s : σ) (k : Nat) :
    (c.setSymbol i s).right? k = c.right? k := by
  rw [right?, setSymbol, Array.getElem?_modify]
  split
  · rw [Option.bind_map]
    rfl
  · rfl

theorem left?_setLeft (c : Chain σ) (i : Nat) (l : Option Nat) (k : Nat) :
    (c.setLeft i l).left? k = if k = i ∧ i < c.size then l else c.left? k := by
  rw [left?, setLeft, Array.getElem?_modify]
  by_cases h : k = i
  · by_cases hi : i < c.cells.size <;> simp [h, hi, size, left?]
  · simp [h, Ne.symm h, left?]

@[simp] theorem symbol?_setLeft (c : Chain σ) (i : Nat) (l : Option Nat) (k : Nat) :
    (c.setLeft i l).symbol? k = c.symbol? k := by
  rw [symbol?, setLeft, Array.getElem?_modify]
  split <;> simp [symbol?, Function.comp_def]

@[simp] theorem right?_setLeft (c : Chain σ) (i : Nat) (l : Option Nat) (k : Nat) :
    (c.setLeft i l).right? k = c.right? k := by
  rw [right?, setLeft, Array.getElem?_modify]
  split
  · rw [Option.bind_map]
    rfl
  · rfl

theorem right?_setRight (c : Chain σ) (i : Nat) (r : Option Nat) (k : Nat) :
    (c.setRight i r).right? k = if k = i ∧ i < c.size then r else c.right? k := by
  rw [right?, setRight, Array.getElem?_modify]
  by_cases h : k = i
  · by_cases hi : i < c.cells.size <;> simp [h, hi, size, right?]
  · simp [h, Ne.symm h, right?]

@[simp] theorem symbol?_setRight (c : Chain σ) (i : Nat) (r : Option Nat) (k : Nat) :
    (c.setRight i r).symbol? k = c.symbol? k := by
  rw [symbol?, setRight, Array.getElem?_modify]
  split <;> simp [symbol?, Function.comp_def]

@[simp] theorem left?_setRight (c : Chain σ) (i : Nat) (r : Option Nat) (k : Nat) :
    (c.setRight i r).left? k = c.left? k := by
  rw [left?, setRight, Array.getElem?_modify]
  split
  · rw [Option.bind_map]
    rfl
  · rfl

@[simp] theorem symbol?_link (c : Chain σ) (i j k : Nat) :
    (c.link i j).symbol? k = c.symbol? k := by
  simp [link]

theorem right?_link {c : Chain σ} {i : Nat} (h : i < c.size) (j k : Nat) :
    (c.link i j).right? k = if k = i then some j else c.right? k := by
  simp [link, right?_setRight, h]

theorem left?_link {c : Chain σ} {j : Nat} (h : j < c.size) (i k : Nat) :
    (c.link i j).left? k = if k = j then some i else c.left? k := by
  simp [link, left?_setLeft, h]

@[simp] theorem symbol?_unlink (c : Chain σ) (i j k : Nat) :
    (c.unlink i j).symbol? k = c.symbol? k := by
  simp [unlink]

theorem right?_unlink {c : Chain σ} {i : Nat} (h : i < c.size) (j k : Nat) :
    (c.unlink i j).right? k = if k = i then none else c.right? k := by
  simp [unlink, right?_setRight, h]

theorem left?_unlink {c : Chain σ} {j : Nat} (h : j < c.size) (i k : Nat) :
    (c.unlink i j).left? k = if k = j then none else c.left? k := by
  simp [unlink, left?_setLeft, h]

/-! ### A new cell with a link -/

@[simp] theorem left?_size (c : Chain σ) : c.left? c.size = none := by simp [left?, size]

theorem symbol?_make_link (c : Chain σ) (s : σ) (i j k : Nat) :
    ((c.make s).link i j).symbol? k = if k = c.size then some s else c.symbol? k := by
  rw [symbol?_link, symbol?_make]

theorem right?_make_link {c : Chain σ} {i : Nat} (h : i ≤ c.size) (s : σ) (j k : Nat) :
    ((c.make s).link i j).right? k = if k = i then some j else c.right? k := by
  rw [right?_link (by rw [size_make]; omega), right?_make]

theorem left?_make_link {c : Chain σ} {j : Nat} (h : j ≤ c.size) (s : σ) (i k : Nat) :
    ((c.make s).link i j).left? k = if k = j then some i else c.left? k := by
  rw [left?_link (by rw [size_make]; omega), left?_make]

end Chain

/-- How a cell of a chain is shown, given how symbols are. -/
def Chain.describe {σ : Type} (c : Chain σ) (symbolText : σ → String) (i : Nat) : String :=
  let neighbour (j? : Option Nat) : String := ((j?.bind c.symbol?).map symbolText).getD "None"
  "Cell(" ++ ((c.symbol? i).map symbolText).getD "None" ++ ", left=" ++ neighbour (c.left? i) ++
    ", right=" ++ neighbour (c.right? i) ++ ")"

end TapeMachine
