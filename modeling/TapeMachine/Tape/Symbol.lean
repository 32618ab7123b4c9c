import TapeMachine.Value.Operation

/-!
# Symbols

What the cells of a tape hold.  A machine writes single code points, and a text
has no other symbols.  Mostly they are characters, for which a tape over `Char`
will do; it has no cell for half a surrogate pair, so where texts may hold halves
the tape is over `CodePoint`.  A word given as a list may have items of any kind;
it needs a tape over `Value`, which can be worked on as any other, but shown as
text only while texts are all that it holds.
-/

namespace TapeMachine

open TapeMachine.Text

/-- The symbol of a cell on which nothing has been written. -/
def blank : Char := 'B'

/-- Symbols of a tape.  Each is a value, and every character is one of them; which other values are
is up to the instance (`ofValue?`), and so is which values can be written (`written?`). -/
class Symbol (σ : Type) extends BEq σ where
  ofChar : Char → σ
  value : σ → Value
  ofValue? : Value → Option σ
  written? : Value → Option σ

/-- Single characters. -/
instance : Symbol Char where
  beq := instBEqOfDecidableEq.beq
  ofChar c := c
  value := Value.ofSymbol
  ofValue? := Value.symbol?
  written? := Value.symbol?

/-- Single code points. -/
instance : Symbol CodePoint where
  beq := instBEqOfDecidableEq.beq
  ofChar := .char
  value := Value.ofPoint
  ofValue? := Value.point?
  written? := Value.point?

/-- Values of all kinds; what is written is a single code point here too. -/
instance : Symbol Value where
  beq := Value.same
  ofChar := Value.ofSymbol
  value v := v
  ofValue? := some
  written? v := v.point?.map fun _ => v

/-- Symbols that are told apart by equality, each of them a text that stands for it. -/
class LawfulSymbol (σ : Type) [Symbol σ] : Prop extends LawfulBEq σ where
  value_eq_text (s : σ) : ∃ t, Symbol.value s = .text t
  ofValue?_value (s : σ) : Symbol.ofValue? (Symbol.value s) = some s

instance : LawfulSymbol Char where
  value_eq_text c := ⟨String.singleton c, rfl⟩
  ofValue?_value := Value.symbol?_ofSymbol
  eq_of_beq := of_decide_eq_true
  rfl := decide_eq_true rfl

instance : LawfulSymbol CodePoint where
  value_eq_text p := ⟨RawText.ofPoints [p], rfl⟩
  ofValue?_value := Value.point?_ofPoint
  eq_of_beq := of_decide_eq_true
  rfl := decide_eq_true rfl

namespace Symbol

/-- The text of symbols in a row, if all of them are texts. -/
def join {σ : Type} [Symbol σ] (symbols : List σ) : Except Value.Misuse String :=
  Value.joinTexts (symbols.map value)

/-- The symbols that values stand for; the first value that stands for none is refused. -/
def ofValues {σ : Type} [Symbol σ] : List Value → Except Value (List σ)
  | [] => .ok []
  | v :: rest =>
    match ofValue? v with
    | some s => (ofValues rest).map (s :: ·)
    | none => .error v

@[simp] theorem ofChar_char (c : Char) : (ofChar c : Char) = c := rfl

@[simp] theorem value_char : (value : Char → Value) = Value.ofSymbol := rfl

@[simp] theorem value_point : (value : CodePoint → Value) = Value.ofPoint := rfl

@[simp] theorem written?_char : (written? : Value → Option Char) = Value.symbol? := rfl

@[simp] theorem written?_point : (written? : Value → Option CodePoint) = Value.point? := rfl

theorem ofValues_map_value {σ : Type} [Symbol σ] [LawfulSymbol σ] (symbols : List σ) :
    ofValues (symbols.map value) = .ok symbols := by
  induction symbols with
  | nil => rfl
  | cons s rest ih => simp [ofValues, LawfulSymbol.ofValue?_value, ih, Except.map]

theorem join_char (cs : List Char) : join cs = .ok (String.ofList cs) := Value.joinTexts_ofSymbol cs

end Symbol

end TapeMachine
