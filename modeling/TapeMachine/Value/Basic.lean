import TapeMachine.Binary64.Shortest
import TapeMachine.Text.CodePoint

/-!
# Unchecked values

Settings files and hand-made transition tables hold values of any kind until
they are checked.  `Value` is such a value, `Value.kind` its kind, and
`Value.text` the way it is shown in messages.
-/

namespace TapeMachine

open TapeMachine.Text

/-- A value that nothing has checked yet. -/
inductive Value
  | null
  | bool (b : Bool)
  | int (n : Int)
  | double (x : Binary64.Double)
  | text (s : RawText)
  | list (items : List Value)
  | object (fields : List (RawText × Value))

/-- The kinds of values. -/
inductive Value.Kind
  | null | bool | int | double | text | list | object
  deriving DecidableEq, Repr

namespace Value

/-- The kind of a value. -/
def kind : Value → Kind
  | .null => .null
  | .bool _ => .bool
  | .int _ => .int
  | .double _ => .double
  | .text _ => .text
  | .list _ => .list
  | .object _ => .object

/-- The word for a kind in messages. -/
def Kind.word : Kind → String
  | .null => "NoneType"
  | .bool => "bool"
  | .int => "int"
  | .double => "float"
  | .text => "str"
  | .list => "list"
  | .object => "dict"

/-- The name of a kind in messages. -/
def Kind.name (k : Kind) : String := "<class '" ++ k.word ++ "'>"

mutual

/-- A value as messages show it. -/
def chars : Value → List Char
  | .null => "None".toList
  | .bool b => if b then "True".toList else "False".toList
  | .int n => signed n
  | .double x => x.text
  | .text s => s.quoteChars
  | .list items => '[' :: (charsOfItems items ++ [']'])
  | .object fields => '\x7b' :: (charsOfFields fields ++ ['\x7d'])

/-- The items of a list with commas between them. -/
def charsOfItems : List Value → List Char
  | [] => []
  | [v] => v.chars
  | v :: w :: rest => v.chars ++ [',', ' '] ++ charsOfItems (w :: rest)

/-- The fields of an object with commas between them. -/
def charsOfFields : List (RawText × Value) → List Char
  | [] => []
  | [(k, v)] => k.quoteChars ++ [':', ' '] ++ v.chars
  | (k, v) :: f :: rest =>
    k.quoteChars ++ [':', ' '] ++ v.chars ++ [',', ' '] ++ charsOfFields (f :: rest)

end

/-- A value as messages show it, as a string. -/
def shown (v : Value) : String := String.ofList v.chars

/-- A value as messages name it: a text stands for itself, without marks. -/
def plainChars : Value → List Char
  | .text s => s.printed.toList
  | v => v.chars

/-- A value as messages name it, as a string. -/
def plain (v : Value) : String := String.ofList v.plainChars

@[simp] theorem plainChars_int (n : Int) : (Value.int n).plainChars = signed n := by
  simp [plainChars, chars]

/-- Values in parentheses; a single one has a comma after it. -/
def tuple : List Value → String
  | [] => "()"
  | [v] => "(" ++ v.shown ++ ",)"
  | vs => "(" ++ ", ".intercalate (vs.map shown) ++ ")"

/-- The string that a value is. -/
def string? : Value → Option String
  | .text s => s.string?
  | _ => none

/-- A symbol as a value. -/
def ofSymbol (c : Char) : Value := .text (String.singleton c)

/-- The character that a value stands for: a text of one character. -/
def symbol? (v : Value) : Option Char := do
  match (← v.string?).toList with
  | [c] => some c
  | _ => none

/-- A code point as a value. -/
def ofPoint (p : CodePoint) : Value := .text (RawText.ofPoints [p])

/-- The code point that a value stands for: a text of one code point, which may be half a surrogate
pair. -/
def point? : Value → Option CodePoint
  | .text s =>
    match s.points with
    | [p] => some p
    | _ => none
  | _ => none

theorem symbol?_ofSymbol (c : Char) : (ofSymbol c).symbol? = some c := by
  simp [ofSymbol, symbol?, string?, RawText.string?]

theorem ofPoint_char (c : Char) : ofPoint (.char c) = ofSymbol c := by
  rw [ofPoint, RawText.ofPoints_char, ofSymbol]

theorem point?_eq_some_iff {v : Value} {p : CodePoint} :
    v.point? = some p ↔ ∃ s : RawText, s.points = [p] ∧ v = .text s := by
  cases v with
  | text s =>
    rw [point?]
    split
    · next q hq => simp [hq]
    · next hne => simpa using hne p
  | _ => simp [point?]

theorem point?_ofPoint (p : CodePoint) : (ofPoint p).point? = some p :=
  point?_eq_some_iff.2 ⟨_, RawText.points_ofPoints_singleton p, rfl⟩

/-- The integer that a value equals: truth values count as one and zero, and a double that is an
integer equals it. -/
def integer? : Value → Option Int
  | .int n => some n
  | .bool b => some (if b then 1 else 0)
  | .double (.finite negative x) =>
    if x.den = 1 then some (if negative then -x.num else x.num) else none
  | _ => none

end Value

/-- Named values in order, no name twice. -/
abbrev Fields := List (RawText × Value)

namespace Fields

/-- The value of a name. -/
def get? (fields : Fields) (name : RawText) : Option Value :=
  (fields.find? fun f => f.1 = name).map (·.2)

/-- Give a name a value: in its place if it has one, else at the end. -/
def put (fields : Fields) (name : RawText) (v : Value) : Fields :=
  match fields with
  | [] => [(name, v)]
  | f :: rest => if f.1 = name then (name, v) :: rest else f :: put rest name v

/-- Put all the named values of `changes`, in order. -/
def override (fields changes : Fields) : Fields :=
  changes.foldl (fun acc f => put acc f.1 f.2) fields

/-- The fields without a name. -/
def drop (fields : Fields) (name : RawText) : Fields :=
  fields.filter fun f => f.1 ≠ name

end Fields

end TapeMachine
